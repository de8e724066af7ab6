import AlertService.Proofs.Text.Utf8
import AlertService.Text.Digits

/-!
# Numbers and their digits

* `natural?_eq_some`: which texts write a number.
* `natural?_toDigits`: the digits of a number write it.
-/

namespace AlertService.Text

/-- The value of a character that is a digit. -/
def valueOf (c : Char) : Nat := c.toNat - 48

variable {c : Char} {cs : List Char} {n : Nat}

theorem isDigit_iff : isDigit c = true ↔ 48 ≤ c.toNat ∧ c.toNat ≤ 57 := by
  unfold isDigit digitValue?
  split_ifs with h <;> simp [h]

theorem digitValue?_eq_some : digitValue? c = some n ↔ isDigit c = true ∧ n = valueOf c := by
  rw [isDigit_iff]
  unfold digitValue? valueOf
  split_ifs with h
  · simp [h, eq_comm]
  · simp [h]

theorem ascii_of_isDigit (h : isDigit c = true) : c.toNat < 128 := by
  have := isDigit_iff.mp h
  omega

theorem mapM_digitValue? {ds : List Nat} : cs.mapM digitValue? = some ds ↔
    (∀ c ∈ cs, isDigit c = true) ∧ ds = cs.map valueOf := by
  induction cs generalizing ds with
  | nil =>
    constructor
    · rintro ⟨⟩
      exact ⟨fun _ h => absurd h List.not_mem_nil, rfl⟩
    · rintro ⟨-, rfl⟩
      rfl
  | cons c cs ih =>
    simp only [List.mapM_cons, bind, pure, Option.bind_eq_some_iff, digitValue?_eq_some, ih,
      Option.some.injEq, List.forall_mem_cons, List.map_cons]
    constructor
    · rintro ⟨d, ⟨hc, rfl⟩, ds, ⟨hcs, rfl⟩, rfl⟩
      exact ⟨⟨hc, hcs⟩, rfl⟩
    · rintro ⟨⟨hc, hcs⟩, rfl⟩
      exact ⟨_, ⟨hc, rfl⟩, _, ⟨hcs, rfl⟩, rfl⟩

theorem natural?_eq_some : natural? cs = some n ↔
    cs ≠ [] ∧ (∀ c ∈ cs, isDigit c = true) ∧ n = ofDigits (cs.map valueOf) := by
  unfold natural?
  cases cs with
  | nil => simp
  | cons c cs =>
    simp only [List.isEmpty_cons, Bool.false_eq_true, if_false, Option.map_eq_some_iff,
      mapM_digitValue?]
    constructor
    · rintro ⟨-, ⟨hdigits, rfl⟩, rfl⟩
      exact ⟨List.cons_ne_nil _ _, hdigits, rfl⟩
    · rintro ⟨-, hdigits, rfl⟩
      exact ⟨_, ⟨hdigits, rfl⟩, rfl⟩

theorem ofDigits_concat (ds : List Nat) (d : Nat) : ofDigits (ds ++ [d]) = ofDigits ds * 10 + d := by
  simp [ofDigits]

/-! ## The digits of a number -/

theorem isDigit_digitChar {d : Nat} (h : d < 10) :
    isDigit (Nat.digitChar d) = true ∧ valueOf (Nat.digitChar d) = d := by
  revert d
  decide

/-- The digits of a number write it, and none of them is a zero in front. -/
theorem toDigits_spec (n : Nat) : (∀ c ∈ Nat.toDigits 10 n, isDigit c = true) ∧
    ofDigits ((Nat.toDigits 10 n).map valueOf) = n ∧
    ((Nat.toDigits 10 n).head? = some '0' → n = 0) := by
  induction n using Nat.strongRecOn with
  | ind n ih =>
    rw [Nat.toDigits_eq_if (by decide)]
    split_ifs with hn
    · obtain ⟨hdigit, hvalue⟩ := isDigit_digitChar hn
      refine ⟨List.forall_mem_singleton.mpr hdigit, ?_, fun hzero => ?_⟩
      · simpa [ofDigits] using hvalue
      · have hchar : Nat.digitChar n = '0' := Option.some.inj hzero
        rw [hchar] at hvalue
        exact hvalue.symm
    · have hlt : n / 10 < n := by omega
      have hlast : n % 10 < 10 := by omega
      obtain ⟨hdigits, hvalue, hhead⟩ := ih (n / 10) hlt
      obtain ⟨hdigit, hlastValue⟩ := isDigit_digitChar hlast
      refine ⟨?_, ?_, fun hzero => ?_⟩
      · exact List.forall_mem_append.mpr ⟨hdigits, List.forall_mem_singleton.mpr hdigit⟩
      · rw [List.map_append, List.map_singleton, ofDigits_concat, hvalue, hlastValue]
        omega
      · have hfirst : (Nat.toDigits 10 (n / 10)).head? = some '0' := by
          rwa [List.head?_append_of_ne_nil _ Nat.toDigits_ne_nil] at hzero
        have := hhead hfirst
        omega

theorem natural?_toDigits (n : Nat) : natural? (Nat.toDigits 10 n) = some n := by
  obtain ⟨hdigits, hvalue, -⟩ := toDigits_spec n
  exact natural?_eq_some.mpr ⟨Nat.toDigits_ne_nil, hdigits, hvalue.symm⟩

/-! ## Digits as bytes -/

theorem isDigitByte_toUInt8 (h : c.toNat < 128) : isDigitByte c.toUInt8 = isDigit c := by
  rw [Bool.eq_iff_iff, isDigit_iff, isDigitByte, Utf8.toNat_toUInt8 h]
  simp

theorem digitOfByte_toUInt8 (h : c.toNat < 128) : digitOfByte c.toUInt8 = valueOf c := by
  rw [digitOfByte, Utf8.toNat_toUInt8 h, valueOf]

theorem isDigit_ofNat {b : UInt8} (h : isDigitByte b = true) :
    isDigit (Char.ofNat b.toNat) = true := by
  have hrange : 48 ≤ b.toNat ∧ b.toNat ≤ 57 := by simpa [isDigitByte] using h
  rw [isDigit_iff, Utf8.toNat_ofNat (.inl (by omega))]
  exact hrange

end AlertService.Text
