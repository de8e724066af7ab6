import AlertService.Proofs.Except
import AlertService.Proofs.Text.Blank
import AlertService.Proofs.Text.Digits
import AlertService.Startup.Number

/-!
# Which texts denote a number

* `number_eq_ok`: a setting is read as a number if and only if it denotes it and the number is below
the bound.
-/

namespace AlertService.Setting

open Text (isBlank isDigit valueOf)

variable {bound n m : Nat} {s : String} {cs : List Char}

/-- The text writes the number in decimal digits, with a plus sign in front of them or not, between
blanks or not. -/
def Denotes (cs : List Char) (n : Nat) : Prop :=
  ∃ before sign digits after, cs = before ++ (sign ++ digits) ++ after ∧
    (∀ c ∈ before, isBlank c = true) ∧ (sign = [] ∨ sign = ['+']) ∧
    Text.natural? digits = some n ∧ ∀ c ∈ after, isBlank c = true

/-- The number with the digits after it. -/
def extended (n : Nat) (cs : List Char) : Nat := (cs.map valueOf).foldl (fun n d => n * 10 + d) n

theorem extended_cons (n : Nat) (c : Char) (cs : List Char) :
    extended n (c :: cs) = extended (n * 10 + valueOf c) cs := by
  rw [extended, List.map_cons, List.foldl_cons, extended]

theorem le_extended (n : Nat) (cs : List Char) : n ≤ extended n cs := by
  induction cs generalizing n with
  | nil => exact Nat.le_refl n
  | cons c cs ih =>
    have hrest := ih (n * 10 + valueOf c)
    rw [extended_cons]
    omega

/-- The digits are read to the end if none of the numbers on the way is too large, which the last
one tells. -/
theorem readDigits_eq_ok (hn : n < bound) : readDigits bound n cs = .ok m ↔
    (∀ c ∈ cs, isDigit c = true) ∧ m = extended n cs ∧ m < bound := by
  induction cs generalizing n with
  | nil =>
    rw [readDigits, Except.ok.injEq]
    constructor
    · rintro rfl
      exact ⟨nofun, rfl, hn⟩
    · rintro ⟨-, rfl, -⟩
      rfl
  | cons c cs ih =>
    rw [readDigits, extended_cons, List.forall_mem_cons]
    cases hc : Text.digitValue? c with
    | none =>
      have hnot : isDigit c = false := by rw [isDigit, hc]; rfl
      exact iff_of_false nofun fun h => absurd (h.1.1.symm.trans hnot) (by decide)
    | some d =>
      obtain ⟨hdigit, rfl⟩ := Text.digitValue?_eq_some.mp hc
      rw [and_iff_right hdigit]
      by_cases hnext : n * 10 + valueOf c < bound
      · simp only [if_pos hnext]
        exact ih hnext
      · simp only [if_neg hnext]
        have hle := le_extended (n * 10 + valueOf c) cs
        refine iff_of_false nofun fun h => ?_
        omega

theorem readDigits_eq_natural (hbound : 0 < bound) (hcs : cs ≠ []) :
    readDigits bound 0 cs = .ok n ↔ Text.natural? cs = some n ∧ n < bound := by
  rw [readDigits_eq_ok hbound, Text.natural?_eq_some, and_iff_right hcs, and_assoc]
  rfl

/-! ## Around the digits -/

theorem number_of_plus {c : Char} (h : Text.trim s.toList = '+' :: c :: cs) :
    number bound s = readDigits bound 0 (c :: cs) := by
  rw [number, h]
  rfl

theorem number_of_digit {c : Char} (h : Text.trim s.toList = c :: cs) (hc : c ≠ '+') :
    number bound s = readDigits bound 0 (c :: cs) := by
  rw [number, h]
  split
  case h_1 heq => exact nomatch heq
  case h_2 heq => exact absurd (List.cons.inj heq).1 hc
  case h_3 heq => exact absurd (List.cons.inj heq).1 hc
  case h_4 => rfl

theorem not_isBlank_of_isDigit {c : Char} (h : isDigit c = true) : isBlank c = false := by
  have hrange := Text.isDigit_iff.mp h
  simp only [isBlank, Bool.or_eq_false_iff, Bool.and_eq_false_iff, decide_eq_false_iff_not,
    beq_eq_false_iff_ne]
  omega

/-- What is left of a text that denotes a number, without the blanks around it. -/
theorem denotes_iff : Denotes cs n ↔ ∃ sign digits, Text.trim cs = sign ++ digits ∧
    (sign = [] ∨ sign = ['+']) ∧ Text.natural? digits = some n := by
  constructor
  · rintro ⟨before, sign, digits, after, rfl, hbefore, hsign, hdigits, hafter⟩
    refine ⟨sign, digits, Text.trim_append hbefore (fun c hc => ?_) hafter, hsign, hdigits⟩
    rcases List.mem_append.mp hc with hc | hc
    · rcases hsign with rfl | rfl
      · exact absurd hc List.not_mem_nil
      · rw [List.mem_singleton.mp hc]
        rfl
    · exact not_isBlank_of_isDigit ((Text.natural?_eq_some.mp hdigits).2.1 c hc)
  · rintro ⟨sign, digits, htrim, hsign, hdigits⟩
    obtain ⟨before, after, hcs, hbefore, hafter⟩ := Text.exists_trim cs
    rw [htrim] at hcs
    exact ⟨before, sign, digits, after, hcs, hbefore, hsign, hdigits, hafter⟩

theorem number_eq_ok (hbound : 0 < bound) :
    number bound s = .ok n ↔ Denotes s.toList n ∧ n < bound := by
  rw [denotes_iff]
  constructor
  · intro h
    have hdigits : ∀ ds, ds ≠ [] → number bound s = readDigits bound 0 ds →
        Text.natural? ds = some n ∧ n < bound := fun ds hds hread =>
      (readDigits_eq_natural hbound hds).mp (hread ▸ h)
    cases htrim : Text.trim s.toList with
    | nil =>
      rw [number, htrim] at h
      exact nomatch h
    | cons c cs =>
      by_cases hc : c = '+'
      · subst hc
        cases cs with
        | nil =>
          rw [number, htrim] at h
          exact nomatch h
        | cons d cs =>
          obtain ⟨hnatural, hlt⟩ := hdigits _ (List.cons_ne_nil d cs) (number_of_plus htrim)
          exact ⟨⟨['+'], d :: cs, rfl, .inr rfl, hnatural⟩, hlt⟩
      · obtain ⟨hnatural, hlt⟩ := hdigits _ (List.cons_ne_nil c cs) (number_of_digit htrim hc)
        exact ⟨⟨[], c :: cs, rfl, .inl rfl, hnatural⟩, hlt⟩
  · rintro ⟨⟨sign, digits, htrim, hsign, hnatural⟩, hlt⟩
    obtain ⟨hsome, hdigits, -⟩ := Text.natural?_eq_some.mp hnatural
    obtain ⟨c, cs, rfl⟩ := List.exists_cons_of_ne_nil hsome
    have hread := (readDigits_eq_natural hbound hsome).mpr ⟨hnatural, hlt⟩
    rcases hsign with rfl | rfl
    · have hc : c ≠ '+' := by
        rintro rfl
        exact absurd (hdigits '+' List.mem_cons_self) (by decide)
      exact (number_of_digit htrim hc).trans hread
    · exact (number_of_plus htrim).trans hread

/-- The digits of a number denote it. -/
theorem denotes_toDigits (n : Nat) : Denotes (Nat.toDigits 10 n) n :=
  ⟨[], [], _, [], by rw [List.append_nil]; rfl, nofun, .inl rfl, Text.natural?_toDigits n, nofun⟩

end AlertService.Setting
