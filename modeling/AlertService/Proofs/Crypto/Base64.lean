import AlertService.Crypto.Base64

/-!
# Reading base 64 that was written

Writing spreads the bits of three bytes over four numbers below 64, and gives each of these its
character. Reading goes the same way back.

* `decode?_encode`: what is written reads back.
-/

namespace AlertService.Base64

/-- Every number has a character of its own. -/
def Alphabet.Reads (t : Alphabet) : Prop := ∀ n < 64, t.index? (t.char n) = some n

theorem reads_standard : Alphabet.standard.Reads := by
  unfold Alphabet.Reads
  decide

/-- The numbers below 64 that bytes are written as. -/
def sextets : Bytes → List Nat
  | a :: b :: c :: rest =>
    let n := a.toNat * 65536 + b.toNat * 256 + c.toNat
    n / 262144 :: n / 4096 % 64 :: n / 64 % 64 :: n % 64 :: sextets rest
  | [a, b] =>
    let n := a.toNat * 1024 + b.toNat * 4
    [n / 4096, n / 64 % 64, n % 64]
  | [a] => [a.toNat / 4, a.toNat % 4 * 16]
  | [] => []

theorem encode_eq_map (t : Alphabet) (bs : Bytes) : encode t bs = (sextets bs).map t.char := by
  fun_induction sextets bs with
  | case1 a b c rest n ih => simp only [encode, List.map_cons, ih, n]
  | case2 a b n => rfl
  | case3 a => rfl
  | case4 => rfl

theorem length_sextets (bs : Bytes) : (sextets bs).length = (bs.length * 4 + 2) / 3 := by
  fun_induction sextets bs with
  | case1 a b c rest n ih =>
    simp only [List.length_cons, ih]
    omega
  | case2 a b n => simp
  | case3 a => simp
  | case4 => rfl

theorem sextets_lt (bs : Bytes) : ∀ n ∈ sextets bs, n < 64 := by
  fun_induction sextets bs with
  | case1 a b c rest n ih =>
    have ha := a.toNat_lt
    have hb := b.toNat_lt
    have hc := c.toNat_lt
    simp only [List.forall_mem_cons]
    exact ⟨by omega, by omega, by omega, by omega, ih⟩
  | case2 a b n =>
    have ha := a.toNat_lt
    have hb := b.toNat_lt
    simp only [List.forall_mem_cons]
    exact ⟨by omega, by omega, by omega, fun _ h => absurd h List.not_mem_nil⟩
  | case3 a =>
    have ha := a.toNat_lt
    simp only [List.forall_mem_cons]
    exact ⟨by omega, by omega, fun _ h => absurd h List.not_mem_nil⟩
  | case4 => exact fun _ h => absurd h List.not_mem_nil

theorem ofNat_eq {n : Nat} {b : UInt8} (h : n % 256 = b.toNat) : UInt8.ofNat n = b := by
  refine UInt8.toNat_inj.mp ?_
  rw [UInt8.toNat_ofNat']
  exact h

/-- Four numbers give back the three bytes that they were made of; two and three at the end give
back one and two. -/
theorem join_sextets (acc bs : Bytes) : join acc (sextets bs) = some (acc.reverse ++ bs) := by
  fun_induction sextets bs generalizing acc with
  | case1 a b c rest n ih =>
    have ha := a.toNat_lt
    have hb := b.toNat_lt
    have hc := c.toNat_lt
    -- the digits of `n` to the base 64 make `n`, and the bytes are its digits to the base 256
    have hn : n / 262144 * 262144 + n / 4096 % 64 * 4096 + n / 64 % 64 * 64 + n % 64 = n := by omega
    have hlow : UInt8.ofNat n = c := ofNat_eq (by omega)
    have hmiddle : UInt8.ofNat (n / 256) = b := ofNat_eq (by omega)
    have hhigh : UInt8.ofNat (n / 65536) = a := ofNat_eq (by omega)
    simp only [join, hn, hlow, hmiddle, hhigh, ih, List.reverse_cons, List.append_assoc,
      List.cons_append, List.nil_append]
  | case2 a b n =>
    have ha := a.toNat_lt
    have hb := b.toNat_lt
    have hn : n / 4096 * 4096 + n / 64 % 64 * 64 + n % 64 = n := by omega
    have hrest : n % 4 = 0 := by omega
    have hlow : UInt8.ofNat (n / 4) = b := ofNat_eq (by omega)
    have hhigh : UInt8.ofNat (n / 1024) = a := ofNat_eq (by omega)
    simp only [join, hn, hrest, if_true, hlow, hhigh, List.reverse_cons, List.append_assoc,
      List.cons_append, List.nil_append]
  | case3 a =>
    have ha := a.toNat_lt
    have hrest : (a.toNat / 4 * 64 + a.toNat % 4 * 16) % 16 = 0 := by omega
    have hbyte : UInt8.ofNat ((a.toNat / 4 * 64 + a.toNat % 4 * 16) / 16) = a :=
      ofNat_eq (by omega)
    simp only [join, hrest, if_true, hbyte, List.reverse_cons]
  | case4 => simp only [join, List.append_nil]

theorem decode?_encode {t : Alphabet} (ht : t.Reads) (bs : Bytes) :
    decode? t (encode t bs) = some bs := by
  have hread : ∀ ns : List Nat, (∀ n ∈ ns, n < 64) → (ns.map t.char).mapM t.index? = some ns := by
    intro ns hns
    induction ns with
    | nil => rfl
    | cons n ns ih =>
      have hhead := ht n (hns n List.mem_cons_self)
      have htail := ih fun m hm => hns m (List.mem_cons_of_mem _ hm)
      rw [List.map_cons, List.mapM_cons, hhead, htail]
      rfl
  rw [decode?, encode_eq_map, hread _ (sextets_lt bs), Option.bind_some, join_sextets]
  rfl

end AlertService.Base64
