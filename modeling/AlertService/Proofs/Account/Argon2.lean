import AlertService.Account.Argon2
import AlertService.Proofs.Account.PasswordHash

/-!
# Digests of Argon2

For the settings of new hashes there is always a digest, of the size that was asked for.

* `length_digest`: the size of a digest.
* `hashes_argon2`: with a salt of eight bytes there are digests.
-/

namespace AlertService

namespace Blake2b

theorem length_compress {state : List UInt64} (block : List UInt64) (count : Nat) (isLast : Bool)
    (h : state.length = 8) : (compress state block count isLast).length = 8 := by
  simp only [compress, List.length_zipWith, List.length_take, List.length_drop, h, Square.words,
    List.length_cons, List.length_nil]
  omega

theorem length_absorb (blocks count : Nat) {state : List UInt64} (rest : Bytes)
    (h : state.length = 8) : (absorb blocks count state rest).length = 8 := by
  induction blocks generalizing count state rest with
  | zero => exact length_compress _ _ _ h
  | succ blocks ih => exact ih _ _ (length_compress _ _ _ h)

theorem length_digest {size : Nat} (hsize : size ≤ 64) (message : Bytes) :
    (digest size message).length = size := by
  have hwords : ∀ ws : List UInt64, (ws.flatMap Word.bytes).length = 8 * ws.length := by
    intro ws
    induction ws with
    | nil => rfl
    | cons w ws ih =>
      rw [List.flatMap_cons, List.length_append, ih, List.length_cons]
      show 8 + 8 * ws.length = _
      omega
  have hinitial : (initial size).length = 8 := rfl
  rw [digest, List.length_take, hwords, length_absorb _ _ _ hinitial]
  omega

end Blake2b

theorem Argon2.Settings.length_digest (s : Argon2.Settings) {size : Nat} (hsize : size ≤ 64)
    (password salt : Bytes) : (s.digest size password salt).length = size := by
  rw [digest, longDigest, if_pos hsize]
  exact Blake2b.length_digest hsize _

namespace PasswordHash

theorem hashes_argon2 {salt : Bytes} (h : 8 ≤ salt.length) : Hashes argon2 salt := by
  intro password
  have hsettings : settings? (settings salt) = some ⟨.hybrid, .newer, 19456, 2, 1, []⟩ := rfl
  have hsalt : saltBytes? (settings salt) = some salt := by
    have hread : ((settings salt).salt.bind fun s => Base64.decode? .standard s.toList) =
        some salt := by
      rw [settings, Option.bind_some, String.toList_ofList]
      exact Base64.decode?_encode Base64.reads_standard salt
    rw [saltBytes?, hread, Option.filter_some_pos]
    exact decide_eq_true h
  refine ⟨Argon2.Settings.digest ⟨.hybrid, .newer, 19456, 2, 1, []⟩ 32 password salt, ?_,
    Argon2.Settings.length_digest _ (by decide) password salt⟩
  simp only [argon2, hsettings, hsalt, bind, Option.bind_some]
  rfl

end PasswordHash

end AlertService
