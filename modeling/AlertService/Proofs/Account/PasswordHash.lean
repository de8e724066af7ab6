import AlertService.Account.Password
import AlertService.Proofs.Crypto.Base64

/-!
# Password hashes that were made

The text that is kept for a password is written by the service itself, and every field of it is
made of characters that cannot be mistaken for the end of the field. So it reads back, and what is
read accepts the password that it was made of.

* `parse?_text`: the text of a hash reads back.
* `verify_make`: the hash of a password accepts the password.
-/

namespace AlertService

namespace Text

variable {α : Type} [DecidableEq α] {separator : α} {xs ys : List α}

theorem splitOn_of_not_mem (h : separator ∉ xs) : splitOn separator xs = [xs] := by
  induction xs with
  | nil => rfl
  | cons x xs ih =>
    have hx : separator ≠ x := List.ne_of_not_mem_cons h
    have hxs : separator ∉ xs := List.not_mem_of_not_mem_cons h
    rw [splitOn_cons, ih hxs, putItem, if_neg hx.symm]

/-- What comes before a separator is the first piece. -/
theorem splitOn_append_cons (h : separator ∉ xs) :
    splitOn separator (xs ++ separator :: ys) = xs :: splitOn separator ys := by
  induction xs with
  | nil => exact splitOn_cons_self separator ys
  | cons x xs ih =>
    have hx : separator ≠ x := List.ne_of_not_mem_cons h
    have hxs : separator ∉ xs := List.not_mem_of_not_mem_cons h
    rw [List.cons_append, splitOn_cons, ih hxs, putItem, if_neg hx.symm]

end Text

namespace PasswordHash

open Text

/-! ## Base 64 in a field -/

theorem isValueChar_char : ∀ n < 64, isValueChar (Base64.Alphabet.standard.char n) = true := by
  decide

theorem char_ne_dollar : ∀ n < 64, Base64.Alphabet.standard.char n ≠ '$' := by
  decide

theorem dollar_not_mem_encode (bs : Bytes) : '$' ∉ Base64.encode .standard bs := by
  rw [Base64.encode_eq_map, List.mem_map]
  rintro ⟨n, hn, he⟩
  exact char_ne_dollar n (Base64.sextets_lt bs n hn) he

theorem length_encode (bs : Bytes) :
    (Base64.encode .standard bs).length = (bs.length * 4 + 2) / 3 := by
  rw [Base64.encode_eq_map, List.length_map, Base64.length_sextets]

theorem isSalt_encode {bs : Bytes} (h : 3 ≤ bs.length ∧ bs.length ≤ 48) :
    isSalt (Base64.encode .standard bs) = true := by
  have hlength : 4 ≤ (Base64.encode .standard bs).length ∧
      (Base64.encode .standard bs).length ≤ 64 := by
    rw [length_encode]
    omega
  have hchars : ∀ c ∈ Base64.encode .standard bs, isValueChar c = true := by
    rw [Base64.encode_eq_map, List.forall_mem_map]
    exact fun n hn => isValueChar_char n (Base64.sextets_lt bs n hn)
  simp only [isSalt, isValue, Bool.and_eq_true, decide_eq_true_eq, List.all_eq_true]
  exact ⟨hlength.1, hlength.2, hchars⟩

theorem digest?_encode {bs : Bytes} (h : 10 ≤ bs.length ∧ bs.length ≤ 64) :
    digest? (Base64.encode .standard bs) = some bs := by
  rw [digest?, Base64.decode?_encode Base64.reads_standard, Option.filter_some_pos]
  simpa only [Bool.and_eq_true, decide_eq_true_eq] using h

/-! ## Reading back -/

/-- The hash under the salt with that digest. -/
def made (salt digest : Bytes) : PasswordHash := { settings salt with digest := some digest }

theorem toList_text_made (salt digest : Bytes) :
    (made salt digest).text.toList = "$argon2id$v=19$m=19456,t=2,p=1$".toList ++
      Base64.encode .standard salt ++ '$' :: Base64.encode .standard digest := by
  have htext : (made salt digest).text = "$argon2id$v=19$m=19456,t=2,p=1" ++
      ("$" ++ String.ofList (Base64.encode .standard salt)) ++
        ("$" ++ String.ofList (Base64.encode .standard digest)) := rfl
  rw [htext]
  simp only [String.toList_append, String.toList_ofList]
  rw [List.append_assoc, List.append_assoc]
  rfl

theorem parse?_text {salt digest : Bytes} (hs : 3 ≤ salt.length ∧ salt.length ≤ 48)
    (hd : 10 ≤ digest.length ∧ digest.length ≤ 64) :
    parse? (made salt digest).text = some (made salt digest) := by
  have hfields : splitOn '$' (made salt digest).text.toList =
      [[], "argon2id".toList, "v=19".toList, "m=19456,t=2,p=1".toList,
        Base64.encode .standard salt, Base64.encode .standard digest] := by
    have hprefix : "$argon2id$v=19$m=19456,t=2,p=1$".toList ++ Base64.encode .standard salt ++
        '$' :: Base64.encode .standard digest =
          [] ++ '$' :: ("argon2id".toList ++ '$' :: ("v=19".toList ++ '$' ::
            ("m=19456,t=2,p=1".toList ++ '$' :: (Base64.encode .standard salt ++
              '$' :: Base64.encode .standard digest)))) := by
      rw [List.append_assoc]
      rfl
    -- no field holds a dollar, so that the text falls apart where it was put together
    rw [toList_text_made, hprefix, splitOn_append_cons List.not_mem_nil,
      splitOn_append_cons (by decide), splitOn_append_cons (by decide),
      splitOn_append_cons (by decide), splitOn_append_cons (dollar_not_mem_encode salt),
      splitOn_of_not_mem (dollar_not_mem_encode digest)]
  have hname : isName "argon2id".toList = true := by decide
  have hversion : takeVersion? ["v=19".toList, "m=19456,t=2,p=1".toList,
      Base64.encode .standard salt, Base64.encode .standard digest] =
        some (some 19, ["m=19456,t=2,p=1".toList, Base64.encode .standard salt,
          Base64.encode .standard digest]) := rfl
  have hparameters : takeParameters? ["m=19456,t=2,p=1".toList, Base64.encode .standard salt,
      Base64.encode .standard digest] =
        some ([("m", "19456"), ("t", "2"), ("p", "1")], [Base64.encode .standard salt,
          Base64.encode .standard digest]) := rfl
  have hsalt : salt? (Base64.encode .standard salt) =
      some (.ofList (Base64.encode .standard salt)) := if_pos (isSalt_encode hs)
  rw [parse?, hfields]
  simp only [hname, if_true, hversion, hparameters, hsalt, digest?_encode hd, bind,
    Option.bind_some]
  rfl

/-! ## Making and checking -/

/-- The digests that the service asks for are there and have the size that it asks for. -/
def Hashes (digest : Digest) (salt : Bytes) : Prop :=
  ∀ password : Bytes, ∃ bs, digest (settings salt) 32 password = some bs ∧ bs.length = 32

variable {digest : Digest} {salt : Bytes} {password : String} {h : PasswordHash}

theorem make_eq_some :
    make digest salt password = some h ↔
      ∃ bs, digest (settings salt) 32 (Utf8.encode password) = some bs ∧ made salt bs = h :=
  Option.map_eq_some_iff

theorem exists_make (hd : Hashes digest salt) (password : String) :
    ∃ h, make digest salt password = some h := by
  obtain ⟨bs, hbs, -⟩ := hd (Utf8.encode password)
  exact ⟨made salt bs, make_eq_some.mpr ⟨bs, hbs, rfl⟩⟩

/-- A hash is kept as a text that reads back. -/
theorem parse?_make (hs : 3 ≤ salt.length ∧ salt.length ≤ 48) (hd : Hashes digest salt)
    (hm : make digest salt password = some h) : parse? h.text = some h := by
  obtain ⟨bs, hbs, rfl⟩ := make_eq_some.mp hm
  obtain ⟨bs', hbs', hlength⟩ := hd (Utf8.encode password)
  obtain rfl := Option.some.inj (hbs.symm.trans hbs')
  exact parse?_text hs (by omega)

/-- The hash of a password accepts the password. -/
theorem verify_make (hd : Hashes digest salt) (hm : make digest salt password = some h) :
    h.verify digest password = true := by
  obtain ⟨bs, hbs, rfl⟩ := make_eq_some.mp hm
  obtain ⟨bs', hbs', hlength⟩ := hd (Utf8.encode password)
  obtain rfl := Option.some.inj (hbs.symm.trans hbs')
  have hagain : digest { made salt bs with digest := none } bs.length (Utf8.encode password) =
      some bs := by
    rw [hlength]
    exact hbs
  exact decide_eq_true hagain

end PasswordHash

end AlertService
