import AlertService.Json.Value
import AlertService.Proofs.Json.Grammar
import AlertService.Proofs.Text.Digits

/-!
# The text of a value

The text that is written for a value is one of those that the grammar has for its tree.

* `writes_render`: the text of a value.
* `documents_text`: the text as a body.
-/

namespace AlertService.Json

/-! ## Trees of values -/

def Numeral.ofInt (i : Int) : Numeral := ⟨decide (i < 0), Nat.toDigits 10 i.natAbs, [], []⟩

mutual

/-- The tree of a value. -/
def Tree.of : Json → Tree
  | .null => .null
  | .bool b => .flag b
  | .integer i => .number (.ofInt i)
  | .string s => .string s
  | .array items => .list (Tree.ofItems items)
  | .object members => .object (Tree.ofMembers members)

def Tree.ofItems : List Json → List Tree
  | [] => []
  | j :: js => Tree.of j :: Tree.ofItems js

def Tree.ofMembers : List (String × Json) → List (String × Tree)
  | [] => []
  | (k, j) :: ms => (k, Tree.of j) :: Tree.ofMembers ms

end

/-! ## Numbers -/

theorem isInteger_ofInt (i : Int) : (Numeral.ofInt i).IsInteger i := by
  refine ⟨rfl, rfl, i.natAbs, Text.natural?_toDigits i.natAbs, ?_⟩
  by_cases hi : i < 0
  · exact .inr ⟨decide_eq_true hi, by omega, by omega⟩
  · exact .inl ⟨decide_eq_false hi, by omega⟩

theorem isWellFormed_ofInt (i : Int) : (Numeral.ofInt i).IsWellFormed := by
  obtain ⟨hdigits, -, hhead⟩ := Text.toDigits_spec i.natAbs
  refine ⟨hdigits, Nat.toDigits_ne_nil, fun hzero => ?_, nofun, .none⟩
  show Nat.toDigits 10 i.natAbs = ['0']
  rw [hhead hzero]
  rfl

theorem chars_ofInt (i : Int) : (Numeral.ofInt i).chars = (toString i).toList := by
  have hchars : (Numeral.ofInt i).chars =
      (if i < 0 then ['-'] else []) ++ Nat.toDigits 10 i.natAbs := by
    simp [Numeral.chars, Numeral.ofInt]
  rw [hchars, Int.toString_eq_repr, Int.repr_eq_if]
  by_cases hi : i < 0
  · have habs : (-i).toNat = i.natAbs := by omega
    rw [if_pos hi, if_neg (by omega), String.toList_append, Nat.toList_repr, habs]
    rfl
  · have habs : i.toNat = i.natAbs := by omega
    rw [if_neg hi, if_pos (by omega), Nat.toList_repr, habs]
    rfl

/-! ## Strings -/

/-- The code that a control character is written by. -/
theorem writesCode_control {c : Char} (h : c.toNat < 0x20) : WritesCode c.toNat ['0', '0',
    Text.hexDigit (Text.lowDigit (c.toNat / 16)), Text.hexDigit (Text.lowDigit c.toNat)] := by
  have hzero : Text.hexValue? '0' = some (Text.lowDigit 0) := by decide
  have hcode := WritesCode.four hzero hzero
    (Text.hexValue?_hexDigit (Text.lowDigit (c.toNat / 16)))
    (Text.hexValue?_hexDigit (Text.lowDigit c.toNat))
  have hvalue : (((Text.lowDigit 0).val * 16 + (Text.lowDigit 0).val) * 16 +
      (Text.lowDigit (c.toNat / 16)).val) * 16 + (Text.lowDigit c.toNat).val = c.toNat := by
    show ((0 * 16 + 0) * 16 + c.toNat / 16 % 16) * 16 + c.toNat % 16 = c.toNat
    omega
  rwa [hvalue] at hcode

theorem writesText_escapeChar {cs rest : List Char} (c : Char) (h : WritesText cs rest) :
    WritesText (c :: cs) (escapeChar c ++ rest) := by
  have hletter : ∀ l d : Char, c = d → (l, d) ∈ letters →
      WritesText (c :: cs) (['\\', l] ++ rest) := fun l d hd hl =>
    .escaped (.letter (hd ▸ hl)) h
  unfold escapeChar
  split_ifs with hquote hbackslash hnewline hreturn htab hback hfeed hcontrol
  · exact hletter _ _ hquote (by decide)
  · exact hletter _ _ hbackslash (by decide)
  · exact hletter _ _ hnewline (by decide)
  · exact hletter _ _ hreturn (by decide)
  · exact hletter _ _ htab (by decide)
  · exact hletter _ _ hback (by decide)
  · exact hletter _ _ hfeed (by decide)
  · exact .escaped (.code (writesCode_control hcontrol)) h
  · exact .plain hquote hbackslash (Nat.le_of_not_lt hcontrol) h

theorem writesString_renderString (s : String) : WritesString s (renderString s) := by
  have htext : ∀ cs : List Char, WritesText cs (cs.flatMap escapeChar) := by
    intro cs
    induction cs with
    | nil => exact .nil
    | cons c cs ih =>
      rw [List.flatMap_cons]
      exact writesText_escapeChar c ih
  exact .quoted (htext s.toList)

/-! ## Values -/

mutual

theorem writes_render : (j : Json) → Writes (Tree.of j) j.render
  | .null => .null
  | .bool true => .flag
  | .bool false => .flag
  | .integer i => by
    rw [Tree.of, render, ← chars_ofInt]
    exact .number (isWellFormed_ofInt i)
  | .string s => .string (writesString_renderString s)
  | .array items => .list (writesItems_render items)
  | .object members => .object (writesMembers_render members)

theorem writesItems_render : (js : List Json) → WritesItems (Tree.ofItems js) (renderItems js)
  | [] => .none isGap_nil
  | [j] => by
    have h := WritesItems.some isGap_nil (writes_render j) (.none isGap_nil)
    rwa [List.nil_append, List.append_nil] at h
  | j :: j' :: js =>
    .some isGap_nil (writes_render j) (.some isGap_nil (writesItems_render (j' :: js)))

theorem writesMembers_render : (ms : List (String × Json)) →
    WritesMembers (Tree.ofMembers ms) (renderMembers ms)
  | [] => .none isGap_nil
  | [(k, j)] => by
    have h := WritesMembers.some isGap_nil (writesString_renderString k) isGap_nil isGap_nil
      (writes_render j) (.none isGap_nil)
    rwa [List.append_nil] at h
  | (k, j) :: m :: ms =>
    .some isGap_nil (writesString_renderString k) isGap_nil isGap_nil (writes_render j)
      (.some isGap_nil (writesMembers_render (m :: ms)))

end

theorem documents_text (j : Json) : Documents (Tree.of j) (Utf8.encode j.text) := by
  have htext : j.text.toList = [] ++ (j.render ++ []) := by
    rw [text, String.toList_ofList, List.append_nil]
    rfl
  exact .text htext isGap_nil (writes_render j) isGap_nil

end AlertService.Json
