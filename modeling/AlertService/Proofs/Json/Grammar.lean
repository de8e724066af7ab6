import AlertService.Proofs.Text.Utf8
import AlertService.Text.Digits

/-!
# The grammar of bodies

Which texts are well-formed values, apart from how they are read. The value of a text is a tree:
blanks and the escapes in strings leave no trace in it, the order of members and repeated ones do,
and so does the way in which a number is written.

* `Writes`: a text writes a tree.
* `Documents`: a body is the bytes of such a text, with blanks around it.
* `Writes.begins`: what a text begins with tells the kind of its tree.
-/

namespace AlertService.Json

/-- The blanks that may stand between the parts of a text. -/
def IsGap (cs : List Char) : Prop := ∀ c ∈ cs, c ∈ [' ', '\n', '\t', '\r']

theorem isGap_nil : IsGap [] := fun _ hc => absurd hc List.not_mem_nil

/-! ## Strings -/

/-- The letters after a backslash, and the characters that they stand for. -/
def letters : List (Char × Char) :=
  [('"', '"'), ('\\', '\\'), ('/', '/'), ('b', '\x08'), ('f', '\x0c'), ('n', '\n'), ('r', '\r'),
    ('t', '\t')]

/-- Four hexadecimal digits write the number. -/
inductive WritesCode : Nat → List Char → Prop
  | four {a b c d : Char} {i j k l : Fin 16} :
      Text.hexValue? a = some i → Text.hexValue? b = some j → Text.hexValue? c = some k →
      Text.hexValue? d = some l →
      WritesCode (((i.val * 16 + j.val) * 16 + k.val) * 16 + l.val) [a, b, c, d]

/-- What may stand after a backslash for the character: a letter, the code of the character, or the
two codes that make it together. -/
inductive WritesEscape (c : Char) : List Char → Prop
  | letter {l : Char} : (l, c) ∈ letters → WritesEscape c [l]
  | code {ds : List Char} : WritesCode c.toNat ds → WritesEscape c ('u' :: ds)
  | pair {high low : Nat} {ds es : List Char} : WritesCode high ds → WritesCode low es →
      0xd800 ≤ high → high < 0xdc00 → 0xdc00 ≤ low → low < 0xe000 →
      c.toNat = 0x10000 + (high - 0xd800) * 0x400 + (low - 0xdc00) →
      WritesEscape c ('u' :: (ds ++ '\\' :: 'u' :: es))

/-- The text between the quotes of a string with the given characters. -/
inductive WritesText : List Char → List Char → Prop
  | nil : WritesText [] []
  | plain {c : Char} {cs rest : List Char} : c ≠ '"' → c ≠ '\\' → 0x20 ≤ c.toNat →
      WritesText cs rest → WritesText (c :: cs) (c :: rest)
  | escaped {c : Char} {cs escape rest : List Char} : WritesEscape c escape →
      WritesText cs rest → WritesText (c :: cs) ('\\' :: (escape ++ rest))

inductive WritesString (s : String) : List Char → Prop
  | quoted {cs : List Char} : WritesText s.toList cs → WritesString s ('"' :: (cs ++ ['"']))

/-! ## Numbers -/

/-- A number as it is written: the digits before the point and those after it, and the exponent with
its letter; the last two may be missing. -/
structure Numeral where
  negative : Bool
  whole : List Char
  fraction : List Char
  exponent : List Char

namespace Numeral

def IsDigits (cs : List Char) : Prop := ∀ c ∈ cs, Text.isDigit c = true

inductive IsExponent : List Char → Prop
  | none : IsExponent []
  | some {e : Char} {sign ds : List Char} : e = 'e' ∨ e = 'E' → sign ∈ [[], ['+'], ['-']] →
      IsDigits ds → ds ≠ [] → IsExponent (e :: (sign ++ ds))

/-- There is no zero in front of other digits. -/
structure IsWellFormed (l : Numeral) : Prop where
  whole : IsDigits l.whole
  some_whole : l.whole ≠ []
  leading : l.whole.head? = some '0' → l.whole = ['0']
  fraction : IsDigits l.fraction
  exponent : IsExponent l.exponent

def chars (l : Numeral) : List Char :=
  (if l.negative then ['-'] else []) ++ l.whole ++
    (if l.fraction = [] then [] else '.' :: l.fraction) ++ l.exponent

/-- The numeral is that of an integer; zero has no sign. -/
structure IsInteger (l : Numeral) (i : Int) : Prop where
  fraction : l.fraction = []
  exponent : l.exponent = []
  value : ∃ n, Text.natural? l.whole = some n ∧
    (l.negative = false ∧ i = n ∨ l.negative = true ∧ 0 < n ∧ i = -n)

end Numeral

/-! ## Trees -/

inductive Tree where
  | null
  | flag (b : Bool)
  | number (l : Numeral)
  | string (s : String)
  | list (items : List Tree)
  | object (members : List (String × Tree))

mutual

/-- A text of a tree, without blanks around it. -/
inductive Writes : Tree → List Char → Prop
  | null : Writes .null "null".toList
  | flag {b : Bool} : Writes (.flag b) (if b then "true" else "false").toList
  | number {l : Numeral} : l.IsWellFormed → Writes (.number l) l.chars
  | string {s : String} {cs : List Char} : WritesString s cs → Writes (.string s) cs
  | list {ts : List Tree} {cs : List Char} : WritesItems ts cs →
      Writes (.list ts) ('[' :: (cs ++ [']']))
  | object {ms : List (String × Tree)} {cs : List Char} : WritesMembers ms cs →
      Writes (.object ms) ('\x7b' :: (cs ++ ['\x7d']))

/-- The text between the brackets of a list. -/
inductive WritesItems : List Tree → List Char → Prop
  | none {gap : List Char} : IsGap gap → WritesItems [] gap
  | some {t : Tree} {ts : List Tree} {gap cs rest : List Char} : IsGap gap → Writes t cs →
      WritesMoreItems ts rest → WritesItems (t :: ts) (gap ++ (cs ++ rest))

/-- The text after an item: a comma stands before every further one. -/
inductive WritesMoreItems : List Tree → List Char → Prop
  | none {gap : List Char} : IsGap gap → WritesMoreItems [] gap
  | some {t : Tree} {ts : List Tree} {gap rest : List Char} : IsGap gap →
      WritesItems (t :: ts) rest → WritesMoreItems (t :: ts) (gap ++ ',' :: rest)

/-- The text between the brackets of an object. -/
inductive WritesMembers : List (String × Tree) → List Char → Prop
  | none {gap : List Char} : IsGap gap → WritesMembers [] gap
  | some {key : String} {t : Tree} {ms : List (String × Tree)}
      {gap name before after cs rest : List Char} : IsGap gap → WritesString key name →
      IsGap before → IsGap after → Writes t cs → WritesMoreMembers ms rest →
      WritesMembers ((key, t) :: ms) (gap ++ (name ++ (before ++ ':' :: (after ++ (cs ++ rest)))))

/-- The text after a member. -/
inductive WritesMoreMembers : List (String × Tree) → List Char → Prop
  | none {gap : List Char} : IsGap gap → WritesMoreMembers [] gap
  | some {m : String × Tree} {ms : List (String × Tree)} {gap rest : List Char} : IsGap gap →
      WritesMembers (m :: ms) rest → WritesMoreMembers (m :: ms) (gap ++ ',' :: rest)

end

/-- The body is one value as well-formed text, with blanks around it. -/
inductive Documents (t : Tree) : Bytes → Prop
  | text {text : String} {before cs after : List Char} :
      text.toList = before ++ (cs ++ after) → IsGap before → Writes t cs → IsGap after →
      Documents t (Utf8.encode text)

/-! ## Where a text begins -/

/-- The characters that a text of the tree may begin with. -/
def Tree.Begins : Tree → Char → Prop
  | .null, c => c = 'n'
  | .flag b, c => c = if b then 't' else 'f'
  | .number _, c => c = '-' ∨ Text.isDigit c = true
  | .string _, c => c = '"'
  | .list _, c => c = '['
  | .object _, c => c = '\x7b'

theorem Writes.begins {t : Tree} {cs : List Char} (h : Writes t cs) :
    ∃ c rest, cs = c :: rest ∧ t.Begins c := by
  cases h with
  | null => exact ⟨_, _, rfl, rfl⟩
  | @flag b => cases b <;> exact ⟨_, _, rfl, rfl⟩
  | @number l hl =>
    obtain ⟨d, ds, hwhole⟩ := List.exists_cons_of_ne_nil hl.some_whole
    have hdigit : Text.isDigit d = true := hl.whole d (hwhole ▸ List.mem_cons_self)
    unfold Numeral.chars
    rw [hwhole]
    cases l.negative with
    | true => exact ⟨_, _, rfl, .inl rfl⟩
    | false => exact ⟨_, _, rfl, .inr hdigit⟩
  | string hs =>
    obtain ⟨-⟩ := hs
    exact ⟨_, _, rfl, rfl⟩
  | list => exact ⟨_, _, rfl, rfl⟩
  | object => exact ⟨_, _, rfl, rfl⟩

end AlertService.Json
