import AlertService.Proofs.Text.Blank
import AlertService.Telegram.Command
import Mathlib.Data.Bool.AllAny

/-!
# Which texts give a command

A command is given by its word, in the very letters, with or without the name of a bot behind it. The
word comes first in the text; only blanks may stand before it, and only what is behind a blank may
come after it.

* `Gives`: the texts that give a command.
* `parse_eq_some`: these are read as that command.
* `parse_word`: what stands before and after the word, and the name of the bot, make no difference.
* `parse_longer`: a longer word is not the command.
-/

namespace AlertService.Telegram.Command

open Text (isBlank EndsWord)

/-- The name of a bot, or nothing. -/
inductive IsAddress : List Char → Prop
  | none : IsAddress []
  | bot {name : List Char} : (∀ b ∈ name, isBlank b = false) → IsAddress ('@' :: name)

/-- The text gives the command. -/
inductive Gives (c : Command) : List Char → Prop
  | text {before address rest : List Char} : (∀ b ∈ before, isBlank b = true) →
      IsAddress address → EndsWord rest → Gives c (before ++ (c.word.toList ++ address) ++ rest)

variable {c c' : Command} {text : String} {before word run name address rest : List Char}

/-! ## Words of commands -/

theorem ofWord?_eq_some : ofWord? word = some c ↔ word = c.word.toList := by
  constructor
  · intro h
    have hword := List.find?_some h
    exact (of_decide_eq_true hword).symm
  · intro h
    rw [h]
    cases c <;> rfl

theorem word_spec (c : Command) : c.word.toList ≠ [] ∧
    ∀ b ∈ c.word.toList, isBlank b = false ∧ b ≠ '@' := by
  constructor
  · cases c <;> decide
  · rw [← List.all_iff_forall_prop]
    cases c <;> decide

/-- No word is the beginning of another one. -/
theorem eq_of_word_prefix (h : c.word.toList <+: c'.word.toList) : c = c' := by
  revert h
  cases c <;> cases c' <;> decide

/-! ## The word of a text -/

theorem IsAddress.not_blank (h : IsAddress address) : ∀ b ∈ address, isBlank b = false := by
  cases h with
  | none => simp
  | bot hname =>
    intro b hb
    rcases List.mem_cons.mp hb with rfl | hb
    · rfl
    · exact hname b hb

theorem takeWhile_address (hname : ∀ b ∈ name, b ≠ '@') (h : IsAddress address) :
    (name ++ address).takeWhile (fun b => b ≠ '@') = name := by
  have hstop : address.takeWhile (fun b => b ≠ '@') = [] := by
    cases h with
    | none => rfl
    | bot _ => exact List.takeWhile_cons_of_neg (by simp)
  rw [List.takeWhile_append_of_pos (by simpa using hname), hstop, List.append_nil]

/-- A word without blanks in it is a name and the name of a bot. -/
theorem exists_address (hword : ∀ b ∈ word, isBlank b = false) :
    ∃ address, word = word.takeWhile (fun b => b ≠ '@') ++ address ∧ IsAddress address := by
  refine ⟨word.dropWhile fun b => b ≠ '@', List.takeWhile_append_dropWhile.symm, ?_⟩
  have hstop := List.head?_dropWhile_not (fun b => b ≠ '@') word
  cases hkept : word.dropWhile (fun b => b ≠ '@') with
  | nil => exact .none
  | cons b run =>
    have hat : b = '@' := by
      rw [hkept] at hstop
      simpa using hstop
    have hsuffix : b :: run <:+ word := hkept ▸ List.dropWhile_suffix _
    rw [hat]
    refine .bot ?_
    intro d hd
    exact hword d (hsuffix.subset (List.mem_cons_of_mem _ hd))

/-- A text is read by its first word. -/
theorem parse_run (htext : text.toList = before ++ run ++ rest)
    (hbefore : ∀ b ∈ before, isBlank b = true) (hsome : run ≠ [])
    (hrun : ∀ b ∈ run, isBlank b = false) (hrest : EndsWord rest) :
    parse text = ofWord? (run.takeWhile fun b => b ≠ '@') := by
  have hfirst : Text.firstWord text.toList = run := by
    rw [htext]
    exact Text.firstWord_word hbefore hrun hsome hrest
  rw [parse, hfirst]

/-- The name of a bot behind the word makes no difference. -/
theorem parse_word (htext : text.toList = before ++ (name ++ address) ++ rest)
    (hbefore : ∀ b ∈ before, isBlank b = true) (hsome : name ≠ [])
    (hname : ∀ b ∈ name, isBlank b = false ∧ b ≠ '@') (haddress : IsAddress address)
    (hrest : EndsWord rest) : parse text = ofWord? name := by
  have hrun : ∀ b ∈ name ++ address, isBlank b = false := by
    intro b hb
    rcases List.mem_append.mp hb with hb | hb
    · exact (hname b hb).1
    · exact haddress.not_blank b hb
  rw [parse_run htext hbefore (by simp [hsome]) hrun hrest,
    takeWhile_address (fun b hb => (hname b hb).2) haddress]

/-- A text is read as a command if and only if it gives the command. -/
theorem parse_eq_some : parse text = some c ↔ c.Gives text.toList := by
  constructor
  · intro h
    obtain ⟨before, rest, htext, hbefore, hword, hrest⟩ := Text.exists_firstWord text.toList
    obtain ⟨address, hsplit, haddress⟩ := exists_address hword
    rw [ofWord?_eq_some.mp h] at hsplit
    rw [hsplit] at htext
    rw [htext]
    exact .text hbefore haddress hrest
  · intro h
    generalize htext : text.toList = cs at h
    cases h with
    | text hbefore haddress hrest =>
      obtain ⟨hsome, hname⟩ := c.word_spec
      rw [parse_word htext hbefore hsome hname haddress hrest]
      exact ofWord?_eq_some.mpr rfl

theorem parse_eq_none : parse text = none ↔ ∀ c : Command, ¬c.Gives text.toList := by
  rw [Option.eq_none_iff_forall_ne_some]
  exact forall_congr' fun c => not_congr parse_eq_some

theorem Gives.unique {cs : List Char} (h : c.Gives cs) (h' : c'.Gives cs) : c = c' := by
  have hread : ∀ d : Command, d.Gives cs → parse (String.ofList cs) = some d := by
    intro d hd
    exact parse_eq_some.mpr (String.toList_ofList.symm ▸ hd)
  exact Option.some.inj ((hread c h).symm.trans (hread c' h'))

/-- Where the word goes on, the text gives no command at all. -/
theorem parse_longer {x : Char} (htext : text.toList = before ++ c.word.toList ++ x :: rest)
    (hbefore : ∀ b ∈ before, isBlank b = true) (hx : isBlank x = false) (hat : x ≠ '@') :
    parse text = none := by
  obtain ⟨-, hword⟩ := c.word_spec
  let run := c.word.toList ++ x :: rest.takeWhile fun b => !isBlank b
  have hrun : ∀ b ∈ run, isBlank b = false := by
    intro b hb
    rcases List.mem_append.mp hb with hb | hb
    · exact (hword b hb).1
    · rcases List.mem_cons.mp hb with rfl | hb
      · exact hx
      · simpa using List.mem_takeWhile_imp hb
  have hsplit : text.toList = before ++ run ++ rest.dropWhile fun b => !isBlank b := by
    rw [htext]
    simp only [run, List.append_assoc, List.cons_append, List.takeWhile_append_dropWhile]
  rw [parse_run hsplit hbefore (by simp [run]) hrun (Text.endsWord_dropWhile rest),
    List.takeWhile_append_of_pos (by simpa using fun b hb => (hword b hb).2),
    List.takeWhile_cons_of_pos (by simpa using hat)]
  refine Option.eq_none_iff_forall_ne_some.mpr ?_
  intro c' hread
  -- the word would be the beginning of a longer one
  have hlonger := ofWord?_eq_some.mp hread
  obtain rfl := eq_of_word_prefix ⟨_, hlonger⟩
  exact absurd (List.append_right_eq_self.mp hlonger) (List.cons_ne_nil _ _)

end AlertService.Telegram.Command
