import AlertService.Proofs.Service.Consent
import AlertService.Proofs.Telegram.Command

/-!
# Messages and commands

What the bot does is settled by the first word of a message alone. A message that gives no command is
answered with help, and no chat is opted in or out by it.

* `react_of_no_command`, `contacts_of_no_command`: it changes nothing.
* `recognisesExactly`: with the texts that give a command, and what makes no difference to them.
-/

namespace AlertService.Service

open Telegram
open Text (isBlank EndsWord)

variable {service : Service} {now : Instant} {r : Http.Request} {w : World} {m : Telegram.Message}
  {text : String}

/-! ## Messages without a command -/

theorem react_of_no_command (h : Command.parse text = none) (chat : Int64) (w : World) :
    react chat text w = (.ok .help, w) := by
  unfold react
  rw [h]
  rfl

theorem contacts_of_no_command
    (hothers : service.notifier.Calls fun op => Table.contacts ∉ op.writes)
    (hw : w.database.Sound) (hm : service.accepted? r = some m)
    (h : Command.parse (m.text.getD "") = none) :
    (service.respond now r w).2.database.store.contacts = w.database.store.contacts := by
  have hchoice : service.choice? r = none := by
    unfold choice?
    rw [hm, Option.bind_some, Telegram.Message.choice?, h]
    exact ite_self _
  exact (respond_no_choice hothers hw hchoice).same hw.coherent

/-! ## Recognising -/

/-- The text is recognised by what it gives, and by nothing else. -/
structure RecognisesExactly (text : String) : Prop where
  /-- The texts that give a command are those that are read as it. -/
  exact : ∀ c, Command.parse text = some c ↔ c.Gives text.toList
  refused : Command.parse text = none ↔ ∀ c : Command, ¬c.Gives text.toList
  single : ∀ c c' : Command, c.Gives text.toList → c'.Gives text.toList → c = c'
  /-- Blanks in front make no difference. -/
  indented : ∀ before, (∀ b ∈ before, isBlank b = true) →
    Command.parse (String.ofList (before ++ text.toList)) = Command.parse text
  /-- Nor does the name of a bot behind the first word, or another one. -/
  addressed : ∀ before name address address' rest,
    text.toList = before ++ (name ++ address) ++ rest → (∀ b ∈ before, isBlank b = true) →
    name ≠ [] → (∀ b ∈ name, isBlank b = false ∧ b ≠ '@') → Command.IsAddress address →
    Command.IsAddress address' → EndsWord rest →
      Command.parse (String.ofList (before ++ (name ++ address') ++ rest)) = Command.parse text
  /-- Nor does anything behind a blank after the first word. -/
  continued : ∀ blank more, (∃ b ∈ text.toList, isBlank b = false) → isBlank blank = true →
    Command.parse (String.ofList (text.toList ++ blank :: more)) = Command.parse text
  /-- No word that begins with the word of a command, and goes on, is one. -/
  longer : ∀ (c : Command) before x rest, text.toList = before ++ c.word.toList ++ x :: rest →
    (∀ b ∈ before, isBlank b = true) → isBlank x = false → x ≠ '@' → Command.parse text = none
  /-- If the first word gives no command, later ones do not either. -/
  later : ∀ before run rest, text.toList = before ++ run ++ rest →
    (∀ b ∈ before, isBlank b = true) → run ≠ [] → (∀ b ∈ run, isBlank b = false) →
    EndsWord rest → (∀ c : Command, ¬c.Gives run) → Command.parse text = none
  /-- Without a command the bot changes nothing. -/
  idle : Command.parse text = none → ∀ chat w, react chat text w = (.ok .help, w)
  /-- So whoever sends it, to whichever service, it opts no chat in or out. -/
  spares : Command.parse text = none → ∀ (service : Service) (now : Instant) (r : Http.Request)
    (w : World) (m : Telegram.Message),
    (service.notifier.Calls fun op => Table.contacts ∉ op.writes) → w.database.Sound →
    service.accepted? r = some m → m.text.getD "" = text →
      (service.respond now r w).2.database.store.contacts = w.database.store.contacts

/-- Every text is recognised exactly. -/
theorem recognisesExactly (text : String) : RecognisesExactly text where
  exact _ := Command.parse_eq_some
  refused := Command.parse_eq_none
  single _ _ := Command.Gives.unique
  indented before hbefore := by
    rw [Command.parse, String.toList_ofList, Text.firstWord_append hbefore, ← Command.parse]
  addressed before name address address' rest htext hbefore hsome hname haddress haddress' hrest := by
    rw [Command.parse_word htext hbefore hsome hname haddress hrest]
    exact Command.parse_word String.toList_ofList hbefore hsome hname haddress' hrest
  continued blank more hword hblank := by
    obtain ⟨before, rest, htext, hbefore, hrun, hrest⟩ := Text.exists_firstWord text.toList
    have hsome := Text.firstWord_ne_nil hword
    have hmore : (String.ofList (text.toList ++ blank :: more)).toList =
        before ++ Text.firstWord text.toList ++ (rest ++ blank :: more) := by
      rw [String.toList_ofList, ← List.append_assoc, ← htext]
    rw [Command.parse_run htext hbefore hsome hrun hrest]
    exact Command.parse_run hmore hbefore hsome hrun (hrest.append_blank hblank)
  longer _ _ _ _ := Command.parse_longer
  later before run rest htext hbefore hsome hrun hrest hnone := by
    have halone : (String.ofList run).toList = [] ++ run ++ [] := by
      rw [String.toList_ofList, List.nil_append, List.append_nil]
    have hread : Command.parse (String.ofList run) = none := by
      rw [Command.parse_eq_none, String.toList_ofList]
      exact hnone
    rw [Command.parse_run htext hbefore hsome hrun hrest, ← hread]
    exact (Command.parse_run halone (by simp) hsome hrun .nothing).symm
  idle h := react_of_no_command h
  spares h service now r w m hothers hw hm htext := by
    subst htext
    exact contacts_of_no_command hothers hw hm h

end AlertService.Service
