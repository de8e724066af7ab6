import AlertService.Proofs.Store.Columns
import AlertService.Proofs.Uuid.Spelling
import AlertService.Store.Rows

/-!
# Rows under the texts of identifiers

An observer of the database sees identifiers as texts. There is one text for each identifier, so that
to look for a row by its identifier is to look for it by that text.

* `HasRow`: a table has a row that begins with the texts.
* `FindsAgain`: what the calls of the store find is what is there under the texts.
-/

namespace AlertService

theorem Cell.text_eq_ofId {u v : Uuid} : Cell.text u.text = Cell.ofId v ↔ v = u := by
  rw [Cell.ofId, Cell.text.injEq, Uuid.text_inj]
  exact eq_comm

namespace Store

variable {s : Store} {t : TableName} {k : Kind} {u owner group recipient : Uuid} {texts : List String}

/-- The table has a row that begins with the texts. -/
def HasRow (s : Store) (t : TableName) (texts : List String) : Prop :=
  ∃ row ∈ s.rows t, texts.map Cell.text <+: row

theorem hasRow_of_map {α : Type} {xs : List α} {f : α → List Cell} (h : s.rows t = xs.map f) :
    s.HasRow t texts ↔ ∃ x ∈ xs, texts.map Cell.text <+: f x := by
  unfold HasRow
  rw [h]
  simp only [List.mem_map, exists_exists_and_eq_and]

theorem hasRow_drafts : s.HasRow (.drafts k) [u.text] ↔ ∃ d ∈ s.drafts.get k, d.id = u := by
  rw [hasRow_of_map rfl]
  apply exists_congr
  intro d
  apply and_congr_right
  intro _
  unfold Cell.ofDraft
  cases d.stray with
  | none => simp [Cell.ofOwned, Cell.text_eq_ofId]
  | some t =>
    have hfields : Cell.ofFields k d.fields ≠ [] := by
      cases k <;> exact List.cons_ne_nil _ _
    simp [Cell.ofOwned, Cell.text_eq_ofId]

theorem hasRow_entities : s.HasRow (.entities k) [u.text] ↔ ∃ e ∈ s.entities.get k, e.id = u := by
  rw [hasRow_of_map rfl]
  simp [Cell.ofOwned, Cell.text_eq_ofId]

theorem hasRow_owned : s.HasRow (.entities k) [u.text, owner.text] ↔
    ∃ e ∈ s.entities.get k, e.id = u ∧ e.owner = owner := by
  rw [hasRow_of_map rfl]
  simp [Cell.ofOwned, Cell.text_eq_ofId]

theorem hasRow_memberships : s.HasRow .memberships [group.text, recipient.text] ↔
    ∃ m ∈ s.memberships, m.group = group ∧ m.recipient = recipient := by
  rw [hasRow_of_map rfl]
  simp [Cell.text_eq_ofId]

theorem hasRow_batches : s.HasRow .batches [u.text, owner.text] ↔
    ∃ b ∈ s.batches, b.id = u ∧ b.owner = owner := by
  rw [hasRow_of_map rfl]
  simp [Cell.text_eq_ofId]

theorem hasRow_notifications {batch : Uuid} : s.HasRow .notifications [u.text, batch.text] ↔
    ∃ n ∈ s.notifications, n.id = u ∧ n.batch = batch := by
  rw [hasRow_of_map rfl]
  simp [Cell.text_eq_ofId]

/-- Whatever the store is asked for under an identifier, it finds if it is there under the text. -/
structure FindsAgain (s : Store) : Prop where
  draft : ∀ k u, (s.draft? k u).isSome = true ↔ s.HasRow (.drafts k) [u.text]
  entity : ∀ k u, (s.entity? k u).isSome = true ↔ s.HasRow (.entities k) [u.text]
  owned : ∀ owner k u, s.owns owner k u = true ↔ s.HasRow (.entities k) [u.text, owner.text]
  membership : ∀ group recipient, s.memberships.contains ⟨group, recipient⟩ = true ↔
    s.HasRow .memberships [group.text, recipient.text]
  /-- A batch can be sent if no other program has left something else in its column. -/
  unsent : s.Typed → ∀ owner u, s.isUnsent owner u = true ↔
    [.text u.text, .text owner.text, .integer 0] ∈ s.rows .batches
  notification : ∀ owner u, s.getNotification owner u ≠ .error (.notFound "notification") ↔
    ∃ batch : Uuid, s.HasRow .notifications [u.text, batch.text] ∧
      s.HasRow .batches [batch.text, owner.text]
  pending : ∀ u, s.notifications.any (isPending u) = true ↔
    ∃ row ∈ s.rows .notifications, [.text u.text] <+: row ∧ row.getLast? = some .null

theorem mem_rows_batches (hs : s.Typed) :
    [.text u.text, .text owner.text, .integer 0] ∈ s.rows .batches ↔
      ∃ b ∈ s.batches, b.id = u ∧ b.owner = owner ∧ b.sent = .value false := by
  show _ ∈ s.batches.map _ ↔ _
  rw [List.mem_map]
  apply exists_congr
  intro b
  apply and_congr_right
  intro hb
  obtain ⟨sent, hsent⟩ := hs.sent b hb
  rw [hsent]
  rw [eq_comm]
  cases sent <;> simp [Cell.ofStored, Cell.ofBool, Cell.text_eq_ofId]

theorem readNotification_ne_notFound {n : Notification} {label : String} :
    readNotification n ≠ .error (.notFound label) := by
  unfold readNotification readInstant
  split
  · exact nofun
  · rename_i text _
    cases Instant.read text <;> exact nofun
  · exact nofun

theorem getNotification_ne_notFound : s.getNotification owner u ≠ .error (.notFound "notification") ↔
    ∃ n ∈ s.notifications, n.id = u ∧ s.ownsNotification owner n = true := by
  unfold getNotification
  cases hfind : s.notifications.find? fun n => n.id = u && s.ownsNotification owner n with
  | none => simpa using hfind
  | some n =>
    have hfound := List.find?_some hfind
    rw [Bool.and_eq_true, decide_eq_true_eq] at hfound
    constructor
    · intro _
      exact ⟨n, List.mem_of_find?_eq_some hfind, hfound⟩
    · intro _
      exact readNotification_ne_notFound

theorem findsAgain (s : Store) : s.FindsAgain where
  draft k u := by
    rw [hasRow_drafts]
    simp [draft?]
  entity k u := by
    rw [hasRow_entities]
    simp [entity?]
  owned owner k u := by rw [hasRow_owned, owns_iff]
  membership group recipient := by
    rw [hasRow_memberships, List.contains_iff_mem]
    constructor
    · intro h
      exact ⟨_, h, rfl, rfl⟩
    · rintro ⟨m, hm, rfl, rfl⟩
      exact hm
  unsent hs owner u := by rw [mem_rows_batches hs, isUnsent_iff]
  notification owner u := by
    rw [getNotification_ne_notFound]
    simp only [hasRow_notifications, hasRow_batches, ownsNotification_iff]
    constructor
    · rintro ⟨n, hn, hid, hbatch⟩
      exact ⟨n.batch, ⟨n, hn, hid, rfl⟩, hbatch⟩
    · rintro ⟨batch, ⟨n, hn, hid, rfl⟩, hbatch⟩
      exact ⟨n, hn, hid, hbatch⟩
  pending u := by
    rw [List.any_eq_true]
    show _ ↔ ∃ row ∈ s.notifications.map _, _
    simp only [List.mem_map, exists_exists_and_eq_and]
    apply exists_congr
    intro n
    apply and_congr_right
    intro _
    rw [isPending_iff]
    cases n.completed <;> simp [Cell.ofOption, Cell.text_eq_ofId]

end Store

end AlertService
