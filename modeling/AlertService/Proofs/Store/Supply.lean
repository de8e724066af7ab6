import AlertService.Proofs.Store.Origin

/-!
# Fresh identifiers

A call that adds rows can fail because an identifier is taken. It does not where identifiers come
from a supply of which no row has any, and in which none comes twice.

* `Lacks`, `Supplies`: an identifier that no row has, and enough of them for a call.
* `Lacks.insertDraft` to `Supplies.startBatch`: what the calls do that are given such identifiers.
* `Lacks.apply`: no row has an identifier afterwards that the call does not give one.
-/

namespace AlertService

namespace Store

variable {s : Store} {k : Kind} {user owner id batch : Uuid} {now : Instant} {fresh : Nat → Uuid}

/-- No row has the identifier. -/
structure Lacks (s : Store) (id : Uuid) : Prop where
  users : s.hasUser id = false
  sessions : ∀ x ∈ s.sessions, x.id ≠ id
  drafts : ∀ k, ∀ d ∈ s.drafts.get k, d.id ≠ id
  entities : ∀ k, ∀ e ∈ s.entities.get k, e.id ≠ id
  batches : ∀ b ∈ s.batches, b.id ≠ id
  notifications : ∀ n ∈ s.notifications, n.id ≠ id

/-- No row has one of the identifiers that a call of the user may need, and they differ. -/
structure Supplies (s : Store) (user : Uuid) (fresh : Nat → Uuid) : Prop where
  lacks : ∀ i ≤ (s.targets user).length, s.Lacks (fresh i)
  distinct : ∀ i ≤ (s.targets user).length, ∀ j ≤ (s.targets user).length,
    fresh i = fresh j → i = j

/-! ## Sessions -/

theorem exists_createSession (now expiry : Int) (hu : s.hasUser user = true)
    (hid : ∀ x ∈ s.sessions, x.id ≠ id) : ∃ t, s.createSession now id user expiry = .ok t := by
  refine ⟨_, createSession_eq_ok.mpr (insertSession_eq_ok.mpr ⟨?_, hu, rfl⟩)⟩
  refine List.any_eq_false.mpr fun x hx => ?_
  simpa using hid x (List.mem_of_mem_filter hx)

/-! ## Drafts and batches -/

namespace Lacks

theorem insertDraft (h : s.Lacks id) (fields : k.Fields) :
    s.insertDraft k id owner fields =
      if s.hasUser owner then
        .ok { s with drafts := s.drafts.set k (s.drafts.get k ++ [⟨⟨id, owner, fields⟩, none⟩]) }
      else .error (.engine .foreignKey) := by
  have hnew : s.draft? k id = none := find?_key_eq_none.mpr (h.drafts k)
  cases hu : s.hasUser owner with
  | true =>
    rw [if_pos rfl]
    exact insertDraft_eq_ok.mpr ⟨hnew, hu, rfl⟩
  | false =>
    rw [if_neg Bool.false_ne_true]
    simp only [Store.insertDraft, hnew, hu, Option.isSome_none]
    rfl

theorem createBatch (h : s.Lacks id) :
    s.createBatch id owner =
      if s.hasUser owner then .ok { s with batches := s.batches ++ [⟨id, owner, .value false⟩] }
      else .error (.engine .foreignKey) := by
  have hnew : (s.batches.any fun b => b.id = id) = false :=
    List.any_eq_false.mpr fun b hb => by simpa using h.batches b hb
  cases hu : s.hasUser owner with
  | true =>
    rw [if_pos rfl]
    exact createBatch_eq_ok.mpr ⟨hnew, hu, rfl⟩
  | false =>
    rw [if_neg Bool.false_ne_true]
    simp only [Store.createBatch, hnew, hu]
    rfl

end Lacks

/-! ## Notifications -/

theorem ids_queuedRows (batch : Uuid) (now : Instant) (fresh : Nat → Uuid) (i : Nat)
    (ts : List Target) :
    (queuedRows batch now fresh i ts).map Notification.id =
      (List.range' i ts.length).map fresh := by
  rw [← List.zipIdx_map_snd, queuedRows, List.map_map, List.map_map]
  rfl

/-- The notifications of a batch get identifiers of their own. -/
theorem Supplies.nodup (h : s.Coherent) (hs : s.Supplies user fresh) (batch : Uuid)
    (now : Instant) :
    ((s.notifications ++ queuedRows batch now fresh 0 (s.targets user)).map
      Notification.id).Nodup := by
  rw [List.map_append, ids_queuedRows, List.nodup_append]
  have hbound : ∀ i ∈ List.range' 0 (s.targets user).length, i ≤ (s.targets user).length := by
    intro i hi
    rw [List.mem_range'_1] at hi
    omega
  refine ⟨h.notificationIds, ?_, ?_⟩
  · refine List.Nodup.map_on ?_ List.nodup_range'
    intro i hi j hj he
    exact hs.distinct i (hbound i hi) j (hbound j hj) he
  · intro a ha b hb
    obtain ⟨n, hn, rfl⟩ := List.mem_map.mp ha
    obtain ⟨i, hi, rfl⟩ := List.mem_map.mp hb
    exact (hs.lacks i (hbound i hi)).notifications n hn

theorem Supplies.startBatch (h : s.Coherent) (hs : s.Supplies user fresh) (batch : Uuid)
    (now : Instant) :
    s.startBatch user batch now fresh =
      if s.isUnsent user batch then
        .ok (queuedDeliveries fresh 0 (s.targets user), { s.markSent batch with
          notifications := s.notifications ++ queuedRows batch now fresh 0 (s.targets user) })
      else .error (.notFound "notification batch") := by
  cases hunsent : s.isUnsent user batch with
  | true =>
    rw [if_pos rfl]
    exact (startBatch_eq_ok h.notificationIds).mpr ⟨hunsent, hs.nodup h batch now, rfl, rfl⟩
  | false => simp only [Store.startBatch, hunsent, Bool.false_eq_true, if_false]

end Store

/-! ## Rows that are added -/

/-- The identifiers that the call gives new rows, if it succeeds. -/
def Operation.adds : Operation → Store → List Uuid
  | .createUser id _ _, _ => [id]
  | op, s => op.generated?.toList ++ op.notifies s

theorem Operation.mem_adds {s : Store} {op : Operation} {id : Uuid}
    (h : op.generated? = some id) : id ∈ op.adds s := by
  cases op with
  | createUser => exact nomatch h
  | _ => exact List.mem_append_left _ (Option.mem_toList.mpr h)

namespace Store

variable {s t : Store} {op : Operation} {id : Uuid}

theorem hasUser_of_apply (h : s.Coherent) (ht : op.apply s = .ok t) (hid : id ∉ op.adds s)
    (hlacks : s.hasUser id = false) : t.hasUser id = false := by
  by_cases hw : Table.users ∈ op.writes
  · cases op with
    | createUser new name hash =>
      obtain ⟨-, -, rfl⟩ := createUser_eq_ok.mp ht
      have hne : id ≠ new := List.ne_of_not_mem_cons hid
      simpa [hasUser, hne.symm] using hlacks
    | updateUser user name hash =>
      obtain ⟨-, -, rfl⟩ := updateUser_eq_ok.mp ht
      have hsame : ∀ u : User, (if u.id = .value user then
          { u with name := name, passwordHash := hash } else u).id = u.id := by
        intro u
        split <;> rfl
      simpa only [hasUser, List.any_map, Function.comp_def, hsame] using hlacks
    | deleteUser user =>
      obtain ⟨-, rfl⟩ := h.deleteUser_eq_ok.mp ht
      refine List.any_eq_false.mpr fun u hu => ?_
      exact List.any_eq_false.mp hlacks u (List.mem_of_mem_filter hu)
    | _ => exact absurd hw (by simp [Operation.writes])
  · have hsame : t.users = s.users := same_of_not_writes h ht hw
    rwa [hasUser, hsame]

theorem Lacks.apply (hlacks : s.Lacks id) (h : s.Coherent) (ht : op.apply s = .ok t)
    (hid : id ∉ op.adds s) : t.Lacks id := by
  have hgenerated : op.generated? ≠ some id := fun hgen => hid (Operation.mem_adds hgen)
  -- a row is either an old one, with its identifier, or one that the call has just added
  constructor
  case users => exact hasUser_of_apply h ht hid hlacks.users
  case sessions =>
    rintro x hx rfl
    rcases session_of_apply h ht hx with hold | hopened
    · exact hlacks.sessions x hold rfl
    · exact hgenerated (generated_of_opened hopened)
  case drafts =>
    rintro k d hd rfl
    rcases draft_of_apply h ht hd with hold | ⟨rfl, -⟩
    · exact hlacks.drafts k d hold rfl
    · exact hgenerated rfl
  case entities =>
    rintro k e he rfl
    rcases entity_of_apply h ht he with ⟨e', he', hsame, -⟩ | ⟨draft, rfl⟩
    · exact hlacks.entities k e' he' hsame
    · exact hgenerated rfl
  case batches =>
    rintro b hb rfl
    rcases batch_of_apply h ht hb with hold | ⟨rfl, -⟩ | ⟨-, -, hold⟩
    · exact hlacks.batches b hold rfl
    · exact hgenerated rfl
    · exact hlacks.batches _ hold rfl
  case notifications =>
    rintro n hn rfl
    rcases notification_of_apply h ht hn with hold | ⟨-, -, -, hold⟩ | ⟨_, _, _, rfl, hmade, -⟩
    · exact hlacks.notifications n hold rfl
    · exact hlacks.notifications { n with completed := none } hold rfl
    · exact hid (List.mem_append_right _ hmade)

end Store

end AlertService
