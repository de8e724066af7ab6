import AlertService.Proofs.Store.Arrival
import AlertService.Proofs.Store.Deletion
import AlertService.Proofs.Store.Ledger

/-!
# Memberships as a list of pairs

Who is a member of what can be kept as a list of pairs next to the ledger: one who is added is written
at its end, one who is removed is struck out, and so are the pairs of a group, a recipient or a user
that is deleted. All calls about members answer from that list.

* `Roster`, `Roster.record`: the list, and what a successful call does to it.
* `Roster.Describes.record`: a successful call keeps store and roster in step.
* `keepsRoster`: the answers after every run, and what failing calls leave.
-/

namespace AlertService

open Operation Database

variable {s t : Store} {op : Operation} {ops : List Operation} {k : Kind}
  {owner id group recipient : Uuid}

/-! ## The roster -/

/-- The entity is in the ledger and belongs to the user. -/
def Ledger.owns (m : Ledger) (owner : Uuid) (k : Kind) (id : Uuid) : Bool :=
  (m.entities.get k).any fun e => e.id = id && e.owner = owner

/-- A ledger, and the pairs of groups and members. -/
structure Roster extends Ledger where
  pairs : List Membership

namespace Roster

def empty : Roster := ⟨.empty, []⟩

/-- The pairs after a successful call. -/
def pairsAfter (m : Roster) : Operation → List Membership
  | .addMember _ group recipient => m.pairs ++ [⟨group, recipient⟩]
  | .removeMember _ group recipient => m.pairs.filter fun p => p ≠ ⟨group, recipient⟩
  | .deleteEntity .group _ id => m.pairs.filter fun p => p.group ≠ id
  | .deleteEntity .recipient _ id => m.pairs.filter fun p => p.recipient ≠ id
  | .deleteUser id =>
    m.pairs.filter fun p => !(m.owns id .group p.group || m.owns id .recipient p.recipient)
  | _ => m.pairs

def record (m : Roster) (op : Operation) : Roster := ⟨m.toLedger.record op, m.pairsAfter op⟩

def of (ops : List Operation) : Roster := (fresh.successes ops).foldl record empty

theorem of_concat (ops : List Operation) (op : Operation) :
    of (ops ++ [op]) = ((after ops).successes [op]).foldl record (of ops) := by
  rw [of, successes_append fresh rfl, List.foldl_append]
  rfl

theorem of_concat_of_ok (ht : op.apply (after ops).store = .ok t) :
    of (ops ++ [op]) = (of ops).record op := by
  simp only [of_concat, successes, ht, List.foldl_cons, List.foldl_nil]

theorem of_concat_of_error {e : StoreError} (ht : op.apply (after ops).store = .error e) :
    of (ops ++ [op]) = of ops := by
  simp only [of_concat, successes, ht, List.foldl_nil]

variable {m : Roster}

/-! ## One call -/

/-- The store has the entities and the pairs of the roster. -/
structure Describes (m : Roster) (s : Store) : Prop where
  ledger : m.toLedger.Describes s
  pairs : s.memberships = m.pairs

theorem describes_empty : empty.Describes Store.empty := ⟨Ledger.describes_empty, rfl⟩

namespace Describes

theorem owns (hm : m.Describes s) (owner : Uuid) (k : Kind) (id : Uuid) :
    s.owns owner k id = m.owns owner k id := by
  rw [Store.owns, hm.ledger.entities, Ledger.owns]

theorem pairs_withoutUser (hm : m.Describes s) (h : s.Coherent) (id : Uuid) :
    (s.withoutUser id).memberships = m.pairsAfter (.deleteUser id) := by
  simp only [Store.withoutUser, pairsAfter, ← hm.pairs, ← hm.owns]
  refine List.filter_congr fun p hp => ?_
  -- the group and the recipient of a pair have one owner, so that they go together
  obtain ⟨owner, hg, hr⟩ := h.members p hp
  rw [h.owns_eq hg, h.owns_eq hr, Bool.or_self]

theorem pairs_record (hm : m.Describes s) (h : s.Coherent) (ht : op.apply s = .ok t) :
    t.memberships = m.pairsAfter op := by
  by_cases hw : Table.memberships ∈ op.writes
  · cases op with
    | deleteUser id =>
      obtain ⟨-, rfl⟩ := h.deleteUser_iff.mp ht
      exact hm.pairs_withoutUser h id
    | deleteEntity k owner id =>
      obtain ⟨-, rfl⟩ := h.deleteEntity_iff.mp ht
      cases k <;> simp only [Store.without, pairsAfter, hm.pairs]
    | addMember owner group recipient =>
      obtain ⟨-, -, -, rfl⟩ := Store.addMember_eq_ok.mp ht
      simp only [pairsAfter, hm.pairs]
    | removeMember owner group recipient =>
      obtain ⟨-, -, -, rfl⟩ := Store.removeMember_eq_ok.mp ht
      simp only [pairsAfter, hm.pairs]
    | _ => exact absurd hw (by simp [Operation.writes])
  · have hpairs : m.pairsAfter op = m.pairs := by
      cases op with
      | deleteUser | deleteEntity | addMember | removeMember =>
        exact absurd (by simp [Operation.writes]) hw
      | _ => rfl
    rw [hpairs, ← hm.pairs]
    exact same_of_not_writes h ht hw

theorem record (hm : m.Describes s) (h : s.Coherent) (ht : op.apply s = .ok t) :
    (m.record op).Describes t where
  ledger := hm.ledger.record h ht
  pairs := hm.pairs_record h ht

end Describes

theorem describes_after (ops : List Operation) : (of ops).Describes (after ops).store :=
  foldl_successes (fun _ _ _ _ h hm ht => hm.record h ht) sound_fresh describes_empty ops

/-! ## Answers -/

/-- The answer `x`, unless the group is not the user's, or else the recipient is not. -/
def granted {α : Type} (m : Roster) (owner group recipient : Uuid) (x : Except StoreError α) :
    Except StoreError α :=
  if !m.owns owner .group group then .error (.notFound "recipient group")
  else if !m.owns owner .recipient recipient then .error (.notFound "recipient")
  else x

/-- The store answers calls about members from the roster. -/
structure Answers (m : Roster) (s : Store) : Prop where
  add : ∀ owner group recipient, s.addMember owner group recipient =
    m.granted owner group recipient
      (if ⟨group, recipient⟩ ∈ m.pairs then .error (.conflict "group membership")
      else .ok { s with memberships := m.pairs ++ [⟨group, recipient⟩] })
  remove : ∀ owner group recipient, s.removeMember owner group recipient =
    m.granted owner group recipient
      (if ⟨group, recipient⟩ ∈ m.pairs then
        .ok { s with memberships := m.pairs.filter fun p => p ≠ ⟨group, recipient⟩ }
      else .error (.notFound "group membership"))
  foreign : ∀ owner group, m.owns owner .group group = false →
    s.groupMembers owner group = .error (.notFound "recipient group")
  /-- The recipients of the pairs are listed with the fields that they have now. -/
  list : ∀ owner group, m.owns owner .group group = true → ∃ rs, s.groupMembers owner group = .ok rs ∧
    rs.map Owned.id = (m.pairs.filter fun p => p.group = group).map Membership.recipient ∧
    (rs.map Owned.id).Nodup ∧ ∀ r ∈ rs, r ∈ m.entities.recipient

variable (hm : m.Describes s)

include hm

theorem Describes.requireOwned (owner : Uuid) (k : Kind) (id : Uuid) :
    s.requireOwned owner k id =
      if m.owns owner k id then .ok () else .error (.notFound k.label) := by
  rw [Store.requireOwned, hm.owns]

theorem Describes.granted {α : Type} (owner group recipient : Uuid) (x : Except StoreError α) :
    (do
      s.requireOwned owner .group group
      s.requireOwned owner .recipient recipient
      x) = m.granted owner group recipient x := by
  rw [hm.requireOwned, hm.requireOwned, Roster.granted]
  cases m.owns owner .group group with
  | false => rfl
  | true => cases m.owns owner .recipient recipient <;> rfl

omit hm in
/-- Every membership of a group leads to a recipient. -/
theorem map_id_members (h : s.Coherent) (group : Uuid) :
    (s.members group).map Owned.id =
      (s.memberships.filter fun p => p.group = group).map Membership.recipient := by
  have hids : ∀ p ∈ s.memberships,
      (s.entity? .recipient p.recipient).map Owned.id = some p.recipient := by
    intro p hp
    obtain ⟨owner, -, hr⟩ := h.members p hp
    obtain ⟨r, hr, hid, -⟩ := Store.owns_iff.mp hr
    rw [h.entity?_eq_some.mpr ⟨hr, hid⟩, Option.map_some, hid]
  rw [Store.members, List.map_filterMap, ← List.filterMap_eq_map]
  exact List.filterMap_congr fun p hp => hids p (List.mem_of_mem_filter hp)

omit hm in
/-- Pairs of the same group differ in the recipient. -/
theorem nodup_recipients (h : s.memberships.Nodup) (group : Uuid) :
    ((s.memberships.filter fun p => p.group = group).map Membership.recipient).Nodup := by
  refine List.Nodup.map_on ?_ (h.filter _)
  rintro ⟨g, r⟩ hp ⟨g', r'⟩ hp' rfl
  obtain rfl : g = group := of_decide_eq_true (List.mem_filter.mp hp).2
  obtain rfl : g' = g := of_decide_eq_true (List.mem_filter.mp hp').2
  rfl

theorem Describes.answers (h : s.Coherent) : m.Answers s where
  add owner group recipient := by
    rw [Store.addMember, hm.granted]
    simp only [hm.pairs, List.contains_iff_mem]
  remove owner group recipient := by
    rw [Store.removeMember, hm.granted]
    simp only [hm.pairs, List.contains_iff_mem]
  foreign owner group howns := by
    simp only [Store.groupMembers, hm.requireOwned, howns]
    rfl
  list owner group howns := by
    refine ⟨s.members group, ?_, ?_, ?_, fun r hr => ?_⟩
    · simp only [Store.groupMembers, hm.requireOwned, howns]
      rfl
    · rw [map_id_members h, hm.pairs]
    · rw [map_id_members h]
      exact nodup_recipients h.pairs group
    · obtain ⟨p, -, hfound⟩ := List.mem_filterMap.mp hr
      obtain ⟨hr, -⟩ := h.entity?_eq_some.mp hfound
      rwa [← hm.ledger.entities]

end Roster

/-! ## Runs -/

/-- What a run and its roster have in common. -/
structure Database.KeepsRoster (ops : List Operation) : Prop where
  memberships : (after ops).store.memberships = (Roster.of ops).pairs
  answers : (Roster.of ops).Answers (after ops).store
  nodup : (Roster.of ops).pairs.Nodup
  /-- A pair stands behind another one if it was made later, or made again. -/
  ordered : (Roster.of ops).pairs.Pairwise (CameBefore Store.memberships ops)
  succeeds : ∀ op t, op.apply (after ops).store = .ok t →
    Roster.of (ops ++ [op]) = (Roster.of ops).record op
  fails : ∀ op e, op.apply (after ops).store = .error e → Roster.of (ops ++ [op]) = Roster.of ops

/-- Whatever calls are made by whichever users, those about members answer from the list of the
pairs that were added and have not been struck out since. -/
theorem Database.keepsRoster (ops : List Operation) : KeepsRoster ops := by
  have hm := Roster.describes_after ops
  have h : (after ops).store.Coherent := coherent_after ops
  exact
    { memberships := hm.pairs
      answers := hm.answers h
      nodup := hm.pairs ▸ h.pairs
      ordered := hm.pairs ▸ pairwise_cameBefore rfl (fun _ _ _ => grows_memberships) ops
      succeeds := fun _ _ ht => Roster.of_concat_of_ok ht
      fails := fun _ _ ht => Roster.of_concat_of_error ht }

/-- One who is added again comes last. -/
example :
    let user : Uuid := .uniform 0
    let ops : List Operation := [.createUser user "anna" "hash",
      .insertDraft .group (.uniform 1) user ⟨"family", true, none⟩,
      .confirmDraft .group user (.uniform 1) (.uniform 2),
      .insertDraft .recipient (.uniform 3) user ⟨"ben", none, none, none⟩,
      .confirmDraft .recipient user (.uniform 3) (.uniform 4),
      .insertDraft .recipient (.uniform 5) user ⟨"carl", none, none, none⟩,
      .confirmDraft .recipient user (.uniform 5) (.uniform 6),
      .addMember user (.uniform 2) (.uniform 4), .addMember user (.uniform 2) (.uniform 6),
      .removeMember user (.uniform 2) (.uniform 4), .addMember user (.uniform 2) (.uniform 4)]
    (Roster.of ops).pairs = [⟨.uniform 2, .uniform 6⟩, ⟨.uniform 2, .uniform 4⟩] := by
  decide

end AlertService
