import AlertService.Proofs.Store.Origin
import Mathlib.Data.List.Induction

/-!
# The order of arrival

Rows are never moved: a call strikes rows out of a table, or adds one at its end. The order of a table
is therefore the order in which its rows came.

* `Grows`: what a call may do to the keys of a table.
* `CameBefore`: one key was there already when another one came, and both have been there since.
* `pairwise_cameBefore`: the keys of a table are in the order of arrival after every run.
-/

namespace AlertService

open Operation Database

/-! ## Lists that grow at the end -/

section Grows

variable {κ : Type} {xs ys : List κ} {x : κ}

/-- Some elements are struck out, and at most one, which is new, is added at the end. -/
def Grows (xs ys : List κ) : Prop :=
  ∃ kept added, ys = kept ++ added ∧ kept.Sublist xs ∧ added.length ≤ 1 ∧ ∀ y ∈ added, y ∉ xs

theorem Grows.of_sublist (h : ys.Sublist xs) : Grows xs ys :=
  ⟨ys, [], (List.append_nil ys).symm, h, Nat.zero_le 1, fun _ hy => absurd hy List.not_mem_nil⟩

theorem Grows.concat (h : x ∉ xs) : Grows xs (xs ++ [x]) := by
  refine ⟨xs, [x], rfl, List.Sublist.refl xs, Nat.le_refl 1, fun y hy => ?_⟩
  rw [List.mem_singleton.mp hy]
  exact h

end Grows

variable {s t : Store} {op : Operation}

/-! ## Groups and memberships -/

/-- The identifiers of the groups. -/
def Store.groupIds (s : Store) : List Uuid := s.entities.group.map (·.id)

theorem grows_memberships (h : s.Coherent) (ht : op.apply s = .ok t) :
    Grows s.memberships t.memberships := by
  by_cases hw : Table.memberships ∈ op.writes
  · cases op with
    | deleteUser id =>
      obtain ⟨-, rfl⟩ := h.deleteUser_eq_ok.mp ht
      exact .of_sublist List.filter_sublist
    | deleteEntity k owner id =>
      obtain ⟨-, rfl⟩ := Store.deleteEntity_eq_ok.mp ht
      cases k with
      | recipient | group => exact .of_sublist List.filter_sublist
      | template => exact .of_sublist (List.Sublist.refl _)
    | addMember owner group recipient =>
      obtain ⟨-, -, hnew, rfl⟩ := Store.addMember_eq_ok.mp ht
      exact .concat hnew
    | removeMember owner group recipient =>
      obtain ⟨-, -, -, rfl⟩ := Store.removeMember_eq_ok.mp ht
      exact .of_sublist List.filter_sublist
    | _ => exact absurd hw (by simp [Operation.writes])
  · have hsame : t.memberships = s.memberships := same_of_not_writes h ht hw
    rw [hsame]
    exact .of_sublist (List.Sublist.refl _)

theorem grows_groupIds (h : s.Coherent) (ht : op.apply s = .ok t) : Grows s.groupIds t.groupIds := by
  by_cases hw : Table.entities ∈ op.writes
  · cases op with
    | deleteUser id =>
      obtain ⟨-, rfl⟩ := h.deleteUser_eq_ok.mp ht
      exact .of_sublist (List.filter_sublist.map _)
    | confirmDraft k owner draft new =>
      obtain ⟨⟨e, t⟩, hok, rfl⟩ := map_eq_ok.mp ht
      obtain ⟨d, fields, -, rfl, -, -, hnew, -, rfl, rfl⟩ := Store.confirmDraft_eq_ok.mp hok
      cases k with
      | recipient | template => exact .of_sublist (List.Sublist.refl _)
      | group =>
        have hfree : new ∉ s.groupIds := by
          intro hmem
          obtain ⟨g, hg, hid⟩ := List.mem_map.mp hmem
          exact find?_key_eq_none.mp hnew g hg hid
        have hids : ∀ g : Owned GroupFields,
            (s.entities.group ++ [g]).map (·.id) = s.groupIds ++ [g.id] := fun _ => List.map_append
        have hgrows := Grows.concat hfree
        rw [← hids ⟨new, d.owner, fields⟩] at hgrows
        exact hgrows
    | updateEntity k owner id fields =>
      obtain ⟨⟨e, t⟩, hok, rfl⟩ := map_eq_ok.mp ht
      obtain ⟨-, -, -, rfl⟩ := Store.updateEntity_eq_ok.mp hok
      cases k with
      | recipient | template => exact .of_sublist (List.Sublist.refl _)
      | group =>
        have hids : (s.entities.group.map fun e =>
            if e.id = id then { e with fields := fields } else e).map (·.id) = s.groupIds :=
          map_key_map fun e => by split <;> rfl
        exact .of_sublist (hids ▸ List.Sublist.refl _)
    | deleteEntity k owner id =>
      obtain ⟨-, rfl⟩ := Store.deleteEntity_eq_ok.mp ht
      cases k with
      | recipient => exact .of_sublist (List.Sublist.refl _)
      | template =>
        have hids : (s.dropEntities .template [id]).groupIds = s.groupIds := map_key_map fun _ => rfl
        exact .of_sublist (hids ▸ List.Sublist.refl _)
      | group => exact .of_sublist (List.filter_sublist.map _)
    | _ => exact absurd hw (by simp [Operation.writes])
  · have hsame : t.entities = s.entities := same_of_not_writes h ht hw
    have hids : t.groupIds = s.groupIds := by rw [Store.groupIds, hsame, Store.groupIds]
    rw [hids]
    exact .of_sublist (List.Sublist.refl _)

/-! ## Runs -/

namespace Database

variable {κ : Type} {keys : Store → List κ} {ops : List Operation} {a b : κ}

/-- The key `a` was there already when `b` came, and both have been there since. -/
def CameBefore (keys : Store → List κ) (ops : List Operation) (a b : κ) : Prop :=
  ∃ before rest, ops = before ++ rest ∧ a ∈ keys (after before).store ∧
    b ∉ keys (after before).store ∧ ∀ mid, mid <+: rest → mid ≠ [] →
      a ∈ keys (after (before ++ mid)).store ∧ b ∈ keys (after (before ++ mid)).store

theorem CameBefore.ne (h : CameBefore keys ops a b) : a ≠ b := by
  obtain ⟨before, rest, -, ha, hb, -⟩ := h
  exact fun he => hb (he ▸ ha)

theorem CameBefore.concat (h : CameBefore keys ops a b)
    (ha : a ∈ keys (after (ops ++ [op])).store) (hb : b ∈ keys (after (ops ++ [op])).store) :
    CameBefore keys (ops ++ [op]) a b := by
  obtain ⟨before, rest, rfl, hold, hnew, hsince⟩ := h
  refine ⟨before, rest ++ [op], List.append_assoc .., hold, hnew, fun mid hmid hne => ?_⟩
  rcases List.prefix_concat_iff.mp hmid with rfl | hmid
  · rw [← List.append_assoc]
    exact ⟨ha, hb⟩
  · exact hsince mid hmid hne

theorem cameBefore_of_last (ha : a ∈ keys (after ops).store) (hb : b ∉ keys (after ops).store)
    (ha' : a ∈ keys (after (ops ++ [op])).store) (hb' : b ∈ keys (after (ops ++ [op])).store) :
    CameBefore keys (ops ++ [op]) a b := by
  refine ⟨ops, [op], rfl, ha, hb, fun mid hmid hne => ?_⟩
  have hmid : mid <+: [] ++ [op] := hmid
  rcases List.prefix_concat_iff.mp hmid with rfl | hmid
  · exact ⟨ha', hb'⟩
  · exact absurd (List.prefix_nil.mp hmid) hne

/-- The keys of a table are in the order of arrival. -/
theorem pairwise_cameBefore (hempty : keys .empty = [])
    (hgrows : ∀ s op t, s.Coherent → Operation.apply op s = .ok t → Grows (keys s) (keys t))
    (ops : List Operation) : (keys (after ops).store).Pairwise (CameBefore keys ops) := by
  induction ops using List.reverseRecOn with
  | nil =>
    show (keys Store.empty).Pairwise _
    rw [hempty]
    exact List.Pairwise.nil
  | append_singleton ops op ih =>
    have hstep : Grows (keys (after ops).store) (keys (after (ops ++ [op])).store) := by
      rw [after_concat]
      rcases perform_cases (after ops) op with ⟨t, ht, he⟩ | he
      · rw [he]
        exact hgrows _ op t (coherent_run coherent_fresh ops) ht
      · rw [he]
        exact .of_sublist (List.Sublist.refl _)
    obtain ⟨kept, added, hkeys, hkept, hone, hadded⟩ := hstep
    have hmem : ∀ x ∈ kept ++ added, x ∈ keys (after (ops ++ [op])).store := fun x hx => hkeys ▸ hx
    rw [hkeys]
    refine List.pairwise_append.mpr ⟨?_, ?_, fun x hx y hy => ?_⟩
    · refine (ih.sublist hkept).imp_of_mem fun hx hy hxy => ?_
      exact hxy.concat (hmem _ (List.mem_append_left _ hx)) (hmem _ (List.mem_append_left _ hy))
    · match added, hone with
      | [], _ => exact List.Pairwise.nil
      | [y], _ => exact List.pairwise_singleton _ y
    · exact cameBefore_of_last (hkept.mem hx) (hadded y hy)
        (hmem x (List.mem_append_left _ hx)) (hmem y (List.mem_append_right _ hy))

end Database

end AlertService
