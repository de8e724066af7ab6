import AlertService.Proofs.Store.Invariance

/-!
# Opting in and out

* `choose_fst`: a choice says whether it changed anything.
* `contactIsActive_choose`: it is in force afterwards, and other chats keep theirs.
* `contactIsActive_of_mem_targets`: a batch reaches chats that have opted in.
-/

namespace AlertService

namespace Store

variable {s : Store} {chat other : Int64} {active : Bool} {owner : Uuid}

/-- The chat opts in, or out. -/
def choose (s : Store) (chat : Int64) (active : Bool) : Bool × Store :=
  if active then s.activateContact chat else s.deactivateContact chat

theorem contactIsActive_setContact_self :
    (s.setContact chat active).contactIsActive chat =
      ((s.contacts.any fun c => c.chat = chat) && active) := by
  have hrow : ∀ c : Contact, (decide ((if c.chat = chat then { c with active := active }
      else c).chat = chat) && (if c.chat = chat then { c with active := active } else c).active) =
      (decide (c.chat = chat) && active) := by
    intro c
    by_cases hc : c.chat = chat <;> simp [hc]
  simp only [setContact, contactIsActive, List.any_map, Function.comp_def, hrow]
  cases active <;> simp

theorem contactIsActive_setContact_of_ne (h : other ≠ chat) :
    (s.setContact chat active).contactIsActive other = s.contactIsActive other := by
  simp only [setContact, contactIsActive, List.any_map]
  refine congrArg s.contacts.any (funext fun c => ?_)
  simp only [Function.comp_apply]
  split
  · rename_i hc
    simp [hc, h.symm]
  · rfl

theorem contactIsActive_activateContact :
    (s.activateContact chat).2.contactIsActive other =
      if other = chat then true else s.contactIsActive other := by
  unfold activateContact
  split
  · rename_i hactive
    split
    · rename_i h
      exact h ▸ hactive
    · rfl
  · split
    · rename_i hrow
      split
      · rename_i h
        rw [h, contactIsActive_setContact_self, hrow, Bool.and_true]
      · rename_i h
        exact contactIsActive_setContact_of_ne h
    · split
      · rename_i h
        simp [contactIsActive, h]
      · rename_i h
        simp [contactIsActive, Ne.symm h]

theorem contactIsActive_deactivateContact :
    (s.deactivateContact chat).2.contactIsActive other =
      if other = chat then false else s.contactIsActive other := by
  unfold deactivateContact
  split
  · split
    · rename_i h
      rw [h, contactIsActive_setContact_self, Bool.and_false]
    · rename_i h
      exact contactIsActive_setContact_of_ne h
  · rename_i hactive
    split
    · rename_i h
      exact h ▸ Bool.eq_false_iff.mpr hactive
    · rfl

/-- After a choice it is in force, and other chats are as before. -/
theorem contactIsActive_choose :
    (s.choose chat active).2.contactIsActive other =
      if other = chat then active else s.contactIsActive other := by
  cases active with
  | true => exact contactIsActive_activateContact
  | false => exact contactIsActive_deactivateContact

theorem Coherent.choose (h : s.Coherent) (chat : Int64) (active : Bool) :
    (s.choose chat active).2.Coherent := by
  cases active with
  | true => exact h.activateContact chat
  | false => exact h.deactivateContact chat

/-- A choice says whether it was made before. -/
theorem choose_fst : (s.choose chat active).1 = (s.contactIsActive chat != active) := by
  cases active with
  | true =>
    simp only [choose, if_true, activateContact]
    cases s.contactIsActive chat <;> simp only [Bool.false_eq_true, if_false, if_true]
    · split <;> rfl
    · rfl
  | false =>
    simp only [choose, Bool.false_eq_true, if_false, deactivateContact]
    cases s.contactIsActive chat <;> rfl

/-- The chats that a batch reaches have opted in. -/
theorem contactIsActive_of_mem_targets {x : Target} (hx : x ∈ s.targets owner) :
    s.contactIsActive x.chat = true := by
  obtain ⟨g, -, hx⟩ := List.mem_flatMap.mp hx
  unfold groupTargets at hx
  split at hx
  · exact absurd hx List.not_mem_nil
  · obtain ⟨r, -, hx⟩ := List.mem_filterMap.mp hx
    obtain ⟨chat, hchat, rfl⟩ := Option.map_eq_some_iff.mp hx
    exact (Option.filter_eq_some_iff.mp hchat).2

end Store

end AlertService
