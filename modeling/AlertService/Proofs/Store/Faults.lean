import AlertService.Proofs.Store.Sessions
import AlertService.Proofs.Store.Supply

/-!
# Calls that do not break down

A call that the rows speak against says which row or whose. Everything else is a fault: of the
engine, which found a constraint violated or a column unreadable, or of a lock that broke. In a
store that calls have led to there are no faults, as long as the caller exists and identifiers are
fresh.

* `Faultless`: a call does not end in a fault.
* `Legible.apply`: what calls write can be read.
* `faultless_apply`: no call that is ready ends in a fault.
-/

namespace AlertService

/-- The storage engine is to blame, or its lock. -/
def StoreError.IsFault : StoreError → Prop
  | .poisoned _ => True
  | .engine _ => True
  | _ => False

/-- The call does not end in a fault. -/
def Faultless {α : Type} (x : Except StoreError α) : Prop := ∀ e, x = .error e → ¬e.IsFault

section Faultless

variable {α β : Type} {x y : Except StoreError α} {f : α → Except StoreError β} {e : StoreError}

theorem faultless_ok (a : α) : Faultless (.ok a) := fun _ h => nomatch h

theorem faultless_error (h : ¬e.IsFault) : Faultless (.error e : Except StoreError α) := by
  rintro _ ⟨⟩
  exact h

theorem faultless_of_exists (h : ∃ a, x = .ok a) : Faultless x := by
  obtain ⟨a, rfl⟩ := h
  exact faultless_ok a

theorem faultless_bind (hx : Faultless x) (hf : ∀ a, x = .ok a → Faultless (f a)) :
    Faultless (x >>= f) := by
  cases x with
  | error e => exact faultless_error (hx e rfl)
  | ok a => exact hf a rfl

theorem faultless_map {g : α → β} (hx : Faultless x) : Faultless (x.map g) := by
  cases x with
  | error e => exact faultless_error (hx e rfl)
  | ok a => exact faultless_ok (g a)

theorem faultless_ite {c : Prop} [Decidable c] (hx : Faultless x) (hy : ¬c → Faultless y) :
    Faultless (if c then x else y) := by
  by_cases h : c
  · rwa [if_pos h]
  · rw [if_neg h]
    exact hy h

end Faultless

namespace Store

variable {s t : Store} {k : Kind} {owner user id new : Uuid} {op : Operation}

/-! ## What is written can be read -/

/-- Every channel has a name that is known, and no reference stands in a foreign form. -/
structure Legible (s : Store) : Prop where
  channels : ∀ n ∈ s.notifications, n.channel = Channel.telegram.name
  strays : ∀ k, ∀ d ∈ s.drafts.get k, d.stray = none

theorem legible_empty : Legible empty where
  channels _ hn := absurd hn List.not_mem_nil
  strays k _ hd := by cases k <;> exact absurd hd List.not_mem_nil

theorem Legible.apply (hs : s.Legible) (h : s.Coherent) (ht : op.apply s = .ok t) :
    t.Legible where
  channels n hn := by
    rcases notification_of_apply h ht hn with hold | ⟨-, -, -, hold⟩ | ⟨owner, now, fresh, rfl, -⟩
    · exact hs.channels n hold
    · exact hs.channels { n with completed := none } hold
    · obtain ⟨⟨ds, t⟩, hok, rfl⟩ := map_eq_ok.mp ht
      obtain ⟨-, -, -, rfl⟩ := (startBatch_eq_ok h.notificationIds).mp hok
      rcases List.mem_append.mp hn with hold | hrow
      · exact hs.channels n hold
      · obtain ⟨x, -, hx⟩ := List.mem_map.mp hrow
        exact (congrArg Notification.channel hx).symm
  strays k d hd := by
    rcases draft_of_apply h ht hd with hold | ⟨-, hstray⟩
    · exact hs.strays k d hold
    · exact hstray

theorem Legible.draftFields (hs : s.Legible) {d : Draft k.Fields} (hd : d ∈ s.drafts.get k) :
    Store.draftFields k d = .ok d.fields :=
  draftFields_of_not_stray (hs.strays k d hd)

/-! ## Checks -/

theorem faultless_requireOwner {α : Type} {row? : Option α} {ownerOf : α → Uuid}
    {label : String} : Faultless (requireOwner row? ownerOf owner label) := by
  cases row? with
  | none => exact faultless_error fun h => h
  | some row => exact faultless_ite (faultless_ok _) fun _ => faultless_error fun h => h

theorem faultless_requireOwned : Faultless (s.requireOwned owner k id) :=
  faultless_ite (faultless_ok _) fun _ => faultless_error fun h => h

theorem faultless_checkReferences (s : Store) (owner : Uuid) (fields : k.Fields) :
    Faultless (s.checkReferences owner k fields) := by
  cases k with
  | recipient => exact faultless_ok _
  | template => exact faultless_ok _
  | group =>
    simp only [checkReferences]
    split
    · exact faultless_ok _
    · exact faultless_ite (faultless_ok _) fun _ => faultless_error fun h => h

/-! ## Calls that read -/

theorem faultless_groupMembers : Faultless (s.groupMembers owner id) :=
  faultless_bind faultless_requireOwned fun _ _ => faultless_ok _

/-- A name is looked up among the names of users. -/
theorem Coherent.userByName_cases (h : s.Coherent) (name : String) :
    (s.userByName name = .ok none ∧ ∀ u ∈ s.users, u.name ≠ name) ∨
      ∃ id hash, ⟨.value id, name, hash⟩ ∈ s.users ∧
        s.userByName name = .ok (some ⟨id, name, hash⟩) := by
  unfold userByName
  cases hfind : s.users.find? fun u => u.name = name with
  | none => exact Or.inl ⟨rfl, find?_key_eq_none.mp hfind⟩
  | some u =>
    obtain ⟨hu, rfl⟩ := (find?_key_eq_some h.userNames).mp hfind
    obtain ⟨id, hid⟩ := h.userKeys u hu
    obtain ⟨_, name, hash⟩ := u
    obtain rfl : _ = Stored.value id := hid
    exact Or.inr ⟨id, hash, hu, rfl⟩

theorem Typed.faultless_getNotification (hs : s.Typed) :
    Faultless (s.getNotification owner id) := by
  unfold Store.getNotification
  split
  · exact faultless_error fun h => h
  · rename_i n hn
    exact faultless_of_exists ⟨_, hs.readNotification (List.mem_of_find?_eq_some hn)⟩

end Store

/-! ## Calls that write -/

/-- The user for whom a row is added exists, and the rows get identifiers that no row has. -/
def Operation.Ready : Operation → Store → Prop
  | .createSession _ new user _, s => s.hasUser user = true ∧ s.Lacks new
  | .rotateSession _ _ _ new _, s => s.Lacks new
  | .insertDraft _ new owner _, s => s.hasUser owner = true ∧ s.Lacks new
  | .confirmDraft _ _ _ new, s => s.Lacks new
  | .createBatch new owner, s => s.hasUser owner = true ∧ s.Lacks new
  | .startBatch owner _ _ fresh, s => s.Supplies owner fresh
  | _, _ => True

namespace Store

variable {s : Store} {k : Kind} {owner user id new : Uuid} {op : Operation}

theorem createUser_eq_error {name hash : String} {e : StoreError}
    (he : s.createUser id name hash = .error e) :
    e = .conflict "user" ∧ ((∃ u ∈ s.users, u.name = name) ∨ s.hasUser id = true) := by
  unfold createUser insertUser at he
  cases hname : s.users.any fun u => u.name = name with
  | true =>
    rw [hname] at he
    exact ⟨(Except.error.inj he).symm, Or.inl (by simpa using hname)⟩
  | false =>
    rw [hname] at he
    cases hid : s.hasUser id with
    | true =>
      rw [hid] at he
      exact ⟨(Except.error.inj he).symm, Or.inr rfl⟩
    | false =>
      rw [hid] at he
      exact nomatch he

theorem updateUser_eq_error {name hash : String} {e : StoreError} (hid : s.hasUser id = true)
    (he : s.updateUser id name hash = .error e) :
    e = .conflict "user" ∧ ∃ u ∈ s.users, u.name = name ∧ u.id ≠ .value id := by
  unfold updateUser at he
  rw [hid] at he
  cases hname : s.users.any fun u => u.name = name && u.id ≠ .value id with
  | true =>
    rw [hname] at he
    exact ⟨(Except.error.inj he).symm, by simpa using hname⟩
  | false =>
    rw [hname] at he
    exact nomatch he

theorem faultless_createUser (s : Store) (id : Uuid) (name hash : String) :
    Faultless (s.createUser id name hash) := by
  intro e he
  rw [(createUser_eq_error he).1]
  exact fun h => h

theorem faultless_updateUser (s : Store) (id : Uuid) (name hash : String) :
    Faultless (s.updateUser id name hash) :=
  faultless_ite (faultless_error fun h => h) fun _ =>
    faultless_ite (faultless_error fun h => h) fun _ => faultless_ok _

theorem faultless_deleteUser (s : Store) (id : Uuid) : Faultless (s.deleteUser id) :=
  faultless_ite (faultless_error fun h => h) fun _ => faultless_ok _

theorem Lacks.faultless_rotateSession (hnew : s.Lacks new) (h : s.Coherent) (now expiry : Int)
    (old user : Uuid) : Faultless (s.rotateSession now old user new expiry) := by
  cases hlive : s.sessionIsLive now old user with
  | true => exact faultless_of_exists (h.rotateSession_of_live expiry hlive hnew.sessions)
  | false =>
    rw [rotateSession_of_not_live hlive]
    exact faultless_error fun h => h

theorem Lacks.faultless_confirmDraft (hnew : s.Lacks new) (h : s.Coherent) (hs : s.Legible) :
    Faultless (s.confirmDraft k owner id new) := by
  refine faultless_bind faultless_requireOwner fun d hd => ?_
  obtain ⟨hfound, rfl⟩ := requireOwner_eq_ok.mp hd
  have hmem := (h.draft?_eq_some.mp hfound).1
  refine faultless_bind (faultless_of_exists ⟨_, hs.draftFields hmem⟩) fun fields _ => ?_
  refine faultless_bind (s.faultless_checkReferences _ fields) fun _ _ => ?_
  refine faultless_bind (faultless_of_exists ⟨_, insertEntity_eq_ok.mpr ⟨?_, ?_, rfl⟩⟩)
    fun _ _ => faultless_ok _
  · exact find?_key_eq_none.mpr (hnew.entities k)
  -- the row goes to the owner of the draft, who is there
  · exact h.draftOwners k d hmem

theorem faultless_getEntity : Faultless (s.getEntity k owner id) := faultless_requireOwner

/-- In a store that calls have led to, a call that is ready does not end in a fault. -/
theorem faultless_apply (h : s.Coherent) (hs : s.Legible) (hready : op.Ready s) :
    Faultless (op.apply s) := by
  cases op with
  | createUser id name hash => exact s.faultless_createUser id name hash
  | updateUser id name hash => exact s.faultless_updateUser id name hash
  | deleteUser id => exact s.faultless_deleteUser id
  | createSession now new user expiry =>
    exact faultless_of_exists (exists_createSession now expiry hready.1 hready.2.sessions)
  | rotateSession now old user new expiry => exact hready.faultless_rotateSession h now expiry _ _
  | insertDraft k new owner fields =>
    obtain ⟨howner, hnew⟩ := hready
    exact faultless_of_exists ⟨_, (hnew.insertDraft fields).trans (if_pos howner)⟩
  | confirmDraft k owner draft new => exact faultless_map (hready.faultless_confirmDraft h hs)
  | updateEntity k owner id fields =>
    refine faultless_map (faultless_bind faultless_getEntity fun _ _ => ?_)
    exact faultless_bind (s.faultless_checkReferences owner fields) fun _ _ => faultless_ok _
  | deleteEntity k owner id =>
    exact faultless_bind faultless_getEntity fun _ _ => faultless_ok _
  | addMember owner group recipient =>
    refine faultless_bind faultless_requireOwned fun _ _ => ?_
    refine faultless_bind faultless_requireOwned fun _ _ => ?_
    exact faultless_ite (faultless_error fun h => h) fun _ => faultless_ok _
  | removeMember owner group recipient =>
    refine faultless_bind faultless_requireOwned fun _ _ => ?_
    refine faultless_bind faultless_requireOwned fun _ _ => ?_
    exact faultless_ite (faultless_ok _) fun _ => faultless_error fun h => h
  | createBatch new owner =>
    obtain ⟨howner, hnew⟩ := hready
    exact faultless_of_exists ⟨_, hnew.createBatch.trans (if_pos howner)⟩
  | startBatch owner batch now fresh =>
    have hsupplies : s.Supplies owner fresh := hready
    refine faultless_map ?_
    rw [hsupplies.startBatch h]
    exact faultless_ite (faultless_ok _) fun _ => faultless_error fun h => h
  | completeNotification id time =>
    exact faultless_ite (faultless_ok _) fun _ => faultless_error fun h => h
  | cancelNotification owner id =>
    exact faultless_ite (faultless_ok _) fun _ => faultless_error fun h => h
  | activateContact chat => exact faultless_ok _
  | deactivateContact chat => exact faultless_ok _

end Store

end AlertService
