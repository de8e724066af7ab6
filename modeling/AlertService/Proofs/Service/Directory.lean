import AlertService.Proofs.Service.Reliability

/-!
# The account directory

Who has which name and which password can be read off the requests that were answered: those who
sign up are entered, those who change their account get a new entry in place of the old one, and
those who are deleted are dropped.

* `Service.directory`: the directory after some requests.
* `Service.Lists`: the users of the store are those of the directory.
* `Lists.append`, `Lists.drop`, `Lists.enter`: what becomes of both when an account changes.
-/

namespace AlertService

/-! ## Directories -/

/-- The user to whom a name belongs, and the password. -/
structure Entry where
  name : String
  user : Uuid
  password : String
deriving DecidableEq

abbrev Directory := List Entry

namespace Directory

/-- The entry of a name. -/
def get? (D : Directory) (name : String) : Option Entry := D.find? fun e => e.name = name

/-- Drops what the user has. -/
def drop (D : Directory) (user : Uuid) : Directory := D.filter fun e => e.user ≠ user

/-- Enters a name and a password for the user in place of what the user has. -/
def enter (D : Directory) (user : Uuid) (c : Credentials) : Directory :=
  D.drop user ++ [⟨c.name, user, c.password⟩]

end Directory

namespace Service

open Handler World

/-- The directory after a request that comes at a time, in a world. Only requests that are answered
with success count. -/
def record (service : Service) (now : Instant) (r : Http.Request) (w : World) (D : Directory) :
    Directory :=
  if (service.respond now r w).1.status ≠ 200 then D
  else if r.IsFor (.anyone .signUp) then
    match credentials? r.body with
    | some c => D ++ [⟨c.name, service.ids (w.issued + 1), c.password⟩]
    | none => D
  else if r.IsFor (.guarded .modifyUser) then
    match credentials? r.body, (service.authenticate now r w).1 with
    | some c, .ok caller => D.enter caller c
    | _, _ => D
  else if r.IsFor (.guarded .deleteUser) then
    match (service.authenticate now r w).1 with
    | .ok caller => D.drop caller
    | .error _ => D
  else D

/-- The directory after more requests, from a world and the directory there. -/
def directoryFrom (service : Service) :
    World → Directory → List (Instant × Http.Request) → Directory
  | _, D, [] => D
  | w, D, (now, r) :: log =>
    service.directoryFrom (service.respond now r w).2 (service.record now r w D) log

/-- The directory after the requests, from a fresh service. -/
def directory (service : Service) (log : List (Instant × Http.Request)) : Directory :=
  service.directoryFrom .fresh [] log

variable {service : Service} {D : Directory} {w : World} {now : Instant} {caller user : Uuid}
  {r : Http.Request} {users : List User} {c : Credentials}
  {log : List (Instant × Http.Request)} {u : User} {e : Entry} {text name : String}

theorem directory_concat (service : Service) (log : List (Instant × Http.Request))
    (x : Instant × Http.Request) :
    service.directory (log ++ [x]) =
      service.record x.1 x.2 (service.after log) (service.directory log) := by
  have hlog : ∀ w D, service.directoryFrom w D (log ++ [x]) =
      service.record x.1 x.2 (log.foldl (fun w x => (service.respond x.1 x.2 w).2) w)
        (service.directoryFrom w D log) := by
    induction log with
    | nil => exact fun _ _ => rfl
    | cons y log ih => exact fun w D => ih _ _
  exact hlog .fresh []

/-! ## What a request enters -/

theorem isFor_unique {e₁ e₂ : Endpoint} (h₁ : r.IsFor e₁) (h₂ : r.IsFor e₂) : e₁ = e₂ := by
  have hpath : e₁.path = e₂.path := h₁.1.symm.trans h₂.1
  exact Option.some.inj ((e₁.ofPath?_path.symm.trans (congrArg _ hpath)).trans e₂.ofPath?_path)

theorem record_signUp (hr : r.IsFor (.anyone .signUp)) :
    service.record now r w D =
      if (service.respond now r w).1.status ≠ 200 then D
      else
        match credentials? r.body with
        | some c => D ++ [⟨c.name, service.ids (w.issued + 1), c.password⟩]
        | none => D := by
  rw [record, if_pos hr]

theorem record_modifyUser (hr : r.IsFor (.guarded .modifyUser)) :
    service.record now r w D =
      if (service.respond now r w).1.status ≠ 200 then D
      else
        match credentials? r.body, (service.authenticate now r w).1 with
        | some c, .ok caller => D.enter caller c
        | _, _ => D := by
  have hsignUp : ¬r.IsFor (.anyone .signUp) := fun h => nomatch isFor_unique hr h
  rw [record, if_neg hsignUp, if_pos hr]

theorem record_deleteUser (hr : r.IsFor (.guarded .deleteUser)) :
    service.record now r w D =
      if (service.respond now r w).1.status ≠ 200 then D
      else
        match (service.authenticate now r w).1 with
        | .ok caller => D.drop caller
        | .error _ => D := by
  have hsignUp : ¬r.IsFor (.anyone .signUp) := fun h => nomatch isFor_unique hr h
  have hmodify : ¬r.IsFor (.guarded .modifyUser) := fun h => nomatch isFor_unique hr h
  rw [record, if_neg hsignUp, if_neg hmodify, if_pos hr]

theorem record_others (hsignUp : ¬r.IsFor (.anyone .signUp))
    (hmodify : ¬r.IsFor (.guarded .modifyUser)) (hdelete : ¬r.IsFor (.guarded .deleteUser)) :
    service.record now r w D = D := by
  rw [record, if_neg hsignUp, if_neg hmodify, if_neg hdelete, ite_self]

theorem mem_record (he : e ∈ service.record now r w D) :
    e ∈ D ∨ ∃ c, credentials? r.body = some c ∧ e.password = c.password := by
  unfold record at he
  split_ifs at he
  case pos => exact Or.inl he
  case pos =>
    split at he
    · rename_i c hbody
      rcases List.mem_append.mp he with he | he
      · exact Or.inl he
      · exact Or.inr ⟨c, hbody, congrArg Entry.password (List.mem_singleton.mp he)⟩
    · exact Or.inl he
  case pos =>
    split at he
    · rename_i c caller hbody _
      rcases List.mem_append.mp he with he | he
      · exact Or.inl (List.mem_of_mem_filter he)
      · exact Or.inr ⟨c, hbody, congrArg Entry.password (List.mem_singleton.mp he)⟩
    · exact Or.inl he
  case pos =>
    split at he
    · exact Or.inl (List.mem_of_mem_filter he)
    · exact Or.inl he
  case neg => exact Or.inl he

/-- The passwords that requests bring. -/
def passwords (log : List (Instant × Http.Request)) : List String :=
  log.filterMap fun x => (credentials? x.2.body).map Credentials.password

theorem mem_passwords {x : Instant × Http.Request} (hx : x ∈ log)
    (hbody : credentials? x.2.body = some c) : c.password ∈ passwords log :=
  List.mem_filterMap.mpr ⟨x, hx, by rw [hbody]; rfl⟩

/-- The passwords of the directory are among those that were brought. -/
theorem password_of_directory :
    ∀ e ∈ service.directory log, e.password ∈ passwords log := by
  induction log using List.reverseRecOn with
  | nil => exact fun _ h => absurd h List.not_mem_nil
  | append_singleton log x ih =>
    intro e he
    rw [directory_concat] at he
    rcases mem_record he with hold | ⟨c, hbody, hpassword⟩
    · rw [passwords, List.filterMap_append]
      exact List.mem_append_left _ (ih e hold)
    · rw [hpassword]
      exact mem_passwords (List.mem_append_right _ (List.mem_singleton_self x)) hbody

/-! ## The directory and the users -/

/-- The row is that of the entry. -/
structure IsRowOf (service : Service) (u : User) (e : Entry) : Prop where
  name : u.name = e.name
  user : u.id = .value e.user
  password : service.HashOf e.password u.passwordHash

/-- The users are those of the directory, which has no name and no user twice. -/
structure Lists (service : Service) (D : Directory) (users : List User) : Prop where
  entries : ∀ u ∈ users, ∃ e ∈ D, service.IsRowOf u e
  rows : ∀ e ∈ D, ∃ u ∈ users, service.IsRowOf u e
  names : (D.map Entry.name).Nodup
  users : (D.map Entry.user).Nodup

theorem lists_nil : service.Lists [] [] :=
  ⟨fun _ h => absurd h List.not_mem_nil, fun _ h => absurd h List.not_mem_nil, .nil, .nil⟩

namespace Lists

theorem readable (h : service.Lists D users) : Readable users := by
  intro u hu
  obtain ⟨e, -, hrow⟩ := h.entries u hu
  exact hrow.password.readable

theorem get?_eq_some (h : service.Lists D users) :
    D.get? name = some e ↔ e ∈ D ∧ e.name = name :=
  find?_key_eq_some h.names

/-- A name is in the directory where a user has it. -/
theorem get?_eq_none (h : service.Lists D users) :
    D.get? name = none ↔ ∀ u ∈ users, u.name ≠ name := by
  rw [Directory.get?, find?_key_eq_none]
  constructor
  · rintro hnone u hu rfl
    obtain ⟨e, he, hrow⟩ := h.entries u hu
    exact hnone e he hrow.name.symm
  · rintro hnone e he rfl
    obtain ⟨u, hu, hrow⟩ := h.rows e he
    exact hnone u hu hrow.name

theorem exists_get? (h : service.Lists D users) (hu : u ∈ users) (hname : u.name = name) :
    ∃ e, D.get? name = some e ∧ service.IsRowOf u e := by
  obtain ⟨e, he, hrow⟩ := h.entries u hu
  exact ⟨e, h.get?_eq_some.mpr ⟨he, hrow.name.symm.trans hname⟩, hrow⟩

theorem get?_drop (h : service.Lists D users) (he : e ∈ D) :
    (D.drop e.user).get? e.name = none := by
  refine find?_key_eq_none.mpr fun y hy hsame => ?_
  obtain ⟨hy, hne⟩ := List.mem_filter.mp hy
  rw [List.inj_on_of_nodup_map h.names hy he hsame] at hne
  simp at hne

theorem get?_enter (h : service.Lists D users) (he : e ∈ D) (hne : c.name ≠ e.name) :
    (D.enter e.user c).get? e.name = none := by
  have hdropped := h.get?_drop he
  unfold Directory.get? at hdropped ⊢
  rw [Directory.enter, List.find?_append, hdropped]
  simpa using hne

/-- A name that someone else has is in the directory as another's. -/
theorem exists_other (h : service.Lists D users) (hu : u ∈ users) (hname : u.name = name)
    (hid : u.id ≠ .value caller) : ∃ e, D.get? name = some e ∧ e.user ≠ caller := by
  obtain ⟨e, hget, hrow⟩ := h.exists_get? hu hname
  exact ⟨e, hget, fun hsame => hid (hrow.user.trans (congrArg _ hsame))⟩

theorem user_of_get? (h : service.Lists D users) (hget : D.get? name = some e)
    (hname : ∀ u ∈ users, u.name = name → u.id = .value caller) : e.user = caller := by
  obtain ⟨he, hsame⟩ := h.get?_eq_some.mp hget
  obtain ⟨u, hu, hrow⟩ := h.rows e he
  exact Stored.value.inj (hrow.user.symm.trans (hname u hu (hrow.name.trans hsame)))

theorem append (h : service.Lists D users) (htext : service.HashOf c.password text)
    (hname : ∀ u ∈ users, u.name ≠ c.name) (huser : ∀ u ∈ users, u.id ≠ .value user) :
    service.Lists (D ++ [⟨c.name, user, c.password⟩]) (users ++ [⟨.value user, c.name, text⟩])
    where
  entries u hu := by
    rcases List.mem_append.mp hu with hu | hu
    · obtain ⟨e, he, hrow⟩ := h.entries u hu
      exact ⟨e, List.mem_append_left _ he, hrow⟩
    · refine ⟨_, List.mem_append_right _ (List.mem_singleton_self _), ?_⟩
      rw [List.mem_singleton.mp hu]
      exact ⟨rfl, rfl, htext⟩
  rows e he := by
    rcases List.mem_append.mp he with he | he
    · obtain ⟨u, hu, hrow⟩ := h.rows e he
      exact ⟨u, List.mem_append_left _ hu, hrow⟩
    · refine ⟨_, List.mem_append_right _ (List.mem_singleton_self _), ?_⟩
      rw [List.mem_singleton.mp he]
      exact ⟨rfl, rfl, htext⟩
  names := by
    refine nodup_map_concat h.names fun e he hsame => ?_
    obtain ⟨u, hu, hrow⟩ := h.rows e he
    exact hname u hu (hrow.name.trans hsame)
  users := by
    refine nodup_map_concat h.users fun e he hsame => ?_
    obtain ⟨u, hu, hrow⟩ := h.rows e he
    exact huser u hu (hrow.user.trans (congrArg _ hsame))

theorem drop (h : service.Lists D users) (caller : Uuid) :
    service.Lists (D.drop caller) (users.filter fun u => u.id ≠ .value caller) where
  entries u hu := by
    obtain ⟨hu, hne⟩ := List.mem_filter.mp hu
    obtain ⟨e, he, hrow⟩ := h.entries u hu
    refine ⟨e, List.mem_filter.mpr ⟨he, ?_⟩, hrow⟩
    simpa [hrow.user] using hne
  rows e he := by
    obtain ⟨he, hne⟩ := List.mem_filter.mp he
    obtain ⟨u, hu, hrow⟩ := h.rows e he
    refine ⟨u, List.mem_filter.mpr ⟨hu, ?_⟩, hrow⟩
    simpa [hrow.user] using hne
  names := nodup_map_filter _ h.names
  users := nodup_map_filter _ h.users

/-- Someone gets a new name, which nobody else has, and a new password. -/
theorem enter (h : service.Lists D users) (hcaller : HasCaller caller users)
    (htext : service.HashOf c.password text)
    (hname : ∀ u ∈ users, u.name = c.name → u.id = .value caller) :
    service.Lists (D.enter caller c) (users.map (User.renamed caller c.name text)) where
  entries u' hu' := by
    obtain ⟨u, hu, rfl⟩ := List.mem_map.mp hu'
    by_cases hid : u.id = .value caller
    · refine ⟨_, List.mem_append_right _ (List.mem_singleton_self _), ?_⟩
      rw [User.renamed, if_pos hid]
      exact ⟨rfl, hid, htext⟩
    · rw [User.renamed, if_neg hid]
      obtain ⟨e, he, hrow⟩ := (h.drop caller).entries u
        (List.mem_filter.mpr ⟨hu, decide_eq_true hid⟩)
      exact ⟨e, List.mem_append_left _ he, hrow⟩
  rows e he := by
    rcases List.mem_append.mp he with he | he
    · obtain ⟨u, hu, hrow⟩ := (h.drop caller).rows e he
      obtain ⟨hu, hid⟩ := List.mem_filter.mp hu
      refine ⟨u, List.mem_map.mpr ⟨u, hu, ?_⟩, hrow⟩
      exact if_neg (of_decide_eq_true hid)
    · obtain ⟨u, hu, hid⟩ := hcaller
      refine ⟨_, List.mem_map_of_mem hu, ?_⟩
      rw [List.mem_singleton.mp he, User.renamed, if_pos hid]
      exact ⟨rfl, hid, htext⟩
  names := by
    refine nodup_map_concat (h.drop caller).names fun e he hsame => ?_
    obtain ⟨u, hu, hrow⟩ := (h.drop caller).rows e he
    obtain ⟨hu, hid⟩ := List.mem_filter.mp hu
    exact of_decide_eq_true hid (hname u hu (hrow.name.trans hsame))
  users := by
    refine nodup_map_concat (h.drop caller).users fun e he hsame => ?_
    exact of_decide_eq_true (List.mem_filter.mp he).2 hsame

end Lists

end Service

end AlertService
