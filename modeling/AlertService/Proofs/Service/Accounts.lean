import AlertService.Proofs.Service.Upkeep

/-!
# What becomes of accounts

What signing up, logging in and changing an account do to the users, and all the reasons for which
they may fail. Tokens can always be had where the clock works and there are identifiers left.

* `runs_signUp_orderly`, `runs_modifyUser_orderly`, `runs_deleteUser_orderly`: how users change.
* `runs_logIn_orderly`: who is let in.
* `runs_refresh_orderly`: refreshing leaves users alone.
-/

namespace AlertService

namespace Service

open Handler

variable {service : Service} {n i : Nat} {p : List User → Prop} {w w₀ : World}
  {P : World → Prop} {E : Failure → World → Prop} {now : Instant} {caller user : Uuid}
  {r : Http.Request} {body : Bytes} {users : List User}

/-! ## Credentials -/

/-- The credentials in the body of a request, if these are what it brings. -/
def credentials? (body : Bytes) : Option Credentials :=
  if bodyLimit < body.length then none
  else (Json.parseBody Credentials.shape.read body).toOption

theorem runs_credentials {Q : Credentials → World → Prop}
    (hok : ∀ w c, P w → credentials? body = some c → Q c w)
    (herror : ∀ w m, P w → credentials? body = none → E (.validation m) w) :
    Runs P (Handler.payload Credentials.shape.read body) Q E := by
  intro w hw
  unfold payload
  by_cases hlimit : bodyLimit < body.length
  · rw [if_pos hlimit]
    exact herror w _ hw (if_pos hlimit)
  · rw [if_neg hlimit]
    have hbody : credentials? body = (Json.parseBody Credentials.shape.read body).toOption :=
      if_neg hlimit
    cases hparse : Json.parseBody Credentials.shape.read body with
    | ok c => exact hok w c hw (by rw [hbody, hparse]; rfl)
    | error m => exact herror w m hw (by rw [hbody, hparse]; rfl)

/-- Passwords can be hashed, and hashes are kept as texts that can be read. -/
def HashesReadably (service : Service) : Prop :=
  ∀ i password, ∃ h, PasswordHash.make service.digest (service.salts i) password = some h ∧
    PasswordHash.parse? h.text = some h

/-- The text is that of a hash of the password, and can be read. -/
def HashOf (service : Service) (password text : String) : Prop :=
  ∃ i h, PasswordHash.make service.digest (service.salts i) password = some h ∧
    PasswordHash.parse? text = some h

/-- Every password hash can be read. -/
def Readable (users : List User) : Prop :=
  ∀ u ∈ users, ∃ h, PasswordHash.parse? u.passwordHash = some h

theorem runs_hashPassword_orderly (hhash : service.HashesReadably) {password : String} :
    Runs (fun w => service.Orderly n p w ∧ w.issued = i) (service.hashPassword password)
      (fun text w => (service.Orderly n p w ∧ w.issued = i + 1) ∧ service.HashOf password text)
      E := by
  refine runs_bind (runs_issue (Q := fun _ w => service.Orderly n p w ∧ w.issued = i + 1) ?_)
    fun salt => ?_
  · rintro w ⟨hw, rfl⟩
    exact ⟨hw.issue 1, rfl⟩
  obtain ⟨h, hmake, hparse⟩ := hhash salt password
  refine runs_bind (runs_require (Q := fun x w => (service.Orderly n p w ∧ w.issued = i + 1) ∧
    service.HashOf password x.text) ?_ ?_) fun x => ?_
  · intro w x hw hx
    obtain rfl := Option.some.inj (hmake.symm.trans hx)
    exact ⟨hw, salt, h, hmake, hparse⟩
  · exact fun _ _ hnone => nomatch hnone.symm.trans hmake
  · exact runs_pure fun _ hw => hw

/-! ## Sessions -/

/-- A session of the user has been opened since `w₀`, under the first identifier that was issued. -/
structure Opens (service : Service) (now : Instant) (user session : Uuid) (w₀ w : World) :
    Prop where
  issued : session = service.ids w₀.issued
  later : w₀.issued < w.issued
  row : ∃ expiry, service.tokens.sessionExpiry now = some expiry ∧
    w₀.database.store.createSession now.seconds session user expiry = .ok w.database.store

/-- For a user who exists there is a session and tokens for it. -/
theorem runs_openSession_orderly (hdistinct : service.Distinct n) (hw₀ : service.Orderly n p w₀)
    (huser : w₀.database.store.hasUser user = true) :
    Runs (· = w₀) (service.openSession now user)
      (fun pair w => service.Orderly n p w ∧ ∃ session,
        service.tokens.issuePair now user session = some pair ∧
          service.Opens now user session w₀ w)
      fun _ w => service.Orderly n p w ∧ (now.IsCurrent → n < w.issued) := by
  refine runs_bind (runs_require (Q := fun expiry w => w = w₀ ∧
    service.tokens.sessionExpiry now = some expiry) ?_ ?_) fun expiry => ?_
  · rintro w expiry rfl hexpiry
    exact ⟨rfl, hexpiry⟩
  · rintro w rfl hnone
    exact ⟨hw₀, fun hclock => absurd hnone (hclock.canIssue _).sessionExpiry_ne_none⟩
  refine runs_of_and fun hexpiry => ?_
  refine runs_bind (runs_freshId (Q := fun id w => id = service.ids w₀.issued ∧
    w = { w₀ with issued := w₀.issued + 1 }) ?_) fun session => ?_
  · rintro w rfl
    exact ⟨rfl, rfl⟩
  have hfresh := hw₀.fresh hdistinct
  refine runs_bind (runs_change (Q := fun _ w => service.Orderly n p w ∧
    service.Opens now user session w₀ w) ?_ ?_) fun _ => ?_
  · rintro _ s ⟨rfl, rfl⟩ _ hs
    have hs' : (Operation.createSession now.seconds (service.ids w₀.issued) user expiry).apply
        w₀.database.store = .ok s := hs
    refine ⟨(hw₀.issue 1).callOnRows hs' (by simp [Operation.writes]) (Nat.le_refl _)
      fun j hj hn => ?_, rfl, Nat.lt_succ_self _, expiry, hexpiry, hs⟩
    exact fun hadds => hfresh.apart j hj hn (List.mem_singleton.mp hadds).symm
  · rintro _ e ⟨rfl, rfl⟩ herror
    have hfailed := error_of_call hw₀.sound.poisoned herror
    -- the row was refused although the user is there, so the identifier was taken
    refine ⟨hw₀.issue 1, fun _ => Nat.lt_of_not_le fun hroom => ?_⟩
    obtain ⟨t, ht⟩ := Store.exists_createSession now.seconds expiry huser
      (hfresh.lacks hroom).sessions
    cases (map_eq_error.mp hfailed).symm.trans ht
  · refine runs_require ?_ ?_
    · rintro w pair ⟨hw, hopens⟩ hpair
      exact ⟨hw, session, hpair, hopens⟩
    · rintro w ⟨hw, -⟩ hnone
      exact ⟨hw, fun hclock => absurd hnone ((hclock.canIssue _).issuePair_ne_none _ _)⟩

/-! ## Signing up -/

/-- Someone who signs up when `i` identifiers have been issued; the next one goes into the salt. -/
def newUser (service : Service) (i : Nat) (name hash : String) : User :=
  ⟨.value (service.ids (i + 1)), name, hash⟩

/-- Why signing up may fail, and what is left of it. -/
inductive SignUpFailure (service : Service) (now : Instant) (n i : Nat) (users : List User)
    (body : Bytes) : Failure → World → Prop where
  | unreadable {m : String} {w : World} (hbody : credentials? body = none)
      (hw : service.Orderly n (· = users) w) :
      SignUpFailure service now n i users body (.validation m) w
  | taken {c : Credentials} {w : World} (hbody : credentials? body = some c)
      (htaken : (∃ u ∈ users, u.name = c.name) ∨ n < w.issued)
      (hw : service.Orderly n (· = users) w) :
      SignUpFailure service now n i users body (.conflict "user already exists") w
  | spent {c : Credentials} {text : String} {f : Failure} {w : World}
      (hbody : credentials? body = some c) (htext : service.HashOf c.password text)
      (hspent : now.IsCurrent → n < w.issued)
      (hw : service.Orderly n (· = users ++ [service.newUser i c.name text]) w) :
      SignUpFailure service now n i users body f w

theorem runs_createUser_orderly {name hash : String} :
    Runs (fun w => service.Orderly n (· = users) w ∧ service.Fresh n user w)
      (Handler.change fun s => s.createUser user name hash)
      (fun _ w => service.Orderly n (· = users ++ [⟨.value user, name, hash⟩]) w ∧
        ∀ u ∈ users, u.name ≠ name)
      fun f w => f = .conflict "user already exists" ∧
        ((∃ u ∈ users, u.name = name) ∨ n < w.issued) ∧ service.Orderly n (· = users) w := by
  refine runs_change ?_ ?_
  · rintro w s ⟨hw, hfresh⟩ _ hs
    obtain ⟨hname, -, rfl⟩ := Store.createUser_eq_ok.mp hs
    have husers : w.database.store.users = users := hw.users
    refine ⟨hw.call (.createUser user name hash) hs (by rw [husers]) (Nat.le_refl _)
      fun j hj hn hadds => hfresh.apart j hj hn (List.mem_singleton.mp hadds).symm, ?_⟩
    simpa [husers] using hname
  · rintro w e ⟨hw, hfresh⟩ herror
    have husers : w.database.store.users = users := hw.users
    obtain ⟨rfl, htaken⟩ := Store.createUser_eq_error
      (map_eq_error.mp (error_of_call hw.sound.poisoned herror))
    rw [husers] at htaken
    -- a conflict of identifiers is reported like one of names
    refine ⟨rfl, htaken.imp_right fun hid => Nat.lt_of_not_le fun hroom => ?_, hw⟩
    rw [(hfresh.lacks hroom).users] at hid
    exact nomatch hid

theorem runs_signUp_orderly (users : List User) (hdistinct : service.Distinct n)
    (hhash : service.HashesReadably) :
    Runs (fun w => service.Orderly n (· = users) w ∧ w.issued = i) (service.signUp now body)
      (fun reply w => ∃ c text, credentials? body = some c ∧ service.HashOf c.password text ∧
        (∀ u ∈ users, u.name ≠ c.name) ∧
          service.Orderly n (· = users ++ [service.newUser i c.name text]) w ∧
            ∃ session pair, reply = .value pair.toJson ∧
              service.tokens.issuePair now (service.ids (i + 1)) session = some pair)
      (service.SignUpFailure now n i users body) := by
  refine runs_bind (runs_credentials (Q := fun c w => (service.Orderly n (· = users) w ∧
    w.issued = i) ∧ credentials? body = some c) (fun _ _ hw hbody => ⟨hw, hbody⟩)
    fun _ _ hw hbody => .unreadable hbody hw.1) fun c => ?_
  refine runs_of_and fun hbody => ?_
  refine runs_bind (runs_hashPassword_orderly hhash) fun text => ?_
  refine runs_of_and fun htext => ?_
  refine runs_bind (runs_freshId (Q := fun id w => (service.Orderly n (· = users) w ∧
    service.Fresh n id w) ∧ id = service.ids (i + 1)) ?_) fun user => ?_
  · rintro w ⟨hw, hi⟩
    exact ⟨⟨hw.issue 1, hw.fresh hdistinct⟩, congrArg service.ids hi⟩
  refine runs_of_and fun huser => ?_
  subst huser
  refine runs_bind (runs_createUser_orderly.mono (fun _ hw => hw) (fun _ _ hw => hw) ?_)
    fun _ => ?_
  · rintro f w ⟨rfl, htaken, hw⟩
    exact .taken hbody htaken hw
  refine runs_of_and fun hname => ?_
  rintro w hw
  have huser : w.database.store.hasUser (service.ids (i + 1)) = true := by
    refine Store.hasUser_iff.mpr ⟨service.newUser i c.name text, ?_, rfl⟩
    rw [hw.users]
    exact List.mem_append_right _ (List.mem_singleton_self _)
  refine runs_bind ((runs_openSession_orderly hdistinct hw huser).mono (fun _ hw => hw)
    (fun _ _ hw => hw) fun _ _ hw => .spent hbody htext hw.2 hw.1) (fun pair => ?_) w rfl
  refine runs_pure ?_
  rintro w ⟨hw, session, hpair, -⟩
  exact ⟨c, text, hbody, htext, hname, hw, session, pair, rfl, hpair⟩

/-! ## Changing and deleting an account -/

/-- The user under a new name and with a new password, if it is the caller. -/
def User.renamed (caller : Uuid) (name hash : String) (u : User) : User :=
  if u.id = .value caller then { u with name := name, passwordHash := hash } else u

/-- Why changing an account may fail. -/
inductive RenamingFailure (caller : Uuid) (users : List User) (body : Bytes) : Failure → Prop where
  | unreadable {m : String} (hbody : credentials? body = none) :
      RenamingFailure caller users body (.validation m)
  | taken {c : Credentials} {u : User} (hbody : credentials? body = some c) (hu : u ∈ users)
      (hname : u.name = c.name) (hother : u.id ≠ .value caller) :
      RenamingFailure caller users body (.conflict "user already exists")

theorem runs_modifyUser_orderly (hhash : service.HashesReadably)
    (hcaller : HasCaller caller users) :
    Runs (service.Orderly n (· = users)) (service.modifyUser caller body)
      (fun _ w => ∃ c text, credentials? body = some c ∧ service.HashOf c.password text ∧
        (∀ u ∈ users, u.name = c.name → u.id = .value caller) ∧
          service.Orderly n (· = users.map (User.renamed caller c.name text)) w)
      fun f w => service.Orderly n (· = users) w ∧ RenamingFailure caller users body f := by
  refine runs_bind (runs_credentials (Q := fun c w => service.Orderly n (· = users) w ∧
    credentials? body = some c) (fun _ _ hw hbody => ⟨hw, hbody⟩)
    fun _ _ hw hbody => ⟨hw, .unreadable hbody⟩) fun c => ?_
  refine runs_of_and fun hbody w hw => ?_
  refine runs_bind (runs_hashPassword_orderly hhash) (fun text => ?_) w ⟨hw, rfl⟩
  refine runs_of_and fun htext => ?_
  refine runs_reply (runs_change ?_ ?_)
  · rintro w s ⟨hw, -⟩ _ hs
    obtain ⟨-, hname, rfl⟩ := Store.updateUser_eq_ok.mp hs
    have husers : w.database.store.users = users := hw.users
    refine ⟨c, text, hbody, htext, ?_, hw.call (.updateUser caller c.name text) hs
      (by rw [husers]; rfl) (Nat.le_refl _) fun _ _ _ => List.not_mem_nil⟩
    simpa [husers] using hname
  · rintro w e ⟨hw, -⟩ herror
    have husers : w.database.store.users = users := hw.users
    have hid : w.database.store.hasUser caller = true :=
      Store.hasUser_iff.mpr (husers.symm ▸ hcaller)
    obtain ⟨rfl, u, hu, hname, hother⟩ := Store.updateUser_eq_error hid
      (map_eq_error.mp (error_of_call hw.sound.poisoned herror))
    exact ⟨hw, .taken hbody (husers ▸ hu) hname hother⟩

/-- Someone who is there can go. -/
theorem runs_deleteUser_orderly (hcaller : HasCaller caller users) :
    Runs (service.Orderly n (· = users)) (deleteUser caller)
      (fun _ => service.Orderly n (· = users.filter fun u => u.id ≠ .value caller)) E := by
  refine runs_reply (runs_change ?_ ?_)
  · intro w s hw _ hs
    have husers : w.database.store.users = users := hw.users
    refine hw.call (.deleteUser caller) hs ?_ (Nat.le_refl _) fun _ _ _ => List.not_mem_nil
    obtain ⟨-, rfl⟩ := hw.sound.coherent.deleteUser_eq_ok.mp hs
    show w.database.store.users.filter _ = _
    rw [husers]
    refine List.filter_congr fun u hu => ?_
    obtain ⟨id, hid⟩ := hw.sound.coherent.userKeys u (husers ▸ hu)
    simp [User.hasId, hid]
  · intro w e hw herror
    have hid : w.database.store.hasUser caller = true :=
      Store.hasUser_iff.mpr (hw.users.symm ▸ hcaller)
    have hfailed := map_eq_error.mp (error_of_call hw.sound.poisoned herror)
    simp only [Store.deleteUser, hid] at hfailed
    cases hfailed

/-! ## Logging in and refreshing -/

/-- Why logging in may fail. -/
inductive LogInFailure (service : Service) (now : Instant) (n : Nat) (users : List User)
    (body : Bytes) : Failure → World → Prop where
  | unreadable {m : String} {w : World} (hbody : credentials? body = none) :
      LogInFailure service now n users body (.validation m) w
  | unknown {c : Credentials} {w : World} (hbody : credentials? body = some c)
      (hname : ∀ u ∈ users, u.name ≠ c.name) :
      LogInFailure service now n users body (.missing "user") w
  | refused {c : Credentials} {u : User} {h : PasswordHash} {w : World}
      (hbody : credentials? body = some c) (hu : u ∈ users) (hname : u.name = c.name)
      (hparse : PasswordHash.parse? u.passwordHash = some h)
      (hverify : h.verify service.digest c.password = false) :
      LogInFailure service now n users body .unauthenticated w
  | spent {f : Failure} {w : World} (hspent : now.IsCurrent → n < w.issued) :
      LogInFailure service now n users body f w

/-- Someone has been let in with the name and the password of a user, to a new session. -/
structure LogsIn (service : Service) (now : Instant) (body : Bytes) (w₀ : World) (reply : Reply)
    (w : World) (c : Credentials) (user : Uuid) (hash : String) : Prop where
  body : credentials? body = some c
  row : ⟨.value user, c.name, hash⟩ ∈ w₀.database.store.users
  password : ∃ h, PasswordHash.parse? hash = some h ∧ h.verify service.digest c.password = true
  session : ∃ session pair, reply = .value pair.toJson ∧
    service.tokens.issuePair now user session = some pair ∧ service.Opens now user session w₀ w

theorem runs_verifyPassword {password text : String} {h : PasswordHash}
    (hparse : PasswordHash.parse? text = some h) :
    Runs (· = w₀) (service.verifyPassword password text)
      (fun verified w => w = w₀ ∧ verified = h.verify service.digest password) E := by
  refine runs_bind (runs_require (Q := fun x w => w = w₀ ∧ x = h) ?_ ?_) fun x => ?_
  · exact fun w x hw hx => ⟨hw, Option.some.inj (hx.symm.trans hparse)⟩
  · exact fun _ _ hnone => nomatch hnone.symm.trans hparse
  · refine runs_pure ?_
    rintro w ⟨hw, rfl⟩
    exact ⟨hw, rfl⟩

theorem runs_logIn_orderly (hdistinct : service.Distinct n) (hw₀ : service.Orderly n p w₀)
    (hread : Readable w₀.database.store.users) :
    Runs (· = w₀) (service.logIn now body)
      (fun reply w => service.Orderly n p w ∧ ∃ c user hash,
        service.LogsIn now body w₀ reply w c user hash)
      fun f w => service.Orderly n p w ∧
        service.LogInFailure now n w₀.database.store.users body f w := by
  refine runs_bind (runs_credentials (Q := fun c w => w = w₀ ∧ credentials? body = some c)
    (fun _ _ hw hbody => ⟨hw, hbody⟩) ?_) fun c => ?_
  · rintro _ m rfl hbody
    exact ⟨hw₀, .unreadable hbody⟩
  refine runs_of_and fun hbody => ?_
  have hcases := hw₀.sound.coherent.userByName_cases c.name
  refine runs_bind (runs_store (Q := fun account? w => w = w₀ ∧
    w₀.database.store.userByName c.name = .ok account?) ?_ ?_) fun account? => ?_
  · rintro w account? s rfl _ h
    obtain ⟨_, hfound, he⟩ := map_eq_ok.mp h
    obtain ⟨rfl, rfl⟩ := Prod.mk.inj he
    exact ⟨rfl, hfound⟩
  · rintro w e rfl herror
    have hfailed := map_eq_error.mp (error_of_call hw₀.sound.poisoned herror)
    rcases hcases with ⟨hfound, -⟩ | ⟨user, hash, -, hfound⟩ <;>
      exact nomatch hfailed.symm.trans hfound
  refine runs_of_and fun hfound => ?_
  rcases hcases with ⟨hnone, hname⟩ | ⟨user, hash, hu, hsome⟩
  · obtain rfl := Except.ok.inj (hfound.symm.trans hnone)
    refine runs_throw ?_
    rintro _ rfl
    exact ⟨hw₀, .unknown hbody hname⟩
  · obtain rfl := Except.ok.inj (hfound.symm.trans hsome)
    obtain ⟨h, hparse⟩ := hread _ hu
    refine runs_bind (runs_verifyPassword hparse) fun verified => ?_
    refine runs_of_and fun hverify => ?_
    subst hverify
    cases hverify : h.verify service.digest c.password with
    | false =>
      refine runs_throw ?_
      rintro _ rfl
      exact ⟨hw₀, .refused hbody hu rfl hparse hverify⟩
    | true =>
      have huser : w₀.database.store.hasUser user = true := Store.hasUser_iff.mpr ⟨_, hu, rfl⟩
      refine runs_bind ((runs_openSession_orderly hdistinct hw₀ huser).mono (fun _ hw => hw)
        (fun _ _ hw => hw) fun _ _ hw => ⟨hw.1, .spent hw.2⟩) fun pair => ?_
      refine runs_pure ?_
      rintro w ⟨hw, session, hpair, hopens⟩
      exact ⟨hw, c, user, hash, hbody, hu, ⟨h, hparse, hverify⟩, session, pair, rfl, hpair, hopens⟩

theorem runs_replaceSession_orderly {claims : Claims} {expiry : Int}
    (hdistinct : service.Distinct n) :
    Runs (service.Orderly n p) (service.replaceSession now claims expiry)
      (fun _ => service.Orderly n p) (service.Fails now n p) := by
  refine runs_bind (runs_freshId_orderly hdistinct) fun session => ?_
  refine runs_bind (runs_change_orderly
    (.rotateSession now.seconds claims.session claims.subject session expiry) (fun _ => rfl)
    (by simp [Operation.writes]) (canMake_of_fresh (fun _ _ hlacks => hlacks) fun _ => rfl))
    fun _ => ?_
  exact runs_pure fun _ hw => hw

theorem runs_refresh_orderly (hdistinct : service.Distinct n) :
    Runs (service.Orderly n p) (service.refresh now r) (fun _ => service.Orderly n p)
      (service.Fails now n p) := by
  unfold refresh
  cases service.claims? now r .refresh with
  | none => exact runs_throw fun _ hw => fails_of_ne hw nofun
  | some claims =>
    refine runs_bind (runs_require (Q := fun _ => service.Orderly n p) (fun _ _ hw _ => hw)
      fun w hw hnone => ⟨hw, fun _ hclock => ?_⟩) fun expiry => ?_
    · exact absurd hnone (hclock.canIssue _).sessionExpiry_ne_none
    refine runs_bind (runs_tryCatch (runs_replaceSession_orderly hdistinct) fun failure => ?_)
      fun session => ?_
    · split
      · exact runs_throw fun _ hw => fails_of_ne hw.1 nofun
      · exact runs_throw fun _ hw => hw
    · refine runs_reply (runs_require (fun _ _ hw _ => hw) fun w hw hnone => ⟨hw, ?_⟩)
      exact fun _ hclock => absurd hnone ((hclock.canIssue _).issuePair_ne_none _ _)

end Service

end AlertService
