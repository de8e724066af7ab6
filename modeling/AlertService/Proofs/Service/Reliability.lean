import AlertService.Proofs.Account.Argon2
import AlertService.Proofs.Service.Accounts
import AlertService.Proofs.Service.Authentication
import AlertService.Proofs.Service.Refusal
import Mathlib.Data.List.Induction

/-!
# Requests are answered

Whatever requests have come before, no request is answered with an internal error. Whoever has a
live session is there, so that rows can be added for them; what the service has written it can read;
and tokens can be had at any time of the calendar.

* `runs_answer_orderly`: a request keeps the world in order.
* `Service.Reliable`: what is promised of a request.
* `reliable`: it holds after all requests.
-/

namespace AlertService

/-- The password hash that the call writes. -/
def Operation.hash? : Operation → Option String
  | .createUser _ _ hash => some hash
  | .updateUser _ _ hash => some hash
  | _ => none

namespace Service

open Handler World

variable {service : Service} {n : Nat} {p : List User → Prop} {w : World} {op : Operation}
  {now : Instant} {caller : Uuid} {r : Http.Request} {e : Endpoint} {users : List User}
  {log : List (Instant × Http.Request)}

/-! ## Hashes stay readable -/

theorem readable_append {u : User} (hread : Readable users)
    (hu : ∃ h, PasswordHash.parse? u.passwordHash = some h) : Readable (users ++ [u]) := by
  intro v hv
  rcases List.mem_append.mp hv with hv | hv
  · exact hread v hv
  · rw [List.mem_singleton.mp hv]
    exact hu

theorem readable_renamed {name text : String} (caller : Uuid) (hread : Readable users)
    (htext : ∃ h, PasswordHash.parse? text = some h) :
    Readable (users.map (User.renamed caller name text)) := by
  intro v hv
  obtain ⟨u, hu, rfl⟩ := List.mem_map.mp hv
  unfold User.renamed
  split
  · exact htext
  · exact hread u hu

theorem HashOf.readable {password text : String} (h : service.HashOf password text) :
    ∃ h, PasswordHash.parse? text = some h := by
  obtain ⟨-, h, -, hparse⟩ := h
  exact ⟨h, hparse⟩

/-- The call writes hashes that can be read, and gives none of the first `n` identifiers to a
row. -/
structure Harmless (service : Service) (n : Nat) (op : Operation) : Prop where
  apart : ∀ s, ∀ i < n, service.ids i ∉ op.adds s
  hash : ∀ hash, op.hash? = some hash → ∃ h, PasswordHash.parse? hash = some h

theorem Harmless.tolerates (h : service.Harmless n op) : service.Tolerates n Readable op where
  apart := h.apart
  users s t hs ht hread := by
    by_cases hw : Table.users ∈ op.writes
    · cases op with
      | createUser id name hash =>
        obtain ⟨-, -, rfl⟩ := Store.createUser_eq_ok.mp ht
        exact readable_append hread (h.hash hash rfl)
      | updateUser id name hash =>
        obtain ⟨-, -, rfl⟩ := Store.updateUser_eq_ok.mp ht
        exact readable_renamed id hread (h.hash hash rfl)
      | deleteUser id =>
        obtain ⟨-, rfl⟩ := hs.deleteUser_eq_ok.mp ht
        exact fun u hu => hread u (List.mem_of_mem_filter hu)
      | _ => exact absurd hw (by simp [Operation.writes])
    · have hsame : t.users = s.users := same_of_not_writes hs ht hw
      rwa [hsame]

/-! ## Every endpoint -/

/-- A live session is that of a user. -/
theorem Orderly.hasCaller (hw : service.Orderly n p w)
    (h : service.admitted? .access now w r = some caller) :
    HasCaller caller w.database.store.users := by
  obtain ⟨-, -, -, -, -, x, hx, -, rfl, -⟩ := (admitted?_eq_some hw.sound.typed).mp h
  exact Store.hasUser_iff.mp (hw.sound.coherent.sessionOwners x hx)

theorem runs_authenticate_orderly :
    Runs (service.Orderly n p) (service.authenticate now r)
      (fun caller w => service.Orderly n (fun users => p users ∧ HasCaller caller users) w)
      (service.Fails now n p) := by
  intro w hw
  rw [authenticate_apply hw.sound.poisoned]
  cases hadmitted : service.admitted? .access now w r with
  | none => exact fails_of_ne hw nofun
  | some user => exact hw.mono fun hp => ⟨hp, hw.hasCaller hadmitted⟩

theorem Fails.mono {q : List User → Prop} {f : Failure} (h : service.Fails now n p f w)
    (hq : ∀ users, p users → q users) : service.Fails now n q f w :=
  ⟨h.1.mono (hq _), h.2⟩

theorem runs_signUp_readable {body : Bytes} (hdistinct : service.Distinct n)
    (hhash : service.HashesReadably) :
    Runs (service.Orderly n Readable) (service.signUp now body)
      (fun _ => service.Orderly n Readable) (service.Fails now n Readable) := by
  intro w hw
  have hread := hw.users
  refine (runs_signUp_orderly w.database.store.users hdistinct hhash).mono
    (fun _ hw => hw) ?_ ?_ w ⟨hw.mono fun _ => rfl, rfl⟩
  · rintro _ w' ⟨c, text, -, htext, -, hw', -⟩
    exact hw'.mono fun he => he ▸ readable_append hread htext.readable
  · rintro _ w' (⟨-, hw'⟩ | ⟨-, -, hw'⟩ | ⟨-, htext, hspent, hw'⟩)
    · exact fails_of_ne (hw'.mono fun he => he ▸ hread) nofun
    · exact fails_of_ne (hw'.mono fun he => he ▸ hread) nofun
    · exact ⟨hw'.mono fun he => he ▸ readable_append hread htext.readable,
        fun _ hclock => spent_of_lt (hspent hclock)⟩

theorem runs_logIn_readable {body : Bytes} (hdistinct : service.Distinct n)
    (hread : ∀ users, p users → Readable users) :
    Runs (service.Orderly n p) (service.logIn now body) (fun _ => service.Orderly n p)
      (service.Fails now n p) := by
  intro w hw
  refine (runs_logIn_orderly hdistinct hw (hread _ hw.users)).mono (fun _ hw => hw)
    (fun _ _ hw => hw.1) ?_ w rfl
  rintro _ w' ⟨hw', hfailure⟩
  cases hfailure with
  | unreadable | unknown | refused => exact fails_of_ne hw' nofun
  | spent hspent => exact ⟨hw', fun _ hclock => spent_of_lt (hspent hclock)⟩

theorem runs_modifyUser_readable {body : Bytes} (hhash : service.HashesReadably) :
    Runs (service.Orderly n fun users => Readable users ∧ HasCaller caller users)
      (service.modifyUser caller body) (fun _ => service.Orderly n Readable)
      (service.Fails now n Readable) := by
  intro w hw
  obtain ⟨hread, hcaller⟩ := hw.users
  refine (runs_modifyUser_orderly hhash hcaller).mono (fun _ hw => hw) ?_ ?_ w
    (hw.mono fun _ => rfl)
  · rintro _ w' ⟨c, text, -, htext, -, hw'⟩
    exact hw'.mono fun he => he ▸ readable_renamed caller hread htext.readable
  · rintro _ w' ⟨hw', hfailure⟩
    cases hfailure <;> exact fails_of_ne (hw'.mono fun he => he ▸ hread) nofun

theorem runs_deleteUser_readable :
    Runs (service.Orderly n fun users => Readable users ∧ HasCaller caller users)
      (deleteUser caller) (fun _ => service.Orderly n Readable)
      (service.Fails now n Readable) := by
  intro w hw
  obtain ⟨hread, hcaller⟩ := hw.users
  refine (runs_deleteUser_orderly hcaller).mono (fun _ hw => hw) (fun _ w' hw' => ?_)
    (fun _ _ hw => hw) w (hw.mono fun _ => rfl)
  exact hw'.mono fun he => he ▸ fun u hu => hread u (List.mem_of_mem_filter hu)

/-- What a request leaves behind is in order, and it does not fail for internal reasons as long as
there are identifiers left. What becomes of the users is left to the requests about them. -/
theorem runs_answer_orderly (hdistinct : service.Distinct n)
    (hothers : service.notifier.Calls (service.Tolerates n p))
    (hread : ∀ users, p users → Readable users)
    (hsignUp : e = .anyone .signUp → r.method ∈ e.methods →
      Runs (service.Orderly n p) (service.signUp now r.body) (fun _ => service.Orderly n p)
        (service.Fails now n p))
    (hmodify : ∀ caller, e = .guarded .modifyUser → r.method ∈ e.methods →
      Runs (service.Orderly n fun users => p users ∧ HasCaller caller users)
        (service.modifyUser caller r.body) (fun _ => service.Orderly n p)
        (service.Fails now n p))
    (hdelete : ∀ caller, e = .guarded .deleteUser → r.method ∈ e.methods →
      Runs (service.Orderly n fun users => p users ∧ HasCaller caller users)
        (deleteUser caller) (fun _ => service.Orderly n p) (service.Fails now n p)) :
    Runs (service.Orderly n p) (service.answer now e r) (fun _ => service.Orderly n p)
      (service.Fails now n p) := by
  unfold answer
  by_cases hmethod : r.method ∈ e.methods
  · have hright : (!e.methods.contains r.method) = false := by simpa using hmethod
    rw [hright]
    cases e with
    | anyone e =>
      refine runs_map ?_
      cases e with
      | health => exact runs_pure fun _ hw => hw
      | signUp => exact hsignUp rfl hmethod
      | logIn => exact runs_logIn_readable hdistinct hread
      | refresh => exact runs_refresh_orderly hdistinct
      | botUpdate => exact runs_botUpdate_orderly hothers
    | guarded e =>
      refine runs_bind runs_authenticate_orderly fun caller => runs_map ?_
      by_cases hrows : e ∈ [.deleteUser, .modifyUser, .sendBatch]
      · simp only [List.mem_cons, List.not_mem_nil, or_false] at hrows
        rcases hrows with rfl | rfl | rfl
        · exact hdelete caller rfl hmethod
        · exact hmodify caller rfl hmethod
        · exact (runs_sendBatch_orderly hdistinct hothers).mono (fun _ hw => hw.mono And.left)
            (fun _ _ hw => hw) fun _ _ hw => hw
      · exact (runs_handleGuarded_orderly hdistinct (fun _ h => h.2) hrows).mono
          (fun _ hw => hw) (fun _ _ hw => hw.mono And.left) fun _ _ hw => hw.mono fun _ h => h.1
  · have hwrong : (!e.methods.contains r.method) = true := by simpa using hmethod
    rw [hwrong]
    cases e with
    | anyone e => exact runs_pure fun _ hw => hw
    | guarded e =>
      exact runs_bind runs_authenticate_orderly fun caller =>
        runs_pure fun _ hw => hw.mono And.left

theorem runs_answer_readable (hdistinct : service.Distinct n) (hhash : service.HashesReadably)
    (hothers : service.notifier.Calls (service.Tolerates n Readable)) :
    Runs (service.Orderly n Readable) (service.answer now e r)
      (fun _ => service.Orderly n Readable) (service.Fails now n Readable) :=
  runs_answer_orderly hdistinct hothers (fun _ h => h)
    (fun _ _ => runs_signUp_readable hdistinct hhash)
    (fun _ _ _ => runs_modifyUser_readable hhash) fun _ _ _ => runs_deleteUser_readable

/-! ## All requests -/

theorem eq_internal_of_status {result : Except Failure (Option Reply)}
    (h : (responseOf result).status = 500) : result = .error .internal := by
  rcases result with f | reply
  · cases f with
    | internal => rfl
    | _ => exact nomatch h
  · rcases reply with _ | reply
    · exact absurd h (by decide)
    · rw [status_of_reply] at h
      exact absurd h (by decide)

theorem respond_orderly (hdistinct : service.Distinct n) (hhash : service.HashesReadably)
    (hothers : service.notifier.Calls (service.Tolerates n Readable))
    (hw : service.Orderly n Readable w) :
    service.Orderly n Readable (service.respond now r w).2 ∧
      ((service.respond now r w).1.status = 500 → now.IsCurrent →
        Spent n (service.respond now r w).2) := by
  rcases respond_cases service now r w with ⟨hsame, hstatus⟩ | ⟨e, -, hsame, hstatus⟩
  · rw [hsame]
    refine ⟨hw, fun h => ?_⟩
    rcases hstatus with hs | hs <;> rw [hs] at h <;> exact absurd h (by decide)
  · have hrun := @runs_answer_readable service n now r e hdistinct hhash hothers w hw
    rw [hsame, hstatus]
    generalize service.answer now e r w = result at hrun ⊢
    rcases result with ⟨f | reply, w'⟩
    · refine ⟨hrun.1, fun h => hrun.2 ?_⟩
      exact Except.error.inj (eq_internal_of_status h)
    · refine ⟨hrun, fun h => ?_⟩
      exact nomatch eq_internal_of_status h

theorem orderly_after (hdistinct : service.Distinct n) (hhash : service.HashesReadably)
    (hothers : service.notifier.Calls (service.Tolerates n Readable))
    (log : List (Instant × Http.Request)) : service.Orderly n Readable (service.after log) := by
  induction log using List.reverseRecOn with
  | nil => exact orderly_fresh fun _ h => absurd h List.not_mem_nil
  | append_singleton log x ih =>
    rw [after_concat]
    exact (respond_orderly hdistinct hhash hothers ih).1

/-- What a service promises of a request at a time, in a world. -/
structure Reliable (service : Service) (n : Nat) (now : Instant) (r : Http.Request) (w : World) :
    Prop where
  /-- It is not answered with an internal error. -/
  answers : (service.respond now r w).1.status ≠ 500
  /-- The caller that it authenticates is one of the users. -/
  callers : ∀ caller, (service.authenticate now r w).1 = .ok caller →
    w.database.store.hasUser caller = true
  /-- So drafts and batches of the caller always refer to a user. -/
  inserts : ∀ caller, (service.authenticate now r w).1 = .ok caller → ∀ id,
    (∀ k fields, w.database.store.insertDraft k id caller fields ≠ .error (.engine .foreignKey)) ∧
      w.database.store.createBatch id caller ≠ .error (.engine .foreignKey)
  /-- Nor is a caller ever told that there is no such user. -/
  accounts : r.IsFor (.guarded .modifyUser) ∨ r.IsFor (.guarded .deleteUser) →
    (service.respond now r w).1.status ≠ 404
  /-- A session can be opened for every user, under any identifier still to be issued. -/
  sessions : ∀ i user expiry, w.issued ≤ i → i < n → w.database.store.hasUser user = true →
    ∃ t, w.database.store.createSession now.seconds (service.ids i) user expiry = .ok t
  /-- So can it for a user who has just been added. -/
  firstSessions : ∀ i user name hash s expiry, w.issued ≤ i → i < n →
    w.database.store.createUser user name hash = .ok s →
      ∃ t, s.createSession now.seconds (service.ids i) user expiry = .ok t
  /-- Users have identifiers and password hashes that can be read. -/
  users : ∀ u ∈ w.database.store.users,
    (∃ id, Store.readKey 0 "user_id" u.id = .ok id) ∧
      ∃ h, PasswordHash.parse? u.passwordHash = some h
  /-- So can the fields of drafts be read. -/
  drafts : ∀ k, ∀ d ∈ w.database.store.drafts.get k, Store.draftFields k d = .ok d.fields
  /-- So can notifications, and their channels are known. -/
  notifications : ∀ m ∈ w.database.store.notifications, ∃ record j,
    Store.readNotification m = .ok record ∧ record.toJson? = some j
  /-- Sessions can be given an expiry, and tokens can be signed. -/
  tokens : service.tokens.sessionExpiry now ≠ none ∧
    ∀ user session, service.tokens.issuePair now user session ≠ none

theorem insert_ne_foreignKey {s : Store} (huser : s.hasUser caller = true) (id : Uuid) :
    (∀ k fields, s.insertDraft k id caller fields ≠ .error (.engine .foreignKey)) ∧
      s.createBatch id caller ≠ .error (.engine .foreignKey) := by
  constructor
  · intro k fields
    unfold Store.insertDraft
    rw [huser]
    cases (s.draft? k id).isSome <;> exact nofun
  · unfold Store.createBatch
    rw [huser]
    cases s.batches.any fun b => b.id = id <;> exact nofun

/-- An endpoint that finds whatever it looks for on behalf of a user is never without its row. -/
theorem status_ne_missing {e : GuardedEndpoint} (hr : r.IsFor (.guarded e))
    (hw : service.Orderly n p w)
    (hrun : ∀ caller, HasCaller caller w.database.store.users →
      Runs (· = w) (service.handleGuarded now e caller r) (fun _ _ => True)
        fun f _ => f.status ≠ 404) :
    (service.respond now r w).1.status ≠ 404 := by
  cases hadmitted : service.admitted? .access now w r with
  | none =>
    rw [respond_not_admitted hw.sound.poisoned hr hadmitted, Http.Response.status_sent]
    decide
  | some caller =>
    rw [respond_admitted hw.sound.poisoned hr hadmitted, Http.Response.status_sent]
    have hfailure := hrun caller (hw.hasCaller hadmitted) w rfl
    generalize service.handleGuarded now e caller r w = result at hfailure ⊢
    rcases result with ⟨f | reply, w'⟩
    · exact hfailure
    · exact fun h => absurd ((status_of_reply reply).symm.trans h) (by decide)

/-- Whatever requests have come before and whatever the notifier does, a request is answered as
promised. The clock shows a time of the years 1970 to 9999, passwords can be hashed, and there are
identifiers left, as others do not use those of the service. -/
theorem reliable (log : List (Instant × Http.Request)) (r : Http.Request)
    (hclock : now.IsCurrent) (hhash : service.HashesReadably) (hdistinct : service.Distinct n)
    (hothers : service.notifier.Calls (service.Harmless n))
    (hroom : ¬Spent n (service.respond now r (service.after log)).2) :
    service.Reliable n now r (service.after log) := by
  have htolerates : service.notifier.Calls (service.Tolerates n Readable) := by
    intro before m f hf d hd
    obtain ⟨ops, hdb, hops⟩ := hothers before m f hf d hd
    exact ⟨ops, hdb, fun op hop => (hops op hop).tolerates⟩
  have hw := orderly_after hdistinct hhash htolerates log
  have hcallers : ∀ caller, (service.authenticate now r (service.after log)).1 = .ok caller →
      (service.after log).database.store.hasUser caller = true := by
    intro caller hcaller
    rw [authenticate_apply hw.sound.poisoned] at hcaller
    cases hadmitted : service.admitted? .access now (service.after log) r with
    | none =>
      rw [hadmitted] at hcaller
      exact nomatch hcaller
    | some user =>
      rw [hadmitted] at hcaller
      obtain rfl := Except.ok.inj hcaller
      exact Store.hasUser_iff.mpr (hw.hasCaller hadmitted)
  constructor
  case answers =>
    exact fun h => hroom ((respond_orderly hdistinct hhash htolerates hw).2 h hclock)
  case callers => exact hcallers
  case inserts => exact fun caller hcaller id => insert_ne_foreignKey (hcallers caller hcaller) id
  case accounts =>
    rintro (hr | hr)
    · refine status_ne_missing hr hw fun caller hcaller => ?_
      refine (runs_modifyUser_orderly (n := n) hhash hcaller).mono ?_ (fun _ _ _ => trivial) ?_
      · rintro _ rfl
        exact hw.mono fun _ => rfl
      · rintro f _ ⟨-, hfailure⟩
        cases hfailure <;> exact fun h => nomatch h
    · refine status_ne_missing hr hw fun caller hcaller => ?_
      refine Runs.mono (P := service.Orderly n (· = (service.after log).database.store.users))
        (runs_deleteUser_orderly hcaller) ?_ (fun _ _ _ => trivial) fun _ _ hf => hf
      rintro _ rfl
      exact hw.mono fun _ => rfl
  case sessions =>
    intro i user expiry hi hn huser
    exact Store.exists_createSession _ _ huser (hw.unissued i hi hn).sessions
  case firstSessions =>
    intro i user name hash s expiry hi hn hs
    obtain ⟨-, -, rfl⟩ := Store.createUser_eq_ok.mp hs
    have huser : ({ (service.after log).database.store with
        users := (service.after log).database.store.users ++ [⟨.value user, name, hash⟩] } :
          Store).hasUser user = true :=
      Store.hasUser_iff.mpr ⟨_, List.mem_append_right _ (List.mem_singleton_self _), rfl⟩
    exact Store.exists_createSession _ _ huser (hw.unissued i hi hn).sessions
  case users =>
    intro u hu
    obtain ⟨id, hid⟩ := hw.sound.coherent.userKeys u hu
    exact ⟨⟨id, by rw [hid]; rfl⟩, hw.users u hu⟩
  case drafts => exact fun k d hd => hw.legible.draftFields hd
  case notifications =>
    intro m hm
    obtain ⟨j, hj⟩ := exists_toJson? hw.legible hm
    exact ⟨m.record, j, hw.sound.typed.readNotification hm, hj⟩
  case tokens =>
    exact ⟨(hclock.canIssue _).sessionExpiry_ne_none,
      fun user session => (hclock.canIssue _).issuePair_ne_none user session⟩

/-! ## A service -/

theorem hashesReadably_solitary : solitary.HashesReadably := by
  intro i password
  have hsalt : (solitary.salts i).length = 16 := List.length_replicate
  have hhashes : PasswordHash.Hashes solitary.digest (solitary.salts i) :=
    PasswordHash.hashes_argon2 (by omega)
  obtain ⟨h, hmake⟩ := PasswordHash.exists_make hhashes password
  exact ⟨h, hmake, PasswordHash.parse?_make (by omega) hhashes hmake⟩

theorem distinct_solitary : solitary.Distinct 16 :=
  fun _ _ => ids_solitary_ne

/-- A recipient is drafted by someone who has signed up. -/
theorem reliable_of_create :
    let signUp : Http.Request := ⟨"POST", ⟨"/user/create", none⟩, [],
      Utf8.encode "\x7b\"name\":\"anna\",\"password\":\"secret\"\x7d"⟩
    let claims : Claims := ⟨.uniform 1, .uniform 2, .access, 0, 900⟩
    let create : Http.Request := ⟨"POST", ⟨"/recipients/create", none⟩, [("authorization",
      Http.headerBytes ("Bearer " ++ Token.ofPayload "secret" claims.toJson.text))],
      Utf8.encode "\x7b\"name\":\"bo\",\"telegram_id\":7\x7d"⟩
    let w := solitary.after [(.ofSeconds 0, signUp)]
    (solitary.authenticate (.ofSeconds 1) create w).1 = .ok (.uniform 1) ∧
      (solitary.respond (.ofSeconds 1) create w).2.database.store.drafts.get .recipient =
        [⟨⟨.uniform 3, .uniform 1, "bo", none, none, some 7⟩, none⟩] ∧
      solitary.Reliable 16 (.ofSeconds 1) create w := by
  intro signUp claims create w
  have hclock : (Instant.ofSeconds 1).IsCurrent := ⟨by decide, by decide⟩
  have hnow : (Instant.ofSeconds 1).seconds ≤ claims.expiresAt.toNat := by decide
  have hsession : ⟨.uniform 2, .uniform 1, .value (some 604800)⟩ ∈ w.database.store.sessions := by
    decide +kernel
  have hadmits : solitary.Admits .access (.ofSeconds 1) w create (.uniform 1) :=
    admits_ofPayload claims rfl hnow (by decide) hsession
  have hcalls : solitary.notifier.Calls (solitary.Harmless 16) := fun _ _ _ h => nomatch h
  have hsound : w.database.Sound := sound_after hcalls _
  have hcaller : solitary.admitted? .access (.ofSeconds 1) w create = some (.uniform 1) :=
    (admitted?_eq_some hsound.typed).mpr hadmits
  have hfor : create.IsFor (.guarded (.create .recipient)) := ⟨rfl, by decide⟩
  have hresponse : (solitary.respond (.ofSeconds 1) create w).2 =
      (solitary.handleGuarded (.ofSeconds 1) (.create .recipient) (.uniform 1) create w).2 := by
    rw [respond_admitted hsound.poisoned hfor hcaller]
  have hroom : ¬Spent 16 (solitary.respond (.ofSeconds 1) create w).2 := by
    have hissued : (solitary.handleGuarded (.ofSeconds 1) (.create .recipient) (.uniform 1)
        create w).2.issued = 4 := by
      decide +kernel
    have hgroups : (solitary.handleGuarded (.ofSeconds 1) (.create .recipient) (.uniform 1)
        create w).2.database.store.entities.get .group = [] := by
      decide +kernel
    rw [hresponse]
    rintro ⟨user, hspent⟩
    rw [hissued, Store.targets, Store.listEntities, hgroups] at hspent
    exact absurd (show 16 < 4 from hspent) (by decide)
  refine ⟨?_, ?_, reliable _ create hclock hashesReadably_solitary distinct_solitary hcalls hroom⟩
  · rw [authenticate_apply hsound.poisoned, hcaller]
  · rw [hresponse]
    decide +kernel

end Service

end AlertService
