import AlertService.Proofs.Service.Directory

/-!
# Signing up, logging in and changing an account

Whatever requests have come before, the users are those of the directory, and requests about
accounts are answered as it says.

* `respond_signUp`, `respond_modifyUser`, `respond_deleteUser`, `respond_logIn`: the requests about
  accounts.
* `respond_lists`: every request changes users and directory alike.
* `Service.KeepsDirectory`: what is promised of a request.
* `keepsDirectory`: it holds after all requests.
-/

namespace AlertService

namespace Service

open Handler World

variable {service : Service} {n : Nat} {D : Directory} {w : World} {op : Operation}
  {now : Instant} {r : Http.Request} {c : Credentials} {log : List (Instant × Http.Request)}
  {e : Entry}

/-! ## Requests about accounts -/

/-- The request is answered with a pair of tokens, both for the user and the session. -/
def Welcomes (service : Service) (now : Instant) (r : Http.Request) (w : World)
    (user session : Uuid) : Prop :=
  ∃ pair : TokenPair, service.tokens.issuePair now user session = some pair ∧
    (service.respond now r w).1 = (Http.Response.make 200 (some pair.toJson)).sent r.method

/-- Signing up is refused where the name is in the directory, and enters it otherwise. -/
theorem respond_signUp (hdistinct : service.Distinct n) (hhash : service.HashesReadably)
    (hclock : now.IsCurrent) (hr : r.IsFor (.anyone .signUp))
    (hw : service.Orderly n (service.Lists D) w)
    (hroom : (service.respond now r w).2.issued ≤ n) :
    service.Orderly n (service.Lists (service.record now r w D)) (service.respond now r w).2 ∧
      ∀ c, credentials? r.body = some c →
        match D.get? c.name with
        | some _ => (service.respond now r w).1.status = 409
        | none => ∃ session, service.Welcomes now r w (service.ids (w.issued + 1)) session := by
  have hlists := hw.users
  have hrun := @runs_signUp_orderly service n w.issued now r.body w.database.store.users hdistinct
    hhash w ⟨hw.mono fun _ => rfl, rfl⟩
  unfold Welcomes
  rw [record_signUp hr]
  rw [respond_anyone service now hr] at hroom ⊢
  simp only [handleOpen, Http.Response.status_sent] at hroom ⊢
  generalize service.signUp now r.body w = result at hrun hroom ⊢
  rcases result with ⟨f | reply, w'⟩
  · cases hrun with
    | unreadable hbody hw' =>
      refine ⟨hw'.mono fun he => he ▸ hlists, fun c hc => ?_⟩
      cases hbody.symm.trans hc
    | @taken c _ hbody htaken hw' =>
      refine ⟨hw'.mono fun he => he ▸ hlists, fun c' hc' => ?_⟩
      obtain rfl := Option.some.inj (hbody.symm.trans hc')
      -- with identifiers left, it must be the name that is taken
      obtain ⟨u, hu, hname⟩ := htaken.resolve_right (Nat.not_lt_of_le hroom)
      obtain ⟨e, hget, -⟩ := hlists.exists_get? hu hname
      rw [hget]
      rfl
    | spent hbody htext hspent hw' => exact absurd hroom (Nat.not_le_of_lt (hspent hclock))
  · obtain ⟨c, text, hbody, htext, hname, hw', session, pair, rfl, hpair⟩ := hrun
    have hstatus : (responseOf (Except.map some (.ok (.value pair.toJson)))).status = 200 := rfl
    rw [if_neg (not_not_intro hstatus)]
    simp only [hbody]
    -- afterwards all users have different identifiers, the new one among them
    have huser : ∀ u ∈ w.database.store.users, u.id ≠ .value (service.ids (w.issued + 1)) := by
      have hids := hw'.sound.coherent.userIds
      rw [hw'.users, List.map_append, List.nodup_append] at hids
      exact fun u hu => hids.2.2 _ (List.mem_map_of_mem hu) _ (List.mem_singleton_self _)
    refine ⟨hw'.mono fun he => he ▸ hlists.append htext hname huser, fun c' hc' => ?_⟩
    obtain rfl := Option.some.inj hc'
    rw [hlists.get?_eq_none.mpr hname]
    exact ⟨session, pair, hpair, rfl⟩

/-- Changing an account is refused where the name is someone else's, and gives the caller a new
entry otherwise. -/
theorem respond_modifyUser (hhash : service.HashesReadably)
    (hr : r.IsFor (.guarded .modifyUser)) (hw : service.Orderly n (service.Lists D) w) :
    service.Orderly n (service.Lists (service.record now r w D)) (service.respond now r w).2 ∧
      ∀ c caller, credentials? r.body = some c →
        (service.authenticate now r w).1 = .ok caller →
          match D.get? c.name with
          | some e => (service.respond now r w).1.status = if e.user = caller then 200 else 409
          | none => (service.respond now r w).1.status = 200 := by
  have hlists := hw.users
  rw [record_modifyUser hr, authenticate_apply hw.sound.poisoned]
  cases hadmitted : service.admitted? .access now w r with
  | none =>
    rw [respond_not_admitted hw.sound.poisoned hr hadmitted]
    refine ⟨?_, fun _ _ _ h => nomatch h⟩
    rw [if_pos (by rw [Http.Response.status_sent]; decide)]
    exact hw
  | some caller =>
    rw [respond_admitted hw.sound.poisoned hr hadmitted]
    have hcaller := hw.hasCaller hadmitted
    have hrun := @runs_modifyUser_orderly service n caller r.body _ hhash hcaller w
      (hw.mono fun _ => rfl)
    simp only [handleGuarded, Http.Response.status_sent]
    generalize service.modifyUser caller r.body w = result at hrun ⊢
    rcases result with ⟨f | reply, w'⟩
    · obtain ⟨hw', hfailure⟩ := hrun
      cases hfailure with
      | unreadable hbody =>
        refine ⟨?_, fun c _ hc => nomatch hbody.symm.trans hc⟩
        exact hw'.mono fun he => he ▸ hlists
      | @taken c u hbody hu hname hid =>
        refine ⟨hw'.mono fun he => he ▸ hlists, fun c' caller' hc' hcaller' => ?_⟩
        obtain rfl := Option.some.inj (hbody.symm.trans hc')
        obtain rfl := Except.ok.inj hcaller'
        obtain ⟨e, hget, hne⟩ := hlists.exists_other hu hname hid
        rw [hget]
        exact (if_neg hne).symm
    · obtain ⟨c, text, hbody, htext, hname, hw'⟩ := hrun
      have hstatus : (responseOf (Except.map some (.ok reply))).status = 200 :=
        status_of_reply reply
      rw [if_neg (not_not_intro hstatus)]
      simp only [hbody]
      refine ⟨hw'.mono fun he => he ▸ hlists.enter hcaller htext hname,
        fun c' caller' hc' hcaller' => ?_⟩
      obtain rfl := Option.some.inj hc'
      obtain rfl := Except.ok.inj hcaller'
      cases hget : D.get? c.name with
      | none => exact hstatus
      | some e =>
        have huser : e.user = caller := hlists.user_of_get? hget hname
        exact hstatus.trans (if_pos huser).symm

theorem respond_deleteUser (hr : r.IsFor (.guarded .deleteUser))
    (hw : service.Orderly n (service.Lists D) w) :
    service.Orderly n (service.Lists (service.record now r w D)) (service.respond now r w).2 := by
  have hlists := hw.users
  rw [record_deleteUser hr, authenticate_apply hw.sound.poisoned]
  cases hadmitted : service.admitted? .access now w r with
  | none =>
    rw [respond_not_admitted hw.sound.poisoned hr hadmitted]
    rw [if_pos (by rw [Http.Response.status_sent]; decide)]
    exact hw
  | some caller =>
    rw [respond_admitted hw.sound.poisoned hr hadmitted]
    have hrun := @runs_deleteUser_orderly service n (fun _ _ => False) caller _
      (hw.hasCaller hadmitted) w (hw.mono fun _ => rfl)
    simp only [handleGuarded, Http.Response.status_sent]
    generalize deleteUser caller w = result at hrun ⊢
    rcases result with ⟨f | reply, w'⟩
    · exact hrun.elim
    · have hstatus : (responseOf (Except.map some (.ok reply))).status = 200 :=
        status_of_reply reply
      rw [if_neg (not_not_intro hstatus)]
      exact hrun.mono fun he => he ▸ hlists.drop caller

/-- There is one new session, which is the user's and has an identifier that was not issued
before. None of the others is new. -/
structure StartsSession (service : Service) (user session : Uuid) (w w' : World) : Prop where
  issued : service.Issued w w' session
  unused : ∀ x ∈ w.database.store.sessions, x.id ≠ session
  sessions : ∃ kept expiry, List.Sublist kept w.database.store.sessions ∧
    w'.database.store.sessions = kept ++ [⟨session, user, .value (some expiry)⟩]

theorem Opens.startsSession {session : Uuid} {w' : World} {p : List User → Prop}
    (h : service.Opens now user session w w') (hw : service.Orderly n p w)
    (hroom : w'.issued ≤ n) : service.StartsSession user session w w' where
  issued := ⟨w.issued, Nat.le_refl _, h.later, h.issued⟩
  unused := by
    rw [h.issued]
    exact (hw.unissued w.issued (Nat.le_refl _) (Nat.lt_of_lt_of_le h.later hroom)).sessions
  sessions := by
    obtain ⟨expiry, -, hs⟩ := h.row
    obtain ⟨-, -, hs⟩ := Store.insertSession_eq_ok.mp (Store.createSession_eq_ok.mp hs)
    exact ⟨_, expiry, List.filter_sublist, by rw [hs]; rfl⟩

/-- The hash of one of the passwords accepts that one and no other of them. -/
def Discerns (service : Service) (passwords : List String) : Prop :=
  ∀ i, ∀ p ∈ passwords, ∀ q ∈ passwords, ∀ h,
    PasswordHash.make service.digest (service.salts i) p = some h →
      (h.verify service.digest q = true ↔ q = p)

theorem Discerns.verify_iff {ps : List String} {p q text : String} {h : PasswordHash}
    (hdiscerns : service.Discerns ps) (hp : p ∈ ps) (hq : q ∈ ps) (htext : service.HashOf p text)
    (hparse : PasswordHash.parse? text = some h) : h.verify service.digest q = true ↔ q = p := by
  obtain ⟨i, h', hmake, hparse'⟩ := htext
  obtain rfl := Option.some.inj (hparse'.symm.trans hparse)
  exact hdiscerns i p hp q hq _ hmake

/-- Logging in takes a name of the directory with its password, and opens one session. -/
theorem respond_logIn {ps : List String} (hdistinct : service.Distinct n)
    (hclock : now.IsCurrent) (hr : r.IsFor (.anyone .logIn))
    (hw : service.Orderly n (service.Lists D) w) (hroom : (service.respond now r w).2.issued ≤ n)
    (hdiscerns : service.Discerns ps) (hps : ∀ e ∈ D, e.password ∈ ps)
    (hbody : credentials? r.body = some c) (hc : c.password ∈ ps) :
    match D.get? c.name with
    | none => (service.respond now r w).1.status = 404
    | some e =>
      if e.password = c.password then
        ∃ session, service.Welcomes now r w e.user session ∧
          service.StartsSession e.user session w (service.respond now r w).2
      else (service.respond now r w).1.status = 401 := by
  have hlists := hw.users
  have hrun := @runs_logIn_orderly service n _ w now r.body hdistinct hw hlists.readable w rfl
  unfold Welcomes
  rw [respond_anyone service now hr] at hroom ⊢
  simp only [handleOpen, Http.Response.status_sent] at hroom ⊢
  generalize service.logIn now r.body w = result at hrun hroom ⊢
  rcases result with ⟨f | reply, w'⟩
  · obtain ⟨-, hfailure⟩ := hrun
    cases hfailure with
    | unreadable hnone => cases hnone.symm.trans hbody
    | unknown hbody' hname =>
      obtain rfl := Option.some.inj (hbody.symm.trans hbody')
      rw [hlists.get?_eq_none.mpr hname]
      rfl
    | refused hbody' hu hname hparse hrefused =>
      obtain rfl := Option.some.inj (hbody.symm.trans hbody')
      obtain ⟨e, hget, hrow⟩ := hlists.exists_get? hu hname
      have hverify := hdiscerns.verify_iff (hps e (hlists.get?_eq_some.mp hget).1) hc
        hrow.password hparse
      have hne : e.password ≠ c.password := by
        intro hsame
        cases hrefused.symm.trans (hverify.mpr hsame.symm)
      rw [hget]
      show if e.password = c.password then _ else _
      rw [if_neg hne]
      rfl
    | spent hspent => exact absurd hroom (Nat.not_le_of_lt (hspent hclock))
  · obtain ⟨-, c', user, hash, hlogin⟩ := hrun
    obtain rfl := Option.some.inj (hbody.symm.trans hlogin.body)
    obtain ⟨e, hget, hrow⟩ := hlists.exists_get? hlogin.row rfl
    obtain ⟨h, hparse, hverified⟩ := hlogin.password
    obtain ⟨session, pair, rfl, hpair, hopens⟩ := hlogin.session
    obtain rfl : user = e.user := Stored.value.inj hrow.user
    have hsame := (hdiscerns.verify_iff (hps e (hlists.get?_eq_some.mp hget).1) hc
      hrow.password hparse).mp hverified
    rw [hget]
    show if e.password = c.password then _ else _
    rw [if_pos hsame.symm]
    exact ⟨session, ⟨pair, hpair, rfl⟩, hopens.startsSession hw hroom⟩

/-! ## All requests -/

/-- The call leaves users alone, and gives none of the first `n` identifiers to a row. -/
structure Aloof (service : Service) (n : Nat) (op : Operation) : Prop where
  apart : ∀ s, ∀ i < n, service.ids i ∉ op.adds s
  writes : Table.users ∉ op.writes

theorem Aloof.tolerates (h : service.Aloof n op) (p : List User → Prop) :
    service.Tolerates n p op where
  apart := h.apart
  users s t hs ht hp := by
    have hsame : t.users = s.users := same_of_not_writes hs ht h.writes
    rwa [hsame]

theorem calls_tolerates (hothers : service.notifier.Calls (service.Aloof n))
    (p : List User → Prop) : service.notifier.Calls (service.Tolerates n p) := by
  intro before m f hf d hd
  obtain ⟨ops, hdb, hops⟩ := hothers before m f hf d hd
  exact ⟨ops, hdb, fun op hop => (hops op hop).tolerates p⟩

/-- All other requests leave users alone, and the directory as well. -/
theorem respond_others (hdistinct : service.Distinct n)
    (hothers : service.notifier.Calls (service.Aloof n))
    (hw : service.Orderly n (service.Lists D) w) (hsignUp : ¬r.IsFor (.anyone .signUp))
    (hmodify : ¬r.IsFor (.guarded .modifyUser)) (hdelete : ¬r.IsFor (.guarded .deleteUser)) :
    service.Orderly n (service.Lists (service.record now r w D)) (service.respond now r w).2 := by
  rw [record_others hsignUp hmodify hdelete]
  rcases respond_cases service now r w with ⟨hsame, -⟩ | ⟨e, he, hsame, -⟩
  · rw [hsame]
    exact hw
  · rw [hsame]
    have hpath := (Endpoint.path_of_ofPath? he).symm
    have hrun := @runs_answer_orderly service n (service.Lists D) now r e hdistinct
      (calls_tolerates hothers _) (fun _ h => h.readable) ?_ ?_ ?_
    · exact (hrun.mono (fun _ hw => hw) (fun _ _ hw => hw) fun _ _ hw => hw.1).snd hw
    · rintro rfl hmethod
      exact absurd ⟨hpath, hmethod⟩ hsignUp
    · rintro caller rfl hmethod
      exact absurd ⟨hpath, hmethod⟩ hmodify
    · rintro caller rfl hmethod
      exact absurd ⟨hpath, hmethod⟩ hdelete

/-- Every request keeps the directory that of the users. -/
theorem respond_lists (hdistinct : service.Distinct n) (hhash : service.HashesReadably)
    (hothers : service.notifier.Calls (service.Aloof n)) (hclock : now.IsCurrent)
    (hw : service.Orderly n (service.Lists D) w)
    (hroom : (service.respond now r w).2.issued ≤ n) :
    service.Orderly n (service.Lists (service.record now r w D)) (service.respond now r w).2 := by
  by_cases hsignUp : r.IsFor (.anyone .signUp)
  · exact (respond_signUp hdistinct hhash hclock hsignUp hw hroom).1
  by_cases hmodify : r.IsFor (.guarded .modifyUser)
  · exact (respond_modifyUser hhash hmodify hw).1
  by_cases hdelete : r.IsFor (.guarded .deleteUser)
  · exact respond_deleteUser hdelete hw
  · exact respond_others hdistinct hothers hw hsignUp hmodify hdelete

theorem issued_le_respond (hothers : service.notifier.Calls (service.Aloof n)) :
    w.issued ≤ (service.respond now r w).2.issued :=
  (respond_leads hothers).issued

theorem lists_after (hdistinct : service.Distinct n) (hhash : service.HashesReadably)
    (hothers : service.notifier.Calls (service.Aloof n))
    (hclock : ∀ x ∈ log, x.1.IsCurrent) (hroom : (service.after log).issued ≤ n) :
    service.Orderly n (service.Lists (service.directory log)) (service.after log) := by
  induction log using List.reverseRecOn with
  | nil => exact orderly_fresh lists_nil
  | append_singleton log x ih =>
    rw [after_concat] at hroom ⊢
    rw [directory_concat]
    have hearlier := ih (fun y hy => hclock y (List.mem_append_left _ hy))
      (Nat.le_trans (issued_le_respond hothers) hroom)
    exact respond_lists hdistinct hhash hothers
      (hclock x (List.mem_append_right _ (List.mem_singleton_self _))) hearlier hroom
/-- What is promised of a request at a time, in a world with a directory. -/
structure KeepsDirectory (service : Service) (now : Instant) (r : Http.Request) (w : World)
    (D : Directory) : Prop where
  /-- No two users have one name. -/
  names : (D.map Entry.name).Nodup
  /-- No user has two names. -/
  users : (D.map Entry.user).Nodup
  /-- A name can be had by signing up unless it is in the directory. -/
  signUp : ∀ c, r.IsFor (.anyone .signUp) → credentials? r.body = some c →
    match D.get? c.name with
    | some _ => (service.respond now r w).1.status = 409
    | none => ∃ session, service.Welcomes now r w (service.ids (w.issued + 1)) session
  /-- A caller can have a name unless it is someone else's. -/
  modifyUser : ∀ c caller, r.IsFor (.guarded .modifyUser) → credentials? r.body = some c →
    (service.authenticate now r w).1 = .ok caller →
      match D.get? c.name with
      | some e => (service.respond now r w).1.status = if e.user = caller then 200 else 409
      | none => (service.respond now r w).1.status = 200
  /-- Whoever has a name is let in with its password, to one new session. -/
  logIn : ∀ c, r.IsFor (.anyone .logIn) → credentials? r.body = some c →
    match D.get? c.name with
    | none => (service.respond now r w).1.status = 404
    | some e =>
      if e.password = c.password then
        ∃ session, service.Welcomes now r w e.user session ∧
          service.StartsSession e.user session w (service.respond now r w).2
      else (service.respond now r w).1.status = 401
  /-- A name that a user gives up is nobody's. -/
  frees : ∀ e ∈ D, (service.authenticate now r w).1 = .ok e.user →
    (service.respond now r w).1.status = 200 →
      (r.IsFor (.guarded .deleteUser) ∨ r.IsFor (.guarded .modifyUser) ∧
        ∃ c, credentials? r.body = some c ∧ c.name ≠ e.name) →
          (service.record now r w D).get? e.name = none
/-- Whatever requests have come before, a request about accounts is answered as the directory says.
Clocks show times of the years 1970 to 9999, hashes tell the passwords apart that requests bring,
and there are identifiers left. Others leave users alone while messages are on their way. -/
theorem keepsDirectory (log : List (Instant × Http.Request)) (r : Http.Request)
    (hclock : ∀ x ∈ log ++ [(now, r)], x.1.IsCurrent) (hhash : service.HashesReadably)
    (hdiscerns : service.Discerns (passwords (log ++ [(now, r)])))
    (hdistinct : service.Distinct n) (hothers : service.notifier.Calls (service.Aloof n))
    (hroom : (service.respond now r (service.after log)).2.issued ≤ n) :
    service.KeepsDirectory now r (service.after log) (service.directory log) := by
  have hlast : (now, r) ∈ log ++ [(now, r)] := List.mem_append_right _ (List.mem_singleton_self _)
  have hw := lists_after hdistinct hhash hothers
    (fun x hx => hclock x (List.mem_append_left _ hx))
    (Nat.le_trans (issued_le_respond hothers) hroom)
  constructor
  case names => exact hw.users.names
  case users => exact hw.users.users
  case signUp =>
    intro c hr hbody
    exact (respond_signUp hdistinct hhash (hclock _ hlast) hr hw hroom).2 c hbody
  case modifyUser =>
    intro c caller hr hbody hcaller
    exact (respond_modifyUser hhash hr hw).2 c caller hbody hcaller
  case logIn =>
    intro c hr hbody
    refine respond_logIn hdistinct (hclock _ hlast) hr hw hroom hdiscerns (fun e he => ?_) hbody
      (mem_passwords hlast hbody)
    rw [passwords, List.filterMap_append]
    exact List.mem_append_left _ (password_of_directory e he)
  case frees =>
    intro e he hcaller hstatus hgiven
    rcases hgiven with hdelete | ⟨hmodify, c, hbody, hne⟩
    · rw [record_deleteUser hdelete, if_neg (not_not_intro hstatus), hcaller]
      exact hw.users.get?_drop he
    · rw [record_modifyUser hmodify, if_neg (not_not_intro hstatus), hbody, hcaller]
      exact hw.users.get?_enter he hne

/-- A name can be had once. -/
theorem keepsDirectory_of_second :
    let signUp : Http.Request := ⟨"POST", ⟨"/user/create", none⟩, [],
      Utf8.encode "\x7b\"name\":\"anna\",\"password\":\"secret\"\x7d"⟩
    let log := [(Instant.ofSeconds 0, signUp)]
    credentials? signUp.body = some ⟨"anna", "secret"⟩ ∧
      solitary.KeepsDirectory (.ofSeconds 1) signUp (solitary.after log)
        (solitary.directory log) := by
  intro signUp log
  have hbody : credentials? signUp.body = some ⟨"anna", "secret"⟩ := by decide +kernel
  have hroom : (solitary.respond (.ofSeconds 1) signUp (solitary.after log)).2.issued ≤ 16 := by
    decide +kernel
  have hclock : ∀ x ∈ log ++ [(.ofSeconds 1, signUp)], x.1.IsCurrent := by
    intro x hx
    simp only [log, List.cons_append, List.nil_append, List.mem_cons, List.not_mem_nil,
      or_false] at hx
    rcases hx with rfl | rfl <;> exact ⟨by decide, by decide⟩
  have hpassword : ∀ p ∈ passwords (log ++ [(.ofSeconds 1, signUp)]), p = "secret" := by
    intro p hp
    obtain ⟨x, hx, hp⟩ := List.mem_filterMap.mp hp
    have hrequest : x.2 = signUp := by
      simp only [log, List.cons_append, List.nil_append, List.mem_cons, List.not_mem_nil,
        or_false] at hx
      rcases hx with rfl | rfl <;> rfl
    rw [hrequest, hbody] at hp
    exact (Option.some.inj hp).symm
  have hdiscerns : solitary.Discerns (passwords (log ++ [(.ofSeconds 1, signUp)])) := by
    intro i p hp q hq h hmake
    rw [hpassword p hp] at hmake
    rw [hpassword p hp, hpassword q hq]
    have hsalt : (solitary.salts i).length = 16 := List.length_replicate
    exact iff_of_true (PasswordHash.verify_make (PasswordHash.hashes_argon2 (by omega)) hmake) rfl
  exact ⟨hbody, keepsDirectory log signUp hclock hashesReadably_solitary hdiscerns
    distinct_solitary (fun _ _ _ h => nomatch h) hroom⟩

end Service

end AlertService
