import AlertService.Proofs.Store.Columns

/-!
# Sessions come to an end

A session ends when it is replaced, when its user is deleted, when it is dropped among those that
have lapsed, or by the clock alone. The row of one that has lapsed may still be there, but whatever
looks at it asks for its expiry. As no identifier is that of two sessions, what has ended stays so.

* `rotateSession_of_live`, `rotateSession_of_not_live`: a session is replaced while it is live.
* `Ended`: how a session ends in the course of a run.
* `Ended.not_live`: from then on it is never live again.
-/

namespace AlertService

open Database

/-- There is no expiry, or it is above the time. -/
theorem Session.isLive_iff {x : Session} {expiry : Option Int} {now : Int}
    (h : x.expiry = .value expiry) : x.isLive now = true ↔ ∀ e, expiry = some e → now < e := by
  cases expiry with
  | none => simp [Session.isLive, h]
  | some e => simp [Session.isLive, h]

/-- What lapses is what is not live, whatever stands in the column. -/
theorem Session.hasLapsed_eq (x : Session) (now : Int) : x.hasLapsed now = !x.isLive now := by
  unfold Session.hasLapsed Session.isLive
  split
  · rw [← decide_not]
    exact decide_eq_decide.mpr Int.not_lt.symm
  · rfl
  · rw [Bool.not_or, ← decide_not]

namespace Store

variable {s t : Store} {now expiry : Int} {id old user new : Uuid}

theorem sessionIsLive_iff : s.sessionIsLive now id user = true ↔
    ∃ x ∈ s.sessions, x.id = id ∧ x.user = user ∧ x.isLive now = true := by
  simp [sessionIsLive, and_assoc]

/-- What is left of a user's sessions when the lapsed ones are dropped are the live ones. -/
theorem any_pruneSessions :
    ((s.pruneSessions now user).sessions.any fun x => x.id = old && x.user = user) =
      s.sessionIsLive now old user := by
  simp only [pruneSessions, sessionIsLive, List.any_filter]
  refine congrArg s.sessions.any (funext fun x => ?_)
  rw [x.hasLapsed_eq now]
  by_cases hu : x.user = user
  · simp [hu, Bool.and_comm]
  · simp [hu]

theorem rotateSession_of_not_live (h : s.sessionIsLive now old user = false) :
    s.rotateSession now old user new expiry = .error (.notFound "session") := by
  simp only [rotateSession, any_pruneSessions, h]
  rfl

theorem live_of_rotateSession (h : s.rotateSession now old user new expiry = .ok t) :
    s.sessionIsLive now old user = true :=
  any_pruneSessions.symm.trans (rotateSession_eq_ok.mp h).1

theorem Coherent.rotateSession_of_live (h : s.Coherent) (expiry : Int)
    (hlive : s.sessionIsLive now old user = true) (hnew : ∀ x ∈ s.sessions, x.id ≠ new) :
    ∃ t, s.rotateSession now old user new expiry = .ok t := by
  refine ⟨_, rotateSession_eq_ok.mpr ⟨any_pruneSessions.trans hlive,
    insertSession_eq_ok.mpr ⟨?_, ?_, rfl⟩⟩⟩
  · refine List.any_eq_false.mpr fun x hx => ?_
    simpa using hnew x (List.mem_of_mem_filter (List.mem_of_mem_filter hx))
  · obtain ⟨x, hx, -, rfl, -⟩ := sessionIsLive_iff.mp hlive
    exact h.sessionOwners x hx

/-- Replacing a session takes its row away. -/
theorem not_mem_of_rotateSession (h : s.rotateSession now old user new expiry = .ok t)
    (hne : new ≠ old) {x : Session} (hid : x.id = old) (huser : x.user = user) :
    x ∉ t.sessions := by
  obtain ⟨-, hok⟩ := rotateSession_eq_ok.mp h
  obtain ⟨-, -, rfl⟩ := insertSession_eq_ok.mp hok
  intro hx
  rcases List.mem_append.mp hx with hx | hx
  · have hkept := (List.mem_filter.mp hx).2
    simp [hid, huser] at hkept
  · rw [List.mem_singleton.mp hx] at hid
    exact hne hid

end Store

namespace Database

variable {d : Database} {ops before later : List Operation} {id : Uuid} {past : Int} {x : Session}

/-! ## Runs in which identifiers are fresh -/

/-- No two sessions, be they there already or opened by the calls, share an identifier. -/
def OpensOnce (d : Database) (ops : List Operation) : Prop :=
  ((d.store.sessions ++ ops.filterMap Operation.opened?).map Session.id).Nodup

theorem OpensOnce.of_prefix (h : d.OpensOnce ops) (hbefore : before <+: ops) :
    d.OpensOnce before :=
  h.sublist (((hbefore.sublist.filterMap Operation.opened?).append_left _).map Session.id)

/-- A session that is there is not one that is opened afterwards. -/
theorem OpensOnce.not_opened (h : d.OpensOnce (before ++ later)) (hd : d.store.Coherent)
    (hx : x ∈ (d.run before).store.sessions) :
    ∀ op ∈ later, ∀ y, op.opened? = some y → y.id ≠ x.id := by
  intro op hop y hy hid
  unfold OpensOnce at h
  rw [List.filterMap_append, ← List.append_assoc, List.map_append, List.nodup_append] at h
  have hx : x ∈ d.store.sessions ++ before.filterMap Operation.opened? := by
    rcases opened_of_session hd hx with hold | ⟨op', hop', hopened⟩
    · exact List.mem_append_left _ hold
    · exact List.mem_append_right _ (List.mem_filterMap.mpr ⟨op', hop', hopened⟩)
  have hy : y ∈ later.filterMap Operation.opened? := List.mem_filterMap.mpr ⟨op, hop, hy⟩
  exact h.2.2 _ (List.mem_map_of_mem hx) _ (List.mem_map_of_mem hy) hid.symm

/-! ## Sessions that are over -/

/-- If there is still a row of the session, it has lapsed. -/
def Over (id : Uuid) (past : Int) (s : Store) : Prop :=
  ∀ x ∈ s.sessions, x.id = id → ∃ e, x.expiry = .value (some e) ∧ e ≤ past

/-- As long as no session is opened under the identifier this cannot change. -/
theorem over_run (hd : d.store.Coherent) (hover : Over id past d.store)
    (hops : ∀ op ∈ ops, ∀ x, op.opened? = some x → x.id ≠ id) :
    Over id past (d.run ops).store := by
  refine run_keeps hover ?_
  rintro before op rest s rfl hkept hs x hx hid
  rcases session_of_apply (coherent_run hd before) hs hx with hold | hopened
  · exact hkept x hold hid
  · exact absurd hid (hops op (List.mem_append_right _ List.mem_cons_self) x hopened)

/-- A row that has gone does not come back. -/
theorem over_of_gone {op : Operation} {rest : List Operation} (hd : d.Sound)
    (hfresh : d.OpensOnce (before ++ op :: rest)) (hx : x ∈ (d.run before).store.sessions)
    (hgone : x ∉ (d.run (before ++ [op])).store.sessions) :
    Over x.id past (d.run (before ++ op :: rest)).store := by
  have hnot := hfresh.not_opened hd.coherent hx
  rw [← List.singleton_append, ← List.append_assoc, run_append]
  refine over_run (hd.run _).coherent ?_ fun op' hop => hnot op' (List.mem_cons_of_mem _ hop)
  intro y hy hid
  rw [run_append] at hy
  rcases opened_of_session (hd.run before).coherent hy with hold | ⟨op', hop', hopened⟩
  · have hids := (hd.run before).coherent.sessionIds
    rw [List.inj_on_of_nodup_map hids hold hx hid, ← run_append] at hy
    exact absurd hy hgone
  · rw [List.mem_singleton.mp hop'] at hopened
    exact absurd hid (hnot op List.mem_cons_self y hopened)

/-- What ends the session with the identifier in the course of a run, until the time `past`. -/
inductive Ended (d : Database) (id : Uuid) (past : Int) : List Operation → Prop
  /-- It was replaced. -/
  | replaced {before rest : List Operation} {now expiry : Int} {user new : Uuid} {s : Store} :
      (d.run before).store.rotateSession now id user new expiry = .ok s →
      Ended d id past (before ++ .rotateSession now id user new expiry :: rest)
  /-- Its user was deleted. -/
  | deleted {before rest : List Operation} {x : Session} {s : Store} :
      x ∈ (d.run before).store.sessions → x.id = id →
      (d.run before).store.deleteUser x.user = .ok s →
      Ended d id past (before ++ .deleteUser x.user :: rest)
  /-- It was dropped, as lapsed sessions are when their user opens or replaces one. -/
  | dropped {before rest : List Operation} {op : Operation} {x : Session} :
      x ∈ (d.run before).store.sessions → x.id = id →
      x ∉ (d.run (before ++ [op])).store.sessions →
      Ended d id past (before ++ op :: rest)
  /-- It has lapsed. -/
  | lapsed {before rest : List Operation} {x : Session} {e : Int} :
      x ∈ (d.run before).store.sessions → x.id = id → x.expiry = .value (some e) → e ≤ past →
      Ended d id past (before ++ rest)

theorem Ended.append (h : Ended d id past ops) (later : List Operation) :
    Ended d id past (ops ++ later) := by
  cases h with
  | replaced hok =>
    rw [List.append_assoc, List.cons_append]
    exact .replaced hok
  | deleted hx hid hok =>
    rw [List.append_assoc, List.cons_append]
    exact .deleted hx hid hok
  | dropped hx hid hgone =>
    rw [List.append_assoc, List.cons_append]
    exact .dropped hx hid hgone
  | lapsed hx hid hexpiry hle =>
    rw [List.append_assoc]
    exact .lapsed hx hid hexpiry hle

theorem Ended.over (h : Ended d id past ops) (hd : d.Sound) (hfresh : d.OpensOnce ops) :
    Over id past (d.run ops).store := by
  cases h with
  | @replaced before rest now expiry user new s hok =>
    obtain ⟨x, hx, rfl, huser, -⟩ :=
      Store.sessionIsLive_iff.mp (Store.live_of_rotateSession hok)
    have hne : new ≠ x.id :=
      hfresh.not_opened hd.coherent hx _ List.mem_cons_self ⟨new, user, .value (some expiry)⟩ rfl
    have hop : (Operation.rotateSession now x.id user new expiry).apply (d.run before).store =
        .ok s := hok
    refine over_of_gone hd hfresh hx ?_
    rw [run_append, run_cons, perform_of_ok (hd.run before).poisoned hop]
    exact Store.not_mem_of_rotateSession hok hne rfl huser
  | @deleted before rest x s hx hid hok =>
    subst hid
    have hop : (Operation.deleteUser x.user).apply (d.run before).store = .ok s := hok
    refine over_of_gone hd hfresh hx ?_
    rw [run_append, run_cons, perform_of_ok (hd.run before).poisoned hop]
    obtain ⟨-, rfl⟩ := (hd.run before).coherent.deleteUser_eq_ok.mp hok
    exact fun hkept => of_decide_eq_true (List.mem_filter.mp hkept).2 rfl
  | dropped hx hid hgone =>
    subst hid
    exact over_of_gone hd hfresh hx hgone
  | @lapsed before rest x e hx hid hexpiry hle =>
    subst hid
    rw [run_append]
    refine over_run (hd.run before).coherent ?_ (hfresh.not_opened hd.coherent hx)
    intro y hy hid
    have hids := (hd.run before).coherent.sessionIds
    exact ⟨e, List.inj_on_of_nodup_map hids hy hx hid ▸ hexpiry, hle⟩

/-- A session that has ended is live at no later time, whoever its user is said to be. -/
theorem Ended.not_live (h : Ended d id past ops) (hd : d.Sound) (hfresh : d.OpensOnce ops)
    {now : Int} (hclock : past ≤ now) (user : Uuid) :
    (d.run ops).store.sessionIsLive now id user = false := by
  refine Bool.eq_false_iff.mpr fun hlive => ?_
  obtain ⟨x, hx, hid, -, hlive⟩ := Store.sessionIsLive_iff.mp hlive
  obtain ⟨e, hexpiry, hle⟩ := h.over hd hfresh x hx hid
  have hlt : now < e := (Session.isLive_iff hexpiry).mp hlive e rfl
  omega

end Database

end AlertService
