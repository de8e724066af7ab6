import AlertService.Proofs.Store.Sessions

/-!
# Sessions lapse by one rule

Three calls look at the expiry of sessions in their own ways: one asks whether a session is live, and
those that open or replace one drop the lapsed ones first. The session that is replaced is not asked
for its expiry at all. Still they agree at every second, and on sessions that never lapse.

* `Session.Live`: the rule.
* `Store.Opens`: what becomes of the sessions when one is opened, in place of another or not.
* `agreesOnExpiry`: both calls, and the question, go by the rule.
-/

namespace AlertService

namespace Session

/-- There is no expiry, or it is above the time. -/
def Live (x : Session) (now : Int) : Prop :=
  x.expiry = .value none ∨ ∃ e, x.expiry = .value (some e) ∧ now < e

variable {x : Session} {now later : Int}

theorem live_iff {expiry : Option Int} (h : x.expiry = .value expiry) :
    x.Live now ↔ ∀ e, expiry = some e → now < e := by
  unfold Live
  rw [h]
  cases expiry <;> simp

instance (x : Session) (now : Int) : Decidable (x.Live now) :=
  match h : x.expiry with
  | .value none => .isTrue (.inl h)
  | .value (some e) => decidable_of_iff (now < e) (by simp [live_iff h])
  | .foreign _ => .isFalse (by simp [Live, h])

/-- What is live at a time was live before. -/
theorem Live.of_le (h : x.Live later) (hle : now ≤ later) : x.Live now := by
  rcases h with hnone | ⟨e, he, hlt⟩
  · exact Or.inl hnone
  · exact Or.inr ⟨e, he, by omega⟩

theorem isLive_eq_true (hvalue : ∃ expiry, x.expiry = .value expiry) :
    x.isLive now = true ↔ x.Live now := by
  obtain ⟨expiry, he⟩ := hvalue
  exact (isLive_iff he).trans (live_iff he).symm

end Session

namespace Store

variable {s t : Store} {now expiry : Int} {id old user new : Uuid} {old? : Option Uuid}

/-! ## The table of sessions -/

/-- The sessions of `t` are those of `s` without `old?`, without the lapsed ones of the user, and
with a new one. -/
structure Opens (s t : Store) (now expiry : Int) (user new : Uuid) (old? : Option Uuid) :
    Prop where
  table : t = { s with
    sessions := (s.sessions.filter fun x => some x.id ≠ old? ∧ (x.user = user → x.Live now)) ++
      [⟨new, user, .value (some expiry)⟩] }
  /-- No other session, whoever's it is, is live at other times than before. -/
  others : ∀ later, now ≤ later → ∀ id owner, some id ≠ old? → id ≠ new →
    t.sessionIsLive later id owner = s.sessionIsLive later id owner
  unlimited : ∀ x ∈ s.sessions, x.expiry = .value none → some x.id ≠ old? → x ∈ t.sessions
  /-- Of the user's sessions none has lapsed, but for the new one if its expiry is not to come. -/
  lapsed : (t.sessions.filter fun x => x.user = user ∧ ¬x.Live now) =
    if expiry ≤ now then [⟨new, user, .value (some expiry)⟩] else []

section Rows

variable (hvalues : ∀ x ∈ s.sessions, ∃ expiry, x.expiry = .value expiry)

include hvalues

theorem sessionIsLive_iff_live : s.sessionIsLive now id user = true ↔
    ∃ x ∈ s.sessions, x.id = id ∧ x.user = user ∧ x.Live now := by
  rw [sessionIsLive_iff]
  refine exists_congr fun x => and_congr_right fun hx => ?_
  rw [Session.isLive_eq_true (hvalues x hx)]

/-- What is said of other sessions follows from the table. -/
theorem opens_of_table (table : t = { s with
    sessions := (s.sessions.filter fun x => some x.id ≠ old? ∧ (x.user = user → x.Live now)) ++
      [⟨new, user, .value (some expiry)⟩] }) : s.Opens t now expiry user new old? where
  table := table
  others later hle id owner hold hnew := by
    rw [Bool.eq_iff_iff, sessionIsLive_iff, sessionIsLive_iff, table]
    constructor
    · rintro ⟨x, hx, rfl, howner, hlive⟩
      rcases List.mem_append.mp hx with hx | hx
      · exact ⟨x, List.mem_of_mem_filter hx, rfl, howner, hlive⟩
      · rw [List.mem_singleton.mp hx] at hnew
        exact absurd rfl hnew
    · rintro ⟨x, hx, rfl, howner, hlive⟩
      have hnow : x.Live now := ((Session.isLive_eq_true (hvalues x hx)).mp hlive).of_le hle
      refine ⟨x, List.mem_append_left _ (List.mem_filter.mpr ⟨hx, ?_⟩), rfl, howner, hlive⟩
      exact decide_eq_true ⟨hold, fun _ => hnow⟩
  unlimited x hx hnone hold := by
    rw [table]
    refine List.mem_append_left _ (List.mem_filter.mpr ⟨hx, decide_eq_true ⟨hold, fun _ => ?_⟩⟩)
    exact Or.inl hnone
  lapsed := by
    have hold : ((s.sessions.filter fun x => some x.id ≠ old? ∧
        (x.user = user → x.Live now)).filter fun x => x.user = user ∧ ¬x.Live now) = [] := by
      refine List.filter_eq_nil_iff.mpr fun x hx hlapsed => ?_
      have hkept := of_decide_eq_true (List.mem_filter.mp hx).2
      have hgone := of_decide_eq_true hlapsed
      exact hgone.2 (hkept.2 hgone.1)
    have hnew : (⟨new, user, .value (some expiry)⟩ : Session).Live now ↔ ¬expiry ≤ now := by
      simp [Session.Live]
    rw [table, List.filter_append, hold, List.nil_append, List.filter_cons, List.filter_nil]
    simp only [hnew, true_and, not_not, decide_eq_true_eq]

/-- What is dropped as lapsed is what is not live. -/
theorem sessions_pruneSessions : (s.pruneSessions now user).sessions =
    s.sessions.filter fun x => x.user = user → x.Live now := by
  refine List.filter_congr fun x hx => ?_
  rw [x.hasLapsed_eq now, Bool.eq_iff_iff, decide_eq_true_eq,
    ← Session.isLive_eq_true (hvalues x hx)]
  by_cases hu : x.user = user <;> simp [hu]

/-! ## The calls -/

variable (huser : s.hasUser user = true) (hnew : ∀ x ∈ s.sessions, x.id ≠ new)

include huser hnew

theorem opens_of_createSession (expiry : Int) :
    ∃ t, s.createSession now new user expiry = .ok t ∧ s.Opens t now expiry user new none := by
  have hfree : ((s.pruneSessions now user).sessions.any fun x => x.id = new) = false := by
    refine List.any_eq_false.mpr fun x hx => ?_
    simpa using hnew x (List.mem_of_mem_filter hx)
  refine ⟨_, createSession_eq_ok.mpr (insertSession_eq_ok.mpr ⟨hfree, huser, rfl⟩),
    opens_of_table hvalues ?_⟩
  rw [sessions_pruneSessions hvalues]
  simp [pruneSessions]

theorem opens_of_rotateSession (hkeys : (s.sessions.map Session.id).Nodup) (expiry : Int)
    (hlive : s.sessionIsLive now old user = true) :
    ∃ t, s.rotateSession now old user new expiry = .ok t ∧
      s.Opens t now expiry user new (some old) := by
  obtain ⟨y, hy, hid, howner, -⟩ := sessionIsLive_iff.mp hlive
  -- as keys are unique, the row that goes is the only one with the identifier
  have hrow : ∀ x ∈ s.sessions, x.id = old → x.user = user := by
    intro x hx hxid
    rw [List.inj_on_of_nodup_map hkeys hx hy (hxid.trans hid.symm)]
    exact howner
  have hkept : ((s.pruneSessions now user).sessions.filter fun x => !(x.id = old && x.user = user)) =
      s.sessions.filter fun x => some x.id ≠ some old ∧ (x.user = user → x.Live now) := by
    rw [sessions_pruneSessions hvalues, List.filter_filter]
    refine List.filter_congr fun x hx => ?_
    have hrow := hrow x hx
    by_cases hxid : x.id = old
    · simp [hxid, hrow hxid]
    · simp [hxid]
  refine ⟨_, rotateSession_eq_ok.mpr ⟨any_pruneSessions.trans hlive,
    insertSession_eq_ok.mpr ⟨?_, huser, rfl⟩⟩, opens_of_table hvalues ?_⟩
  · rw [hkept]
    refine List.any_eq_false.mpr fun x hx => ?_
    simpa using hnew x (List.mem_of_mem_filter hx)
  · rw [hkept]
    rfl

end Rows

end Store

/-! ## Both calls -/

/-- At the time `now` all calls take the same sessions for live. -/
structure Database.AgreesOnExpiry (d : Database) (now expiry : Int) (old user new : Uuid) :
    Prop where
  live : d.store.sessionIsLive now old user = true ↔
    ∃ x ∈ d.store.sessions, x.id = old ∧ x.user = user ∧ x.Live now
  succeeds : (∃ t, d.store.rotateSession now old user new expiry = .ok t) ↔
    d.store.sessionIsLive now old user = true
  /-- What cannot be replaced is not found, and nothing changes. -/
  refused : d.store.sessionIsLive now old user = false →
    d.store.rotateSession now old user new expiry = .error (.notFound "session") ∧
      d.perform (.rotateSession now old user new expiry) = d
  rotated : ∀ t, d.store.rotateSession now old user new expiry = .ok t →
    d.store.Opens t now expiry user new (some old)
  created : ∃ t, d.store.createSession now new user expiry = .ok t ∧
    d.store.Opens t now expiry user new none

/-- Whatever sessions there are, with an expiry or without, and whatever time it is: a session is
replaced if and only if it is live, and only what is not live is dropped on the way. -/
theorem Database.agreesOnExpiry {d : Database} {user new : Uuid} (now expiry : Int) (old : Uuid)
    (hkeys : (d.store.sessions.map Session.id).Nodup)
    (hvalues : ∀ x ∈ d.store.sessions, ∃ expiry, x.expiry = .value expiry)
    (huser : d.store.hasUser user = true) (hnew : ∀ x ∈ d.store.sessions, x.id ≠ new) :
    d.AgreesOnExpiry now expiry old user new where
  live := Store.sessionIsLive_iff_live hvalues
  succeeds := by
    constructor
    · rintro ⟨t, ht⟩
      exact Store.live_of_rotateSession ht
    · intro hlive
      obtain ⟨t, ht, -⟩ := Store.opens_of_rotateSession hvalues huser hnew hkeys expiry hlive
      exact ⟨t, ht⟩
  refused hnot := by
    have herror : d.store.rotateSession now old user new expiry = .error (.notFound "session") :=
      Store.rotateSession_of_not_live hnot
    exact ⟨herror, Database.perform_of_error herror⟩
  rotated t ht := by
    have hlive := Store.live_of_rotateSession ht
    obtain ⟨t', ht', hopens⟩ := Store.opens_of_rotateSession hvalues huser hnew hkeys expiry hlive
    obtain rfl := Except.ok.inj (ht.symm.trans ht')
    exact hopens
  created := Store.opens_of_createSession hvalues huser hnew expiry

/-- Of sessions without an expiry, lapsed this second and live for one more, the last is replaced. -/
theorem Database.agreesOnExpiry_to_the_second :
    let users : List User := [⟨.value (.uniform 0), "anna", "hash"⟩]
    let sessions : List Session := [⟨.uniform 1, .uniform 0, .value none⟩,
      ⟨.uniform 2, .uniform 0, .value (some 5)⟩, ⟨.uniform 3, .uniform 0, .value (some 6)⟩]
    let d : Database := ⟨{ Store.empty with users := users, sessions := sessions }, [], false⟩
    d.store.sessionIsLive 5 (.uniform 3) (.uniform 0) = true ∧
      d.AgreesOnExpiry 5 9 (.uniform 3) (.uniform 0) (.uniform 4) := by
  intro users sessions d
  have hkeys : (d.store.sessions.map Session.id).Nodup := by decide
  have hvalues : ∀ x ∈ d.store.sessions, ∃ expiry, x.expiry = .value expiry := by
    simp [d, sessions]
  have huser : d.store.hasUser (.uniform 0) = true := by decide
  have hnew : ∀ x ∈ d.store.sessions, x.id ≠ .uniform 4 := by decide
  exact ⟨by decide, Database.agreesOnExpiry 5 9 (.uniform 3) hkeys hvalues huser hnew⟩

end AlertService
