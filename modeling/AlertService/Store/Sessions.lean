import AlertService.Store.Basic

/-!
# Sessions

A session is live until its expiry. Opening a session, and replacing one, drops the lapsed sessions
of the same user first; a replaced session is gone, so each is replaced at most once. Times are in
seconds from the start of 1970.
-/

namespace AlertService

/-- The expiry is above the time, or there is none. -/
def Session.isLive (x : Session) (now : Int) : Bool :=
  match x.expiry with
  | .value (some e) => e > now
  | .value none => true
  | .foreign c => c = .null || (Cell.integer now).isBelow .exact c

/-- There is an expiry, at or below the time. -/
def Session.hasLapsed (x : Session) (now : Int) : Bool :=
  match x.expiry with
  | .value (some e) => e ≤ now
  | .value none => false
  | .foreign c => c ≠ .null && !(Cell.integer now).isBelow .exact c

namespace Store

/-- Drops the lapsed sessions of a user. -/
def pruneSessions (s : Store) (now : Int) (user : Uuid) : Store :=
  { s with sessions := s.sessions.filter fun x => !(x.user = user && x.hasLapsed now) }

def insertSession (s : Store) (id user : Uuid) (expiry : Int) : Except StoreError Store := do
  refuseTaken (s.sessions.any fun x => x.id = id) "sessions.session_id"
  requireReference (s.hasUser user)
  return { s with sessions := s.sessions ++ [⟨id, user, .value (some expiry)⟩] }

/-- Opens a session under a new identifier. -/
def createSession (s : Store) (now : Int) (id user : Uuid) (expiry : Int) :
    Except StoreError Store :=
  (s.pruneSessions now user).insertSession id user expiry

/-- The session exists, is the user's and has not lapsed. -/
def sessionIsLive (s : Store) (now : Int) (id user : Uuid) : Bool :=
  s.sessions.any fun x => x.id = id && x.user = user && x.isLive now

/-- Replaces a live session of the user by one under a new identifier. -/
def rotateSession (s : Store) (now : Int) (old user new : Uuid) (expiry : Int) :
    Except StoreError Store :=
  let s := s.pruneSessions now user
  if s.sessions.any fun x => x.id = old && x.user = user then
    { s with sessions := s.sessions.filter fun x => !(x.id = old && x.user = user) }.insertSession
      new user expiry
  else .error (.notFound "session")

end Store

end AlertService
