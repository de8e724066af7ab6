import AlertService.Account.Credentials
import AlertService.Service.World
import AlertService.Store.Sessions

/-!
# Signing up, logging in and staying in

Each of these ends in a session and a pair of tokens for it. A refresh token is exchanged for a new
pair at most once, since its session is replaced. Whatever is wrong with one, it is not found.
-/

namespace AlertService

namespace Service

variable (service : Service) (now : Instant)

/-- Opens a session of the user. -/
def openSession (user : Uuid) : Handler TokenPair := do
  let expiry ← Handler.require (service.tokens.sessionExpiry now)
  let session ← service.freshId
  Handler.change fun s => s.createSession now.seconds session user expiry
  Handler.require (service.tokens.issuePair now user session)

/-- The text of a new hash of the password. -/
def hashPassword (password : String) : Handler String := do
  let salt := service.salts (← Handler.issue)
  let hash ← Handler.require (PasswordHash.make service.digest salt password)
  return hash.text

/-- The password is the one of the stored hash, which has to be readable. -/
def verifyPassword (password stored : String) : Handler Bool := do
  let hash ← Handler.require (PasswordHash.parse? stored)
  return hash.verify service.digest password

def signUp (body : Bytes) : Handler Reply := do
  let credentials ← Handler.payload Credentials.shape.read body
  let hash ← service.hashPassword credentials.password
  let user ← service.freshId
  Handler.change fun s => s.createUser user credentials.name hash
  let pair ← service.openSession now user
  return .value pair.toJson

def logIn (body : Bytes) : Handler Reply := do
  let credentials ← Handler.payload Credentials.shape.read body
  match ← Handler.ask fun s => s.userByName credentials.name with
  | none => throw (.missing "user")
  | some account =>
    if ← service.verifyPassword credentials.password account.passwordHash then
      let pair ← service.openSession now account.id
      return .value pair.toJson
    else throw .unauthenticated

/-- The claims of the token that the request brings. -/
def claims? (r : Http.Request) (kind : TokenKind) : Option Claims :=
  r.bearerToken?.bind fun token => service.tokens.verify now token kind

/-- A session of the user in place of the one that the token names. -/
def replaceSession (claims : Claims) (expiry : Int) : Handler Uuid := do
  let session ← service.freshId
  Handler.change fun s =>
    s.rotateSession now.seconds claims.session claims.subject session expiry
  return session

def refresh (r : Http.Request) : Handler Reply := do
  let invalid := Failure.missing "refresh token"
  match service.claims? now r .refresh with
  | none => throw invalid
  | some claims =>
    let expiry ← Handler.require (service.tokens.sessionExpiry now)
    let session ← tryCatch (service.replaceSession now claims expiry) fun failure =>
      match failure with
      | .notFound _ => throw invalid
      | failure => throw failure
    let pair ← Handler.require (service.tokens.issuePair now claims.subject session)
    return .value pair.toJson

/-- The user whose live session the access token of the request names. -/
def authenticate (r : Http.Request) : Handler Uuid := do
  match service.claims? now r .access with
  | none => throw .unauthenticated
  | some claims =>
    let live ← Handler.ask fun s =>
      .ok (s.sessionIsLive now.seconds claims.session claims.subject)
    if live then return claims.subject else throw .unauthenticated

def modifyUser (caller : Uuid) (body : Bytes) : Handler Reply := do
  let credentials ← Handler.payload Credentials.shape.read body
  let hash ← service.hashPassword credentials.password
  Handler.change fun s => s.updateUser caller credentials.name hash
  return .done

def deleteUser (caller : Uuid) : Handler Reply := do
  Handler.change fun s => s.deleteUser caller
  return .done

end Service

end AlertService
