import AlertService.Service.Accounts
import AlertService.Service.Bot
import AlertService.Service.Delivery
import AlertService.Service.Entities

/-!
# Requests and responses

Every path has one method. A path that needs a caller asks for one before anything else, even before
the method is looked at. Every response may be read by pages from anywhere, and the question
whether a page may send a request is answered with yes for all paths.
-/

namespace AlertService

/-- What anyone may ask for. -/
inductive OpenEndpoint where
  | health
  | signUp
  | logIn
  | refresh
  | botUpdate
deriving DecidableEq

/-- What needs a caller. -/
inductive GuardedEndpoint where
  | deleteUser
  | modifyUser
  | getOne (k : Kind)
  | getAll (k : Kind)
  | create (k : Kind)
  | confirm (k : Kind)
  | modify (k : Kind)
  | delete (k : Kind)
  | activeGroups
  | membersOf
  | addMember
  | removeMember
  | getNotification
  | allNotifications
  | pendingNotifications
  | createBatch
  | sendBatch
  | cancelNotification
deriving DecidableEq

inductive Endpoint where
  | anyone (e : OpenEndpoint)
  | guarded (e : GuardedEndpoint)
deriving DecidableEq

namespace Endpoint

/-- The word for the kind in a path, and for one of it. -/
def words : Kind → String × String
  | .recipient => ("/recipients", "Recipient")
  | .template => ("/templates", "Template")
  | .group => ("/groups", "Group")

/-- The method and the path of what anyone may ask for. -/
def openRoute : OpenEndpoint → String × String
  | .health => ("GET", "/health")
  | .signUp => ("POST", "/user/create")
  | .logIn => ("POST", "/user/login")
  | .refresh => ("PUT", "/user/refreshToken")
  | .botUpdate => ("POST", "/telegram/update")

/-- The method and the path of what needs a caller. -/
def guardedRoute : GuardedEndpoint → String × String
  | .deleteUser => ("DELETE", "/user")
  | .modifyUser => ("PUT", "/user/modifyUser")
  | .getOne k => ("GET", (words k).1)
  | .getAll k => ("GET", (words k).1 ++ "/all")
  | .create k => ("POST", (words k).1 ++ "/create")
  | .confirm k => ("PUT", (words k).1 ++ "/confirmCreation")
  | .modify k => ("PUT", (words k).1 ++ "/modify" ++ (words k).2)
  | .delete k => ("DELETE", (words k).1 ++ "/delete" ++ (words k).2)
  | .activeGroups => ("GET", "/groups/active")
  | .membersOf => ("GET", "/groups/recipients")
  | .addMember => ("PUT", "/groups/addRecipient")
  | .removeMember => ("DELETE", "/groups/deleteRecipient")
  | .getNotification => ("GET", "/notifications")
  | .allNotifications => ("GET", "/notifications/all")
  | .pendingNotifications => ("GET", "/notifications/pending")
  | .createBatch => ("POST", "/notifications/createBatch")
  | .sendBatch => ("PUT", "/notifications/sendBatch")
  | .cancelNotification => ("DELETE", "/notifications/cancelNotification")

def route : Endpoint → String × String
  | .anyone e => openRoute e
  | .guarded e => guardedRoute e

def method (e : Endpoint) : String := e.route.1

def path (e : Endpoint) : String := e.route.2

def openOnes : List OpenEndpoint := [.health, .signUp, .logIn, .refresh, .botUpdate]

def guardedOnes : List GuardedEndpoint :=
  [.deleteUser, .modifyUser, .activeGroups, .membersOf, .addMember, .removeMember,
    .getNotification, .allNotifications, .pendingNotifications, .createBatch, .sendBatch,
    .cancelNotification] ++
  [Kind.recipient, .template, .group].flatMap fun k =>
    [.getOne k, .getAll k, .create k, .confirm k, .modify k, .delete k]

def all : List Endpoint := openOnes.map .anyone ++ guardedOnes.map .guarded

/-- The endpoint of a path. -/
def ofPath? (path : String) : Option Endpoint := all.find? fun e => e.path = path

/-- The methods of an endpoint: what can be got can also be asked for its headers. -/
def methods (e : Endpoint) : List String :=
  if e.method = "GET" then ["GET", "HEAD"] else [e.method]

end Endpoint

namespace Service

variable (service : Service) (now : Instant)

def handleOpen (e : OpenEndpoint) (r : Http.Request) : Handler Reply :=
  match e with
  | .health => return .value (.object [("status", .string "ok")])
  | .signUp => service.signUp now r.body
  | .logIn => service.logIn now r.body
  | .refresh => service.refresh now r
  | .botUpdate => service.botUpdate r

def handleGuarded (e : GuardedEndpoint) (caller : Uuid) (r : Http.Request) : Handler Reply :=
  match e with
  | .deleteUser => deleteUser caller
  | .modifyUser => service.modifyUser caller r.body
  | .getOne k => getOne caller k r
  | .getAll k => getAll caller k
  | .create k => service.create caller k r.body
  | .confirm k => service.confirm caller k r
  | .modify k => modify caller k r
  | .delete k => delete caller k r
  | .activeGroups => activeGroups caller
  | .membersOf => membersOf caller r
  | .addMember => addMember caller r
  | .removeMember => removeMember caller r
  | .getNotification => getNotification caller r
  | .allNotifications => notifications caller false
  | .pendingNotifications => notifications caller true
  | .createBatch => service.createBatch caller
  | .sendBatch => service.sendBatch now caller r
  | .cancelNotification => cancelNotification caller r

/-- The response of an endpoint; without a reply the method is not one of its own. -/
def answer (e : Endpoint) (r : Http.Request) : Handler (Option Reply) :=
  let wrong := !e.methods.contains r.method
  match e with
  | .anyone e => if wrong then return none else some <$> service.handleOpen now e r
  | .guarded e => do
    let caller ← service.authenticate now r
    if wrong then return none else some <$> service.handleGuarded now e caller r

def responseOf : Except Failure (Option Reply) → Http.Response
  | .ok (some .done) => .make 200 none
  | .ok (some (.value j)) => .make 200 (some j)
  | .ok none => .make 405 none
  | .error f => f.response

/-- The headers that let pages from anywhere read a response. -/
def sharing : List (String × String) :=
  [("access-control-allow-origin", "*"),
    ("vary", "origin, access-control-request-method, access-control-request-headers")]

/-- The methods of the path are listed where another one was used. -/
def allowHeader (path method : String) : List (String × String) :=
  match Endpoint.ofPath? path with
  | some e =>
    if e.methods.contains method then [] else [("allow", ",".intercalate e.methods)]
  | none => []

/-- The answer to the question whether a page may send a request. -/
def permission : Http.Response :=
  (Http.Response.make 200 none).addHeaders
    (sharing ++ [("access-control-allow-methods", "*"), ("access-control-allow-headers", "*")])

/-- The length of a response is stated, except below the root where there is no endpoint. -/
def statesLength (path : String) : Bool :=
  (Endpoint.ofPath? path).isSome || path.toList.head? ≠ some '/'

/-- Answers a request, the length of the response aside. -/
def respondUnmeasured (r : Http.Request) (w : World) : Http.Response × World :=
  let allow := allowHeader r.target.path r.method
  if r.method = "OPTIONS" then (permission.addHeaders allow, w)
  else
    let (response, w) :=
      match Endpoint.ofPath? r.target.path with
      | none => (Http.Response.make 404 none, w)
      | some e =>
        let (result, w) := service.answer now e r w
        (responseOf result, w)
    let response :=
      response.addHeaders (sharing ++ [("access-control-expose-headers", "*")] ++ allow)
    (if r.method = "HEAD" then response.withoutBody else response, w)

/-- Answers a request. -/
def respond (r : Http.Request) (w : World) : Http.Response × World :=
  let (response, w) := service.respondUnmeasured now r w
  (if statesLength r.target.path then response else response.withoutLength, w)

end Service

end AlertService
