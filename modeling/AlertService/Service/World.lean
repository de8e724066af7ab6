import AlertService.Account.Password
import AlertService.Http.Request
import AlertService.Service.Failure
import AlertService.Store.Database
import AlertService.Token.Service

/-!
# The service and its world

A service is what stays the same while it runs: its secrets, and how it obtains digests, fresh
identifiers and deliveries. Its world is what requests change: the database, how much of the fresh
material is used up, and the messages handed to the notifier.
-/

namespace AlertService

structure Message where
  chat : Int64
  text : String
deriving DecidableEq

/-- How messages are delivered, given the messages handed over before. While one is on its way,
others may change the store; where they want to and cannot, it is not handed over. -/
structure Notifier where
  delivers : (before : List Message) → Message → Bool
  meanwhile : (before : List Message) → Message → Option (Store → Store)

/-- The field `webhookSecret` is what the updates of the bot have to show, if anything. Fresh
identifiers and salts are numbered. -/
structure Service where
  tokens : TokenService
  notifier : Notifier
  webhookSecret : Option String
  digest : Digest
  ids : Nat → Uuid
  salts : Nat → Bytes

structure World where
  database : Database
  issued : Nat
  handed : List Message

def World.fresh : World := ⟨.fresh, 0, []⟩

/-- A part of the handling of a request. What it changed before it failed stays changed. -/
abbrev Handler := ExceptT Failure (StateM World)

/-- What a successful request is answered with. -/
inductive Reply where
  | done
  | value (j : Json)

namespace Handler

/-- Runs a call of the store. -/
def store {α : Type} (f : Store → Except StoreError (α × Store)) : Handler α := fun w =>
  match w.database.call f with
  | (.ok x, d) => (.ok x, { w with database := d })
  | (.error e, d) => (.error (.ofStore e), { w with database := d })

/-- Runs a call that only changes the store. -/
def change (f : Store → Except StoreError Store) : Handler Unit :=
  store fun s => (f s).map fun s => ((), s)

/-- Runs a call that only reads the store. -/
def ask {α : Type} (f : Store → Except StoreError α) : Handler α :=
  store fun s => (f s).map fun x => (x, s)

/-- The first number of fresh material not in use, which then is. -/
def issue : Handler Nat := fun w => (.ok w.issued, { w with issued := w.issued + 1 })

/-- Marks `n` more numbers as used. -/
def issueMore (n : Nat) : Handler Unit := fun w => (.ok (), { w with issued := w.issued + n })

/-- The value, or an internal failure. -/
def require {α : Type} (x : Option α) : Handler α := fun w =>
  match x with
  | some a => (.ok a, w)
  | none => (.error .internal, w)

/-- Goes on whether or not the part fails. -/
def attempt (h : Handler Unit) : Handler Unit := fun w => (.ok (), (h w).2)

end Handler

namespace Service

variable (service : Service)

/-- A fresh identifier. -/
def freshId : Handler Uuid := do return service.ids (← Handler.issue)

/-- Hands a message to the notifier; says whether it was delivered. -/
def send (m : Message) : Handler Bool := fun w =>
  let hand (d : Database) : Except Failure Bool × World :=
    (.ok (service.notifier.delivers w.handed m), { w with database := d, handed := w.handed ++ [m] })
  match service.notifier.meanwhile w.handed m with
  | none => hand w.database
  | some change =>
    match w.database.call fun s => .ok ((), change s) with
    | (.ok (), d) => hand d
    | (.error _, d) => (.ok false, { w with database := d })

end Service

/-! ## What a request brings -/

/-- The most bytes that a body may have. -/
def bodyLimit : Nat := 2097152

/-- The value in the body of a request. -/
def Handler.payload {α : Type} (read : Json.Reader α) (body : Bytes) : Handler α := fun w =>
  if bodyLimit < body.length then
    (.error (.validation "Failed to buffer the request body: length limit exceeded"), w)
  else
    match Json.parseBody read body with
    | .ok x => (.ok x, w)
    | .error message => (.error (.validation message), w)

/-- The identifier that a parameter of a query spells. -/
def queryId (q : Http.Query) (name label : String) : Except Failure Uuid :=
  match (q.get? name).bind fun v => Uuid.accept? (Text.trim v.toList) with
  | some id => .ok id
  | none => .error (.missing label)

/-- The identifier that a parameter of the request spells. -/
def Handler.id (r : Http.Request) (name label : String) : Handler Uuid := fun w =>
  (queryId r.query name label, w)

end AlertService
