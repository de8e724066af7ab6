import AlertService.Time.Instant
import AlertService.Token.Claims
import AlertService.Token.Signed

/-!
# Issuing and verifying tokens

A service issues pairs of tokens under its secret. A token verifies as the half of a pair that it
was issued as, until it expires. Whether its session still exists is for the store to say.
-/

namespace AlertService

/-- A lifetime that is too long to be added to a time. -/
structure LifetimeError where
  kind : TokenKind
  seconds : Nat
deriving DecidableEq

/-- One hundred years. -/
def maxLifetime : Nat := 100 * 365 * 24 * 3600

def LifetimeError.message (e : LifetimeError) : String :=
  e.kind.name ++ " token TTL of " ++ toString e.seconds ++ "s exceeds the maximum of " ++
    toString maxLifetime ++ "s"

/-- The lifetimes of the two halves of a pair are in seconds. -/
structure TokenService where
  secret : String
  accessLifetime : Nat
  refreshLifetime : Nat
  access_le : accessLifetime ≤ maxLifetime
  refresh_le : refreshLifetime ≤ maxLifetime

namespace TokenService

/-- A service, unless a lifetime is too long. -/
def make (secret : String) (accessLifetime refreshLifetime : Nat) :
    Except LifetimeError TokenService :=
  if ha : accessLifetime ≤ maxLifetime then
    if hr : refreshLifetime ≤ maxLifetime then
      .ok ⟨secret, accessLifetime, refreshLifetime, ha, hr⟩
    else .error ⟨.refresh, refreshLifetime⟩
  else .error ⟨.access, accessLifetime⟩

variable (service : TokenService)

def lifetime : TokenKind → Nat
  | .access => service.accessLifetime
  | .refresh => service.refreshLifetime

/-- When a session opened now lapses: together with its refresh token. -/
def sessionExpiry (now : Instant) : Option Int :=
  (now.add? service.refreshLifetime).map Instant.seconds

/-- The claims of a token issued now. -/
def claims (now : Instant) (user session : Uuid) (kind : TokenKind) : Option Claims :=
  (now.add? (service.lifetime kind)).map fun expiry =>
    ⟨user, session, kind, UInt64.ofInt now.seconds, UInt64.ofInt expiry.seconds⟩

def issue (now : Instant) (user session : Uuid) (kind : TokenKind) : Option String :=
  (service.claims now user session kind).map fun c => Token.ofPayload service.secret c.toJson.text

def issuePair (now : Instant) (user session : Uuid) : Option TokenPair := do
  let access ← service.issue now user session .access
  let refresh ← service.issue now user session .refresh
  return ⟨access, refresh⟩

/-! ## Verifying -/

/-- A value in the place of a time. Lists and objects that are not empty cannot be passed over. -/
def timeValue : Json.Reader Unit := fun bs =>
  match Json.skipSpaces bs with
  | [] => .error ⟨.endInValue, []⟩
  | b :: r =>
    match Json.Bracket.opening? b with
    | none => (Json.Reader.attempt (fun bs => Json.Raw.readScalar b bs) r).map fun (_, rest) =>
        ((), rest)
    | some k => .ok ((), k.afterFault r)

/-- Any value, as far as it can be read. -/
def anyValue : Json.Reader Unit := fun bs =>
  (Json.Reader.attempt Json.Raw.readMember bs).map fun (_, rest) => ((), rest)

/-- Any value; says whether it names an audience, which is a string or a list of strings. -/
def audienceValue : Json.Reader Bool := fun bs =>
  (Json.Reader.attempt Json.Raw.readMember bs).map fun (v, rest) =>
    (v.any fun v => v.isString || v.isStrings, rest)

/-- The claims that say where and when a token is meant to be used. -/
structure Scope where
  hasAudience : Bool

/-- None of these claims has to be readable, but reading has to go on after it. -/
def Scope.shape : Json.Shape Scope where
  name := "Scope"
  fields := [⟨"nbf", Unit, timeValue, some (), none⟩, ⟨"iss", Unit, anyValue, some (), none⟩,
    ⟨"aud", Bool, audienceValue, some false, none⟩]
  closed := false
  build := fun (_, _, hasAudience, _) => ⟨hasAudience⟩

/-- The claims of a payload that is meant for everyone. -/
def readClaims? (payload : Bytes) : Option Claims := do
  let claims ← (Json.readBody Claims.shape.read payload).toOption
  let scope ← (Json.readBody Scope.shape.read payload).toOption
  if scope.hasAudience then none else some claims

/-- The claims of a token that is signed, has not expired and is of the expected kind. -/
def verify (now : Instant) (token : String) (expected : TokenKind) : Option Claims := do
  let payload ← Token.verifiedPayload? service.secret token
  let claims ← readClaims? payload
  if now.seconds ≤ claims.expiresAt.toNat ∧ claims.kind = expected then some claims else none

end TokenService

end AlertService
