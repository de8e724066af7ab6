import AlertService.Json.Record
import AlertService.Json.Value

/-!
# Claims of a token

A token names a user and the session it was issued for, says which half of a pair it is, and
carries the seconds since 1970 at which it was issued and at which it expires.
-/

namespace AlertService

inductive TokenKind where
  | access
  | refresh
deriving DecidableEq, Repr

structure Claims where
  subject : Uuid
  session : Uuid
  kind : TokenKind
  issuedAt : UInt64
  expiresAt : UInt64
deriving DecidableEq

structure TokenPair where
  access : String
  refresh : String
deriving DecidableEq

namespace TokenKind

def name : TokenKind → String
  | .access => "access"
  | .refresh => "refresh"

def read : Json.Reader TokenKind :=
  .choice ([.access, .refresh].map fun k => (name k, k))

end TokenKind

namespace Claims

def shape : Json.Shape Claims where
  name := "Claims"
  fields := [.required "sub" .uuid, .required "sid" .uuid, .required "kind" TokenKind.read,
    .required "iat" .uint64, .required "exp" .uint64]
  closed := false
  build := fun (subject, session, kind, issuedAt, expiresAt, _) =>
    ⟨subject, session, kind, issuedAt, expiresAt⟩

def toJson (c : Claims) : Json :=
  .object [("sub", .string c.subject.text), ("sid", .string c.session.text),
    ("kind", .string c.kind.name), ("iat", .integer c.issuedAt.toNat),
    ("exp", .integer c.expiresAt.toNat)]

end Claims

namespace TokenPair

def shape : Json.Shape TokenPair where
  name := "TokenPair"
  fields := [.required "access_token" .string, .required "refresh_token" .string]
  closed := false
  build := fun (access, refresh, _) => ⟨access, refresh⟩

def toJson (p : TokenPair) : Json :=
  .object [("access_token", .string p.access), ("refresh_token", .string p.refresh)]

end TokenPair

end AlertService
