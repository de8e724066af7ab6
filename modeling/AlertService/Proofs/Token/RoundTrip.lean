import AlertService.Proofs.Json.Records
import AlertService.Proofs.Json.Skipping
import AlertService.Proofs.Json.Written
import AlertService.Proofs.Token.Issuing
import AlertService.Proofs.Token.Verifying
import Mathlib.Algebra.Group.Int.Defs

/-!
# Tokens say what was issued

What is issued can be verified again, and says the same then: claims are written as text, read as
claims, and no number in them is cut off on the way.

* `readClaims?_toJson`: the claims in the text of claims.
* `IsCurrent.claims_eq`: what is issued at a time of the years 1970 to 9999.
* `verify_issued`: the tokens of services whose lifetimes are not too long.
-/

namespace AlertService

open Json (Rule Tree Documents shapeOf)

/-! ## The text of claims -/

namespace TokenKind

theorem takes_read : TokenKind.read.Takes fun t kind => t = .string kind.name := by
  rintro gap cs t kind rest hgap hwrites rfl hends
  refine Json.Reader.takes_choice hgap hwrites ⟨kind.name, rfl, ?_⟩ hends
  cases kind <;> rfl

end TokenKind

namespace Claims

def rules : List Rule :=
  [⟨.required "sub" .uuid, Json.Reader.MeansUuid, Json.Reader.takes_uuid⟩,
    ⟨.required "sid" .uuid, Json.Reader.MeansUuid, Json.Reader.takes_uuid⟩,
    ⟨.required "kind" TokenKind.read, _, TokenKind.takes_read⟩,
    ⟨.required "iat" .uint64, _, Json.Reader.takes_uint64⟩,
    ⟨.required "exp" .uint64, _, Json.Reader.takes_uint64⟩]

/-- The members that write the claims. -/
def tree (c : Claims) : List (String × Tree) :=
  [("sub", .string c.subject.text), ("sid", .string c.session.text), ("kind", .string c.kind.name),
    ("iat", .number (.ofInt c.issuedAt.toNat)), ("exp", .number (.ofInt c.expiresAt.toNat))]

theorem documents_toJson (c : Claims) :
    Documents (.object c.tree) (Utf8.encode c.toJson.text) :=
  Json.documents_text c.toJson

theorem meansUuid_text (u : Uuid) : Json.Reader.MeansUuid (.string u.text) u :=
  ⟨u.text, rfl, u.spells_text⟩

theorem tree_keys (c : Claims) : Json.keysOf c.tree = ["sub", "sid", "kind", "iat", "exp"] := rfl

theorem readBody_toJson (c : Claims) :
    Json.readBody shape.read (Utf8.encode c.toJson.text) = .ok c := by
  have hnames : (rules.map Rule.name).Nodup := by
    show ["sub", "sid", "kind", "iat", "exp"].Nodup
    decide
  have hinteger : ∀ n : UInt64, Json.Reader.MeansInteger (.number (.ofInt n.toNat)) n.toNat :=
    fun n => ⟨_, rfl, Json.isInteger_ofInt _⟩
  have hdescribes : Json.Describes rules false
      (c.subject, c.session, c.kind, c.issuedAt, c.expiresAt, ()) (.object c.tree) := by
    refine .object hnames (fun m hm => .inl (List.mem_map_of_mem hm))
      ⟨.inl ⟨_, .head _, meansUuid_text c.subject⟩,
        .inl ⟨_, .tail _ (.head _), meansUuid_text c.session⟩,
        .inl ⟨_, .tail _ (.tail _ (.head _)), rfl⟩,
        .inl ⟨_, .tail _ (.tail _ (.tail _ (.head _))), hinteger c.issuedAt⟩,
        .inl ⟨_, .tail _ (.tail _ (.tail _ (.tail _ (.head _)))), hinteger c.expiresAt⟩, trivial⟩
  exact Json.readBody_of_documents (Json.Shape.takes_read hnames) c.documents_toJson
    ⟨_, hdescribes, rfl⟩

/-- A reader that is for none of the claims passes over all of them. -/
theorem isSkipped_tree (c : Claims) : ∀ m ∈ c.tree, m.2.IsSkipped := by
  intro m hm
  simp only [tree, List.mem_cons, List.not_mem_nil, or_false] at hm
  rcases hm with rfl | rfl | rfl | rfl | rfl
  · exact Json.isSkipped_string _
  · exact Json.isSkipped_string _
  · exact Json.isSkipped_string _
  · exact Json.isSkipped_integer (Json.isInteger_ofInt _)
  · exact Json.isSkipped_integer (Json.isInteger_ofInt _)

end Claims

namespace TokenService

/-- The claims that say where a token is meant to be used; none is ever written. -/
def Scope.rules : List Rule :=
  Scope.shape.fields.map fun f => ⟨f, fun _ _ => False, fun _ _ _ _ _ _ _ h => h.elim⟩

theorem readBody_scope (c : Claims) :
    Json.readBody Scope.shape.read (Utf8.encode c.toJson.text) = .ok ⟨false⟩ := by
  have hnames : (Scope.rules.map Rule.name).Nodup := by
    show ["nbf", "iss", "aud"].Nodup
    decide
  have hkeys : (Json.keysOf c.tree).Nodup := by
    rw [c.tree_keys]
    decide
  have hdescribes : Json.Describes Scope.rules false ((), (), false, ()) (.object c.tree) := by
    refine .object hkeys (fun m hm => .inr ⟨rfl, c.isSkipped_tree m hm⟩) ⟨.inr ⟨?_, rfl⟩,
      .inr ⟨?_, rfl⟩, .inr ⟨?_, rfl⟩, trivial⟩
    · rw [c.tree_keys]
      decide
    · rw [c.tree_keys]
      decide
    · rw [c.tree_keys]
      decide
  exact Json.readBody_of_documents (Json.Shape.takes_read hnames) c.documents_toJson
    ⟨_, hdescribes, rfl⟩

theorem readClaims?_toJson (c : Claims) : readClaims? (Utf8.encode c.toJson.text) = some c := by
  unfold readClaims?
  rw [c.readBody_toJson, readBody_scope]
  rfl

end TokenService

/-! ## Issuing -/

theorem Instant.IsCurrent.seconds_lt {now : Instant} (h : now.IsCurrent) :
    now.seconds < 2 ^ 62 := by
  have hyear := (Date.year_ofDays (now.seconds / Instant.secondsPerDay)).1
  have hupTo := h.upTo
  unfold Instant.date at hupTo
  simp only [Instant.secondsPerDay] at *
  omega

theorem toNat_ofInt {i : Int} (h : 0 ≤ i) (hlt : i < 2 ^ 64) : ((UInt64.ofInt i).toNat : Int) = i := by
  have hmod : i % 2 ^ 64 = i := Int.emod_eq_of_lt h hlt
  have hnat : i.toNat < UInt64.size := by
    show i.toNat < 2 ^ 64
    omega
  rw [UInt64.ofInt, hmod, UInt64.toNat_ofNat_of_lt' hnat]
  exact Int.toNat_of_nonneg h

def TokenPair.half (pair : TokenPair) : TokenKind → String
  | .access => pair.access
  | .refresh => pair.refresh

namespace TokenService

variable {service : TokenService} {now : Instant} {secret : String} {access refresh : Nat}

/-- What a token says that is issued now. -/
def issued (service : TokenService) (now : Instant) (user session : Uuid) (kind : TokenKind) :
    Claims :=
  ⟨user, session, kind, UInt64.ofInt now.seconds,
    UInt64.ofInt (now.seconds + service.lifetime kind)⟩

theorem claims_eq (h : now.IsCurrent) (user session : Uuid) (kind : TokenKind) :
    service.claims now user session kind = some (service.issued now user session kind) := by
  rw [claims, h.add?_eq_some (service.lifetime_le kind)]
  rfl

theorem issuePair_eq (h : now.IsCurrent) (user session : Uuid) :
    ∃ pair, service.issuePair now user session = some pair ∧ ∀ kind, pair.half kind =
      Token.ofPayload service.secret (service.issued now user session kind).toJson.text := by
  let token kind := Token.ofPayload service.secret (service.issued now user session kind).toJson.text
  have hissue : ∀ kind, service.issue now user session kind = some (token kind) := by
    intro kind
    rw [issue, claims_eq h]
    rfl
  refine ⟨⟨token .access, token .refresh⟩, ?_, fun kind => ?_⟩
  · rw [issuePair, hissue, hissue]
    rfl
  · cases kind <;> rfl

/-- No number in the claims is cut off. -/
theorem issued_exact (h : now.IsCurrent) (user session : Uuid) (kind : TokenKind) :
    ((service.issued now user session kind).issuedAt.toNat : Int) = now.seconds ∧
      ((service.issued now user session kind).expiresAt.toNat : Int) =
        now.seconds + service.lifetime kind := by
  have hsince := h.since
  have hlt := h.seconds_lt
  have hlifetime := service.lifetime_le kind
  have hmax : maxLifetime < 2 ^ 62 := by decide
  refine ⟨toNat_ofInt hsince (by omega), toNat_ofInt (by omega) (by omega)⟩

theorem verify_ofPayload (claims : Claims) (later : Instant) (expected : TokenKind) :
    service.verify later (Token.ofPayload service.secret claims.toJson.text) expected =
      if expected = claims.kind ∧ later.seconds ≤ claims.expiresAt.toNat then some claims
      else none := by
  unfold verify
  rw [Token.verifiedPayload?_ofPayload]
  simp only [bind, Option.bind_some, readClaims?_toJson]
  exact if_congr (by rw [and_comm, eq_comm]) rfl rfl

theorem make_eq_error {e : LifetimeError} : make secret access refresh = .error e ↔
    maxLifetime < access ∧ e = ⟨.access, access⟩ ∨
      access ≤ maxLifetime ∧ maxLifetime < refresh ∧ e = ⟨.refresh, refresh⟩ := by
  unfold make
  split_ifs with ha hr
  · refine iff_of_false nofun ?_
    rintro (⟨h, -⟩ | ⟨-, h, -⟩) <;> omega
  · rw [Except.error.injEq]
    constructor
    · rintro rfl
      exact .inr ⟨ha, by omega, rfl⟩
    · rintro (⟨h, -⟩ | ⟨-, -, rfl⟩)
      · omega
      · rfl
  · rw [Except.error.injEq]
    constructor
    · rintro rfl
      exact .inl ⟨by omega, rfl⟩
    · rintro (⟨-, rfl⟩ | ⟨h, -⟩)
      · rfl
      · omega

theorem make_eq_ok (h : make secret access refresh = .ok service) :
    service.secret = secret ∧ service.accessLifetime = access ∧
      service.refreshLifetime = refresh := by
  unfold make at h
  split_ifs at h
  cases h
  exact ⟨rfl, rfl, rfl⟩

/-- A service is had unless a lifetime is longer than a hundred years, and the error names the first
such lifetime. A pair that is issued in the years 1970 to 9999 verifies under the same secret: each
half as its own kind only, until it expires, and as what was issued. A session that is opened in the
same second lapses together with the second half. -/
theorem verify_issued (secret : String) (access refresh : Nat) :
    (∀ e, make secret access refresh = .error e ↔
      maxLifetime < access ∧ e = ⟨.access, access⟩ ∨
        access ≤ maxLifetime ∧ maxLifetime < refresh ∧ e = ⟨.refresh, refresh⟩) ∧
    ∀ service, make secret access refresh = .ok service →
      service.secret = secret ∧ service.accessLifetime = access ∧
        service.refreshLifetime = refresh ∧
      ∀ now : Instant, now.IsCurrent → ∀ user session,
        ∃ pair, service.issuePair now user session = some pair ∧
          ∀ kind, ∃ claims : Claims,
            claims.subject = user ∧ claims.session = session ∧ claims.kind = kind ∧
            (claims.issuedAt.toNat : Int) = now.seconds ∧
            (claims.expiresAt.toNat : Int) = now.seconds + service.lifetime kind ∧
            (∀ (verifier : TokenService) (later : Instant) (expected : TokenKind),
              verifier.secret = secret →
                verifier.verify later (pair.half kind) expected =
                  if expected = kind ∧ later.seconds ≤ now.seconds + service.lifetime kind then
                    some claims
                  else none) ∧
            (kind = .refresh → ∀ opened : Instant, opened.seconds = now.seconds →
              service.sessionExpiry opened = some (claims.expiresAt.toNat : Int)) := by
  refine ⟨fun e => make_eq_error, fun service hservice => ?_⟩
  obtain ⟨hsecret, haccess, hrefresh⟩ := make_eq_ok hservice
  refine ⟨hsecret, haccess, hrefresh, fun now hnow user session => ?_⟩
  obtain ⟨pair, hpair, hhalf⟩ :
      ∃ pair, service.issuePair now user session = some pair ∧ ∀ kind, pair.half kind =
        Token.ofPayload service.secret (service.issued now user session kind).toJson.text :=
    issuePair_eq hnow user session
  refine ⟨pair, hpair, fun kind => ?_⟩
  obtain ⟨hissuedAt, hexpiresAt⟩ := @issued_exact service _ hnow user session kind
  refine ⟨service.issued now user session kind, rfl, rfl, rfl, hissuedAt, hexpiresAt, ?_, ?_⟩
  · intro verifier later expected hverifier
    rw [hhalf, hsecret, ← hverifier, verify_ofPayload, hexpiresAt]
    rfl
  · rintro rfl opened hopened
    have hcurrent : opened.IsCurrent := by
      obtain ⟨hsince, hupTo⟩ := hnow
      rw [← hopened] at hsince
      exact ⟨hsince, by rwa [Instant.date, hopened]⟩
    rw [sessionExpiry, hcurrent.add?_eq_some service.refresh_le, hexpiresAt, ← hopened]
    rfl

/-- A pair of a day, and both of its halves at once. -/
theorem verify_issued_day : ∃ service pair claims,
    make "secret" 3600 7200 = .ok service ∧
    service.issuePair (.ofSeconds 1700000000) (.numbered 1) (.numbered 2) = some pair ∧
    claims.expiresAt.toNat = 1700003600 ∧
    service.verify (.ofSeconds 1700000000) (pair.half .access) .access = some claims ∧
    service.verify (.ofSeconds 1700000000) (pair.half .access) .refresh = none := by
  have hcurrent : (Instant.ofSeconds 1700000000).IsCurrent := ⟨by decide, by decide⟩
  obtain ⟨hsecret, haccess, -, hissued⟩ := (verify_issued "secret" 3600 7200).2 _ rfl
  obtain ⟨pair, hpair, hkinds⟩ := hissued _ hcurrent (.numbered 1) (.numbered 2)
  obtain ⟨claims, -, -, -, -, hexpires, hverify, -⟩ := hkinds .access
  refine ⟨_, pair, claims, rfl, hpair, ?_, ?_, ?_⟩
  · have hvalue : ((Instant.ofSeconds 1700000000).seconds : Int) + (3600 : Nat) = 1700003600 := rfl
    rw [show TokenService.lifetime _ TokenKind.access = 3600 from haccess, hvalue] at hexpires
    omega
  · rw [hverify _ _ _ hsecret]
    exact if_pos ⟨rfl, by decide⟩
  · rw [hverify _ _ _ hsecret]
    exact if_neg fun h => nomatch h.1

end TokenService

end AlertService
