import AlertService.Proofs.Crypto.Base64
import AlertService.Proofs.Http.Bearer
import AlertService.Token.Service

/-!
# What a verified token says

* `verifiedPayload?_ofPayload`: a payload that is signed is found again under the same secret.
* `bears_ofPayload`: it can be brought in a header of a request.
* `verify_eq_some`: when a token is verified, and what it says then.
* `session_of_verify`: of the session it says what everyone can read in it.
* `verify_other`: no token is verified as both halves of a pair, at whatever times.
-/

namespace AlertService

variable {token secret : String} {payload : Bytes} {session : Uuid}

/-- The payload of the token, signed or not, names the session. -/
def Token.Names (token : String) (session : Uuid) : Prop :=
  ∃ payload claims, payload? token = some payload ∧
    TokenService.readClaims? payload = some claims ∧ claims.session = session

theorem Token.payload?_of_verified (h : verifiedPayload? secret token = some payload) :
    payload? token = some payload := by
  simp only [verifiedPayload?, bind, Option.bind_eq_some_iff] at h
  obtain ⟨⟨message, signature⟩, hmessage, ⟨header, part⟩, hpart, h⟩ := h
  simp only [Option.ite_none_right_eq_some] at h
  simp only [payload?, bind, Option.bind_eq_some_iff]
  exact ⟨(message, signature), hmessage, (header, part), hpart, h.2⟩

/-! ## Signed payloads -/

theorem Base64.reads_urlSafe : Alphabet.urlSafe.Reads := by
  unfold Alphabet.Reads
  decide

/-- There are only visible characters in base 64, and no points, so that these divide a token. -/
theorem Base64.graphic_of_mem_encode {bs : Bytes} {c : Char} (h : c ∈ encode .urlSafe bs) :
    Http.IsGraphic c ∧ c ≠ '.' := by
  have hchar : ∀ n < 64, (32 < (Alphabet.urlSafe.char n).toNat ∧
      (Alphabet.urlSafe.char n).toNat < 127) ∧ Alphabet.urlSafe.char n ≠ '.' := by decide
  rw [encode_eq_map, List.mem_map] at h
  obtain ⟨n, hn, rfl⟩ := h
  exact hchar n (sextets_lt bs n hn)

theorem Token.cutLast?_append {before after : List Char} (h : '.' ∉ after) :
    cutLast? (before ++ '.' :: after) = some (before, after) := by
  have hpoint : ∀ c ∈ after.reverse, decide (c ≠ '.') = true := by
    intro c hc
    exact decide_eq_true fun he => h (he ▸ List.mem_reverse.mp hc)
  have hreverse : (before ++ '.' :: after).reverse = after.reverse ++ '.' :: before.reverse := by
    simp
  simp only [cutLast?, hreverse, List.dropWhile_append_of_pos hpoint,
    List.takeWhile_append_of_pos hpoint]
  simp

theorem Token.verifiedPayload?_ofPayload (secret payload : String) :
    verifiedPayload? secret (ofPayload secret payload) = some (Utf8.encode payload) := by
  have hheader : acceptsHeader (encodeText issuedHeader.text) = true := by decide +kernel
  have hpayload : Base64.decode? .urlSafe (encodeText payload) = some (Utf8.encode payload) :=
    Base64.decode?_encode Base64.reads_urlSafe _
  have hmessage : '.' ∉ encodeText payload := fun h => (Base64.graphic_of_mem_encode h).2 rfl
  have hsignature : ∀ message, '.' ∉ sign secret message := fun _ h =>
    (Base64.graphic_of_mem_encode h).2 rfl
  simp only [verifiedPayload?, ofPayload, String.toList_ofList, cutLast?_append (hsignature _),
    Option.bind_eq_bind, Option.bind_some, cutLast?_append hmessage, hheader, hpayload, decide_true,
    Bool.and_self, if_true]

/-- A signed payload can be brought in a header. -/
theorem Token.bears_ofPayload (secret payload : String) {r : Http.Request}
    (hr : r.headers =
      [("authorization", Http.headerBytes ("Bearer " ++ ofPayload secret payload))]) :
    r.Bears (ofPayload secret payload) := by
  have hpoint : Http.IsGraphic '.' := by
    unfold Http.IsGraphic
    decide
  refine Http.bears_of_header (fun c hc => ?_) (fun hempty => ?_) hr
  · simp only [ofPayload, String.toList_ofList, List.mem_append, List.mem_cons] at hc
    rcases hc with (hc | rfl | hc) | rfl | hc
    · exact (Base64.graphic_of_mem_encode hc).1
    · exact hpoint
    · exact (Base64.graphic_of_mem_encode hc).1
    · exact hpoint
    · exact (Base64.graphic_of_mem_encode hc).1
  · rw [← String.toList_inj, ofPayload, String.toList_ofList] at hempty
    simp at hempty

/-! ## Claims -/

namespace TokenService

variable {service : TokenService} {now now' : Instant} {kind kind' : TokenKind}
  {claims claims' : Claims}

theorem verify_eq_some : service.verify now token kind = some claims ↔
    ∃ payload, Token.verifiedPayload? service.secret token = some payload ∧
      readClaims? payload = some claims ∧ now.seconds ≤ claims.expiresAt.toNat ∧
        claims.kind = kind := by
  simp only [verify, bind, Option.bind_eq_some_iff, Option.ite_none_right_eq_some,
    Option.some.injEq]
  constructor
  · rintro ⟨payload, hpayload, claims, hclaims, ⟨hnow, hkind⟩, rfl⟩
    exact ⟨payload, hpayload, hclaims, hnow, hkind⟩
  · rintro ⟨payload, hpayload, hclaims, hnow, hkind⟩
    exact ⟨payload, hpayload, claims, hclaims, ⟨hnow, hkind⟩, rfl⟩

/-- A token says the same whenever it is verified. -/
theorem verify_unique (h : service.verify now token kind = some claims)
    (h' : service.verify now' token kind' = some claims') : claims = claims' := by
  obtain ⟨payload, hpayload, hclaims, -⟩ := verify_eq_some.mp h
  obtain ⟨payload', hpayload', hclaims', -⟩ := verify_eq_some.mp h'
  obtain rfl := Option.some.inj (hpayload.symm.trans hpayload')
  exact Option.some.inj (hclaims.symm.trans hclaims')

theorem kind_of_verify (h : service.verify now token kind = some claims) :
    claims.kind = kind := by
  obtain ⟨-, -, -, -, hkind⟩ := verify_eq_some.mp h
  exact hkind

/-- A token is one half of a pair only. -/
theorem verify_other (h : service.verify now token kind = some claims) (hkind : kind' ≠ kind) :
    service.verify now' token kind' = none := by
  refine Option.eq_none_iff_forall_ne_some.mpr fun claims' h' => hkind ?_
  rw [← kind_of_verify h, ← kind_of_verify h', verify_unique h h']

theorem session_of_verify (hnames : Token.Names token session)
    (h : service.verify now token kind = some claims) : claims.session = session := by
  obtain ⟨payload, hpayload, hclaims, -⟩ := verify_eq_some.mp h
  obtain ⟨payload', claims', hpayload', hclaims', rfl⟩ := hnames
  obtain rfl := Option.some.inj ((Token.payload?_of_verified hpayload).symm.trans hpayload')
  rw [Option.some.inj (hclaims.symm.trans hclaims')]

end TokenService

end AlertService
