import AlertService.Proofs.Service.Naming
import AlertService.Proofs.Store.Texts
import AlertService.Service.Router

/-!
# Identifiers in any spelling

Of the query of a request, the service looks at the identifiers that the parameters name and at nothing
else. How an identifier is spelled there makes no difference: rows stand under its written form, and
are found under whatever is read as it.

* `Alike.respond`: requests that name the same identifiers are answered in the same way.
* `readsUpToSpelling`: with what is read as an identifier, and with the rows that are found under it.
-/

namespace AlertService.Service

variable {service : Service} {now : Instant} {caller : Uuid} {r r' : Http.Request} {w : World}
  {name label : String}

/-! ## Requests that name the same -/

/-- The requests are the same, but for queries in which the same is named. -/
structure Alike (r r' : Http.Request) : Prop where
  method : r'.method = r.method
  path : r'.target.path = r.target.path
  headers : r'.headers = r.headers
  body : r'.body = r.body
  named : ∀ name, namedId? r' name = namedId? r name

theorem alike_of_respells (h : r.Respells r') : Alike r r' := by
  have hnamed := namedId?_of_respells h
  cases h with
  | query hs hs' hparts => exact ⟨rfl, rfl, rfl, rfl, hnamed⟩

namespace Alike

theorem id (h : Alike r r') : Handler.id r' name label = Handler.id r name label := by
  funext w
  cases hid : namedId? r name with
  | none => rw [id_of_unnamed hid, id_of_unnamed ((h.named name).trans hid)]
  | some u => rw [id_of_named hid, id_of_named ((h.named name).trans hid)]

theorem claims? (h : Alike r r') (kind : TokenKind) :
    service.claims? now r' kind = service.claims? now r kind := by
  unfold Service.claims? Http.Request.bearerToken? Http.Request.header?
  rw [h.headers]

theorem authenticate (h : Alike r r') : service.authenticate now r' = service.authenticate now r := by
  unfold Service.authenticate
  rw [h.claims?]

theorem handleOpen (h : Alike r r') (e : OpenEndpoint) :
    service.handleOpen now e r' = service.handleOpen now e r := by
  cases e with
  | health => rfl
  | signUp => exact congrArg (service.signUp now) h.body
  | logIn => exact congrArg (service.logIn now) h.body
  | refresh =>
    unfold Service.handleOpen Service.refresh
    rw [h.claims?]
  | botUpdate =>
    unfold Service.handleOpen botUpdate showsSecret Http.Request.header?
    rw [h.headers, h.body]

theorem handleGuarded (h : Alike r r') (e : GuardedEndpoint) :
    service.handleGuarded now e caller r' = service.handleGuarded now e caller r := by
  cases e with
  | deleteUser | getAll k | activeGroups | allNotifications | pendingNotifications | createBatch => rfl
  | modifyUser => exact congrArg (service.modifyUser caller) h.body
  | create k => exact congrArg (service.create caller k) h.body
  | getOne k => simp only [Service.handleGuarded, getOne, entityId, h.id]
  | confirm k => simp only [Service.handleGuarded, Service.confirm, h.id]
  | modify k => simp only [Service.handleGuarded, modify, entityId, h.id, h.body]
  | delete k => simp only [Service.handleGuarded, delete, entityId, h.id]
  | membersOf => simp only [Service.handleGuarded, membersOf, entityId, h.id]
  | addMember => simp only [Service.handleGuarded, addMember, entityId, h.id]
  | removeMember => simp only [Service.handleGuarded, removeMember, entityId, h.id]
  | getNotification => simp only [Service.handleGuarded, getNotification, h.id]
  | sendBatch => simp only [Service.handleGuarded, Service.sendBatch, h.id]
  | cancelNotification => simp only [Service.handleGuarded, cancelNotification, h.id]

theorem answer (h : Alike r r') (e : Endpoint) :
    service.answer now e r' = service.answer now e r := by
  cases e with
  | anyone e => simp only [Service.answer, h.method, h.handleOpen]
  | guarded e => simp only [Service.answer, h.method, h.authenticate, h.handleGuarded]

theorem respond (h : Alike r r') (w : World) :
    service.respond now r' w = service.respond now r w := by
  simp only [Service.respond, respondUnmeasured, h.path, h.method, h.answer]

end Alike

/-! ## Up to spelling -/

/-- What stands for an identifier in the request, and in the store, does so in any spelling. -/
structure ReadsUpToSpelling (r : Http.Request) (s : Store) : Prop where
  /-- An identifier is read if the last value of the parameter writes it in any way. -/
  found : ∀ (u : Uuid) key label raw w, r.LastValue key raw → u.IsWritten raw →
    Handler.id r key label w = (.ok u, w)
  /-- It is read only if that value spells it. -/
  spelled : ∀ u key label w, (Handler.id r key label w).1 = .ok u →
    ∃ raw, r.LastValue key raw ∧ u.Spells (Http.trimmed raw)
  /-- If there is no value, or if it spells none, that is said by the label. -/
  missing : ∀ key label w, (∀ raw, r.LastValue key raw → ∀ u : Uuid, ¬u.Spells (Http.trimmed raw)) →
    Handler.id r key label w = (.error (.notFound (label ++ " not found")), w)
  /-- So all writings of the same identifiers are answered in the same way. -/
  respelled : ∀ r', r.Respells r' → ∀ (service : Service) now w,
    service.respond now r' w = service.respond now r w
  /-- The text under which an identifier is stored is one of its writings. -/
  canonical : ∀ u : Uuid, u.IsWritten u.text.toList
  /-- It is read as the identifier wherever it is stored, and no other identifier has it. -/
  reread : ∀ u : Uuid, Uuid.parse u.text = .ok u
  single : ∀ u v : Uuid, u.text = v.text → u = v
  /-- What is there under it is found again. -/
  refound : s.FindsAgain

/-- Identifiers are read up to spelling from every request, and found in every store. -/
theorem readsUpToSpelling (r : Http.Request) (s : Store) : ReadsUpToSpelling r s where
  found u key label raw w hlast hwritten := by
    apply id_of_named
    exact namedId?_eq_some.mpr ⟨raw, hlast, hwritten⟩
  spelled u key label w h := by
    cases hid : namedId? r key with
    | none =>
      rw [id_of_unnamed hid] at h
      exact nomatch h
    | some v =>
      rw [id_of_named hid] at h
      obtain rfl := Except.ok.inj h
      obtain ⟨raw, hlast, hwritten⟩ := namedId?_eq_some.mp hid
      exact ⟨raw, hlast, Uuid.spells_trimmed.mpr hwritten⟩
  missing key label w h := by
    apply id_of_unnamed
    rw [namedId?_eq_none]
    intro raw hlast u hwritten
    exact h raw hlast u (Uuid.spells_trimmed.mpr hwritten)
  respelled r' h service now w := (alike_of_respells h).respond w
  canonical := Uuid.isWritten_text
  reread := Uuid.parse_text
  single _ _ := Uuid.text_inj.mp
  refound := s.findsAgain

/-! ## The scheme in capitals -/

/-- The identifier is spelled with the scheme, if any, in small letters. -/
inductive SpellsInSmall (u : Uuid) : List Char → Prop
  | simple {cs : List Char} : Uuid.WritesDigits u.digits cs → SpellsInSmall u cs
  | hyphenated {cs : List Char} : u.Hyphenated cs → SpellsInSmall u cs
  | braced {cs : List Char} : u.Hyphenated cs → SpellsInSmall u ('\x7b' :: (cs ++ ['\x7d']))
  | urn {cs : List Char} : u.Hyphenated cs → SpellsInSmall u ("urn:uuid:".toList ++ cs)

theorem SpellsInSmall.capital_not_mem {u : Uuid} {cs : List Char} (h : SpellsInSmall u cs) :
    'U' ∉ cs := by
  have hhyphenated : ∀ {cs : List Char}, u.Hyphenated cs → 'U' ∉ cs := by
    intro cs h hmem
    rcases h.mem hmem with hhyphen | ⟨d, hd⟩
    · exact absurd hhyphen (by decide)
    · exact nomatch hd
  cases h with
  | simple h =>
    intro hmem
    obtain ⟨d, hd⟩ := Uuid.exists_hexValue? h hmem
    exact nomatch hd
  | hyphenated h => exact hhyphenated h
  | braced h => simpa using hhyphenated h
  | urn h =>
    rw [List.mem_append, not_or]
    exact ⟨by decide, hhyphenated h⟩

/-- A request with the scheme of a spelling in capitals. -/
def capitals : Http.Request where
  method := "PUT"
  target := ⟨"/recipients/confirmCreation",
    some "draft_id=URN:UUID:a1b2c3d4-e5f6-4a5b-8c9d-0e1f2a3b4c5d"⟩
  headers := []
  body := []

/-- An identifier is read there all the same. -/
theorem id_capitals : ∃ u, (Handler.id capitals "draft_id" "recipient draft" .fresh).1 = .ok u ∧
    ¬∃ raw, capitals.LastValue "draft_id" raw ∧ SpellsInSmall u (Http.trimmed raw) := by
  have htext : capitals.query.get? "draft_id" =
      some "URN:UUID:a1b2c3d4-e5f6-4a5b-8c9d-0e1f2a3b4c5d" := by
    decide +kernel
  have hnamed : (namedId? capitals "draft_id").isSome = true := by
    decide +kernel
  obtain ⟨u, hu⟩ := Option.isSome_iff_exists.mp hnamed
  refine ⟨u, congrArg Prod.fst (id_of_named hu), ?_⟩
  rintro ⟨raw, hlast, h⟩
  have hraw := Http.Request.query_get?.mpr ⟨raw, hlast, rfl⟩
  rw [htext] at hraw
  apply h.capital_not_mem
  rw [Http.trimmed, ← Option.some.inj hraw]
  decide

end AlertService.Service
