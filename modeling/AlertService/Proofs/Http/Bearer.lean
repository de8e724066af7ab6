import AlertService.Http.Request
import AlertService.Proofs.Text.Blank

/-!
# The token of a request

* `Request.Bears`: what it is for a request to bring a token.
* `bearerToken?_eq_some`: that is the token which is read.
* `bears_of_header`: a token of visible characters is brought in a header.
-/

namespace AlertService.Http

/-- What is read as the token in a text: the word `Bearer` that it may begin with and the blanks
around what follows are not part of it. -/
def Holds (text token : String) : Prop :=
  ∃ rest, (text.toList = "Bearer ".toList ++ rest ∨
      ¬"Bearer ".toList <+: text.toList ∧ text.toList = rest) ∧
    token.toList = Text.trim rest ∧ token ≠ ""

/-- The first header with the name `authorization`, in any case of the letters, is text, and the
text holds the token. -/
def Request.Bears (r : Request) (token : String) : Prop :=
  ∃ before name value after text, r.headers = before ++ (name, value) :: after ∧
    (∀ h ∈ before, h.1.toLower ≠ "authorization") ∧ name.toLower = "authorization" ∧
    headerText? value = some text ∧ Holds text token

variable {r : Request} {text token : String}

/-- The rest of a text after the word is told by whether it begins with it. -/
theorem rest_of_word {word cs rest : List Char} :
    (if word.isPrefixOf cs then cs.drop word.length else cs) = rest ↔
      cs = word ++ rest ∨ ¬word <+: cs ∧ cs = rest := by
  by_cases hword : word <+: cs
  · obtain ⟨tail, rfl⟩ := hword
    simp
  · have hnot : word.isPrefixOf cs = false :=
      Bool.eq_false_iff.mpr fun h => hword (List.isPrefixOf_iff_prefix.mp h)
    have hne : cs ≠ word ++ rest := fun h => hword ⟨rest, h.symm⟩
    simp [hnot, hword, hne]

theorem bearerToken?_text_eq_some : bearerToken? text = some token ↔ Holds text token := by
  have hempty : ∀ cs : List Char, (if cs.isEmpty then none else some (String.ofList cs)) =
      some token ↔ token.toList = cs ∧ token ≠ "" := by
    intro cs
    cases cs with
    | nil => simp
    | cons c cs =>
      simp only [List.isEmpty_cons, Bool.false_eq_true, if_false, Option.some.injEq]
      constructor
      · rintro rfl
        simp [← String.toList_inj]
      · rintro ⟨h, -⟩
        rw [← h, String.ofList_toList]
  unfold bearerToken? Holds
  dsimp only
  rw [hempty]
  constructor
  · rintro ⟨htrim, hne⟩
    exact ⟨_, rest_of_word.mp rfl, htrim, hne⟩
  · rintro ⟨rest, hrest, htrim, hne⟩
    exact ⟨by rw [htrim, rest_of_word.mpr hrest], hne⟩

theorem toLower_authorization : "authorization".toLower = "authorization" := by
  rw [← String.toList_inj]
  exact (String.toList_map ..).trans (by decide)

/-- The token that is read from a request is the one that it brings. -/
theorem bearerToken?_eq_some : r.bearerToken? = some token ↔ r.Bears token := by
  simp only [Request.bearerToken?, Request.header?, toLower_authorization, Option.bind_eq_some_iff,
    List.find?_eq_some_iff_append, bearerToken?_text_eq_some]
  constructor
  · rintro ⟨text, ⟨⟨name, value⟩, ⟨hfirst, before, after, hheaders, hbefore⟩, htext⟩, hholds⟩
    refine ⟨before, name, value, after, text, hheaders, fun h hh => ?_, ?_, htext, hholds⟩
    · simpa using hbefore h hh
    · simpa using hfirst
  · rintro ⟨before, name, value, after, text, hheaders, hbefore, hfirst, htext, hholds⟩
    refine ⟨text, ⟨(name, value), ⟨decide_eq_true hfirst, before, after, hheaders, fun h hh => ?_⟩,
      htext⟩, hholds⟩
    simpa using hbefore h hh

/-! ## Tokens in headers -/

/-- A visible character of ASCII. -/
def IsGraphic (c : Char) : Prop := 32 < c.toNat ∧ c.toNat < 127

/-- The bytes of a text of ASCII. -/
def headerBytes (text : String) : Bytes := text.toList.map fun c => UInt8.ofNat c.toNat

theorem headerText?_headerBytes (h : ∀ c ∈ text.toList, 32 ≤ c.toNat ∧ c.toNat < 127) :
    headerText? (headerBytes text) = some text := by
  have hbyte : ∀ c ∈ text.toList, (UInt8.ofNat c.toNat).toNat = c.toNat := by
    intro c hc
    have hlt := (h c hc).2
    rw [UInt8.toNat_ofNat']
    omega
  have hvisible : (headerBytes text).all isVisible = true := by
    refine List.all_eq_true.mpr fun b hb => ?_
    obtain ⟨c, hc, rfl⟩ := List.mem_map.mp hb
    have hc' := h c hc
    have hlow : (32 : UInt8) ≤ UInt8.ofNat c.toNat := by
      rw [UInt8.le_iff_toNat_le, hbyte c hc]
      exact hc'.1
    have hhigh : UInt8.ofNat c.toNat < 127 := by
      rw [UInt8.lt_iff_toNat_lt, hbyte c hc]
      exact hc'.2
    simp only [isVisible, hlow, hhigh, decide_true, Bool.and_self, Bool.true_or]
  have hchars : (headerBytes text).map (fun b => Char.ofNat b.toNat) = text.toList := by
    rw [headerBytes, List.map_map]
    refine (List.map_congr_left fun c hc => ?_).trans (List.map_id _)
    rw [Function.comp_apply, hbyte c hc, Char.ofNat_toNat, id]
  rw [headerText?, if_pos hvisible, hchars, String.ofList_toList]

/-- There is nothing to be cut off where there are no blanks. -/
theorem trim_of_graphic {cs : List Char} (h : ∀ c ∈ cs, IsGraphic c) : Text.trim cs = cs := by
  refine Text.trim_eq_self fun c hc => Bool.eq_false_iff.mpr fun hblank => ?_
  obtain ⟨hlow, hhigh⟩ := h c hc
  simp only [Text.isBlank, Bool.or_eq_true, Bool.and_eq_true, decide_eq_true_eq, beq_iff_eq] at hblank
  omega

theorem bears_of_header (h : ∀ c ∈ token.toList, IsGraphic c) (hne : token ≠ "")
    (hr : r.headers = [("authorization", headerBytes ("Bearer " ++ token))]) : r.Bears token := by
  have hword : "Bearer ".toList.all (fun c => 32 ≤ c.toNat ∧ c.toNat < 127) = true := by decide
  have htext : headerText? (headerBytes ("Bearer " ++ token)) = some ("Bearer " ++ token) := by
    refine headerText?_headerBytes fun c hc => ?_
    rw [String.toList_append] at hc
    rcases List.mem_append.mp hc with hc | hc
    · exact of_decide_eq_true (List.all_eq_true.mp hword c hc)
    · exact ⟨Nat.le_of_lt (h c hc).1, (h c hc).2⟩
  have hholds : Holds ("Bearer " ++ token) token :=
    ⟨token.toList, .inl String.toList_append, (trim_of_graphic h).symm, hne⟩
  exact ⟨[], _, _, [], _, hr, fun _ hmem => absurd hmem List.not_mem_nil, toLower_authorization, htext,
    hholds⟩

/-- A request brings one token at most. -/
theorem Request.Bears.unique {token' : String} (h : r.Bears token) (h' : r.Bears token') :
    token = token' :=
  Option.some.inj ((bearerToken?_eq_some.mpr h).symm.trans (bearerToken?_eq_some.mpr h'))

end AlertService.Http
