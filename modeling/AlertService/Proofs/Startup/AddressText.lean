import AlertService.Proofs.Startup.Address
import AlertService.Proofs.Text.Digits
import Mathlib.Algebra.Group.Nat.Defs

/-!
# The text of an address

What is written for an address spells it: the longest run of zero groups, which is left out, is put
back when the text is read.

* `isValid_of_spells`: what is spelled has numbers of the right sizes.
* `spells_text`: the text of such an address.
* `port_of_spells`: the port is what stands after the last colon.
-/

namespace AlertService.Address

def port : Address → Nat
  | .v4 _ port => port
  | .v6 _ _ port => port

variable {base n g port start size : Nat} {os gs hs ts : List Nat} {cs ds : List Char}
  {first octets : Bool} {a : Address}

/-- The numbers are as many as they should be, and each of them fits in its place. -/
def IsValid : Address → Prop
  | .v4 os port => os.length = 4 ∧ (∀ n ∈ os, n < 256) ∧ port < UInt16.size
  | .v6 gs scope port => gs.length = 8 ∧ (∀ g ∈ gs, g < UInt16.size) ∧ scope < UInt32.size ∧
      port < UInt16.size

/-! ## Sizes -/

theorem digit?_lt {c : Char} {d : Nat} (h : digit? base c = some d) : d < base := by
  obtain ⟨v, -, hv⟩ := Option.bind_eq_some_iff.mp h
  split_ifs at hv with hlt
  exact (Option.some.inj hv) ▸ hlt

theorem foldl_digits_lt (h : ∀ d ∈ os, d < base) :
    os.foldl (fun n d => n * base + d) n < (n + 1) * base ^ os.length := by
  induction os generalizing n with
  | nil =>
    rw [List.length_nil, Nat.pow_zero, Nat.mul_one]
    exact Nat.lt_succ_self n
  | cons d os ih =>
    obtain ⟨hd, hos⟩ := List.forall_mem_cons.mp h
    have hrest := ih (n := n * base + d) hos
    have hfirst : n * base + d + 1 ≤ (n + 1) * base := by
      rw [Nat.add_mul, Nat.one_mul]
      omega
    rw [List.foldl_cons, List.length_cons, Nat.pow_succ']
    calc _ < (n * base + d + 1) * base ^ os.length := hrest
      _ ≤ (n + 1) * base * base ^ os.length := Nat.mul_le_mul_right _ hfirst
      _ = (n + 1) * (base * base ^ os.length) := Nat.mul_assoc _ _ _

theorem IsNumeral.lt (h : IsNumeral base n cs) : n < base ^ cs.length := by
  have hdigits : ∀ d ∈ cs.filterMap (digit? base), d < base := by
    intro d hd
    obtain ⟨c, -, hc⟩ := List.mem_filterMap.mp hd
    exact digit?_lt hc
  have hlt := foldl_digits_lt (n := 0) hdigits
  rw [length_digits h.digits, Nat.zero_add, Nat.one_mul] at hlt
  rw [h.value]
  exact hlt

theorem IsGroup.lt (h : IsGroup g cs) : g < UInt16.size :=
  Nat.lt_of_lt_of_le h.numeral.lt (Nat.pow_le_pow_right (by decide) h.length)

theorem IsOctets.sizes (h : IsOctets os cs) : os.length = 4 ∧ ∀ n ∈ os, n < 256 := by
  cases h with
  | points ha hb hc hd =>
    refine ⟨rfl, ?_⟩
    simp only [List.forall_mem_cons]
    exact ⟨ha.lt, hb.lt, hc.lt, hd.lt, nofun⟩

theorem IsGroups.sizes (h : IsGroups first octets gs cs) : ∀ g ∈ gs, g < UInt16.size := by
  induction h with
  | none => exact nofun
  | octets hos =>
    cases hos with
    | points ha hb hc hd =>
      have ha := ha.lt
      have hb := hb.lt
      have hc := hc.lt
      have hd := hd.lt
      simp only [groupsOfOctets, List.forall_mem_cons, UInt16.size]
      exact ⟨by omega, by omega, nofun⟩
  | group hgroup _ ih => exact List.forall_mem_cons.mpr ⟨hgroup.lt, ih⟩

theorem IsEight.sizes (h : IsEight gs cs) : gs.length = 8 ∧ ∀ g ∈ gs, g < UInt16.size := by
  cases h with
  | full hgroups hlength => exact ⟨hlength, hgroups.sizes⟩
  | short hhead htail hlength =>
    refine ⟨?_, fun g hg => ?_⟩
    · simp only [List.length_append, List.length_replicate]
      omega
    · simp only [List.mem_append] at hg
      rcases hg with (hg | hg) | hg
      · exact hhead.sizes g hg
      · rw [List.eq_of_mem_replicate hg]
        decide
      · exact htail.sizes g hg

theorem isValid_of_spells (h : a.Spells cs) : a.IsValid := by
  cases h with
  | v4 hos hport => exact ⟨hos.sizes.1, hos.sizes.2, hport.lt⟩
  | v6 hgs hscope hport =>
    refine ⟨hgs.sizes.1, hgs.sizes.2, ?_, hport.lt⟩
    cases hscope with
    | none => decide
    | some _ hlt => exact hlt

theorem IsValid.port_lt (h : a.IsValid) : a.port < UInt16.size := by
  cases a with
  | v4 => exact h.2.2
  | v6 => exact h.2.2.2

/-! ## Digits -/

theorem IsNumeral.concat {c : Char} {d : Nat} (h : IsNumeral base n cs)
    (hc : digit? base c = some d) : IsNumeral base (n * base + d) (cs ++ [c]) where
  ne_nil := List.concat_ne_nil c cs
  digits := List.forall_mem_append.mpr
    ⟨h.digits, List.forall_mem_singleton.mpr (by rw [hc]; rfl)⟩
  value := by
    rw [List.filterMap_append, List.foldl_append, ← h.value, List.filterMap_cons_some hc]
    rfl

theorem digit?_digitChar {d : Nat} (hbase : base ≤ 16) (h : d < base) :
    digit? base (Nat.digitChar d) = some d := by
  have hvalue : ∀ d (h : d < 16), Text.hexValue? (Nat.digitChar d) = some ⟨d, h⟩ := by decide
  rw [digit?, hvalue d (Nat.lt_of_lt_of_le h hbase), Option.bind_some, if_pos h]

theorem isNumeral_toDigits (hlow : 1 < base) (hbase : base ≤ 16) (n : Nat) :
    IsNumeral base n (Nat.toDigits base n) := by
  induction n using Nat.strongRecOn with
  | ind n ih =>
    rw [Nat.toDigits_eq_if hlow]
    split_ifs with hn
    · have hdigit := digit?_digitChar hbase hn
      refine ⟨List.cons_ne_nil _ _, List.forall_mem_singleton.mpr (by rw [hdigit]; rfl), ?_⟩
      rw [List.filterMap_cons_some hdigit]
      simp
    · have hlt : n / base < n := Nat.div_lt_self (by omega) hlow
      have hlast := (ih (n / base) hlt).concat
        (digit?_digitChar hbase (Nat.mod_lt n (by omega : base > 0)))
      rwa [Nat.div_add_mod'] at hlast

theorem isOctet_toDigits (h : n < 256) : IsOctet n (Nat.toDigits 10 n) where
  numeral := isNumeral_toDigits (by decide) (by decide) n
  length := (Nat.length_toDigits_le_iff (by decide) (by decide)).mpr (by omega)
  front hzero := by
    rw [(Text.toDigits_spec n).2.2 hzero]
    rfl
  lt := h

theorem isGroup_toDigits (h : g < UInt16.size) : IsGroup g (Nat.toDigits 16 g) where
  numeral := isNumeral_toDigits (by decide) (by decide) g
  length := (Nat.length_toDigits_le_iff (by decide) (by decide)).mpr h

theorem isPort_toDigits (h : port < UInt16.size) : IsPort port (Nat.toDigits 10 port) where
  numeral := isNumeral_toDigits (by decide) (by decide) port
  lt := h

/-! ## Groups -/

theorem toList_joinWith (mark : String) (gs : List Nat) (base : Nat) :
    (joinWith mark gs base).toList = mark.toList.intercalate (gs.map (Nat.toDigits base)) := by
  rw [joinWith, String.toList_intercalate, List.map_map]
  refine congrArg _ (List.map_congr_left fun n _ => ?_)
  exact String.toList_ofList

theorem isOctets_joinWith (hlength : os.length = 4) (h : ∀ n ∈ os, n < 256) :
    IsOctets os (joinWith "." os 10).toList := by
  match os, hlength with
  | [a, b, c, d], _ =>
    simp only [List.forall_mem_cons] at h
    obtain ⟨ha, hb, hc, hd, -⟩ := h
    rw [toList_joinWith]
    have hpoints := IsOctets.points (isOctet_toDigits ha) (isOctet_toDigits hb) (isOctet_toDigits hc)
      (isOctet_toDigits hd)
    simpa [List.intercalate_cons_cons] using hpoints

theorem isGroups_append (h : ∀ g ∈ hs, g < UInt16.size) (hcs : IsGroups false octets gs cs) :
    IsGroups false octets (hs ++ gs) (hs.flatMap (fun g => ':' :: Nat.toDigits 16 g) ++ cs) := by
  induction hs with
  | nil => exact hcs
  | cons g hs ih =>
    obtain ⟨hg, hhs⟩ := List.forall_mem_cons.mp h
    have hgroup : IsGroups false octets (g :: (hs ++ gs)) _ :=
      .group (isGroup_toDigits hg) (ih hhs)
    rw [List.flatMap_cons, List.append_assoc]
    exact hgroup

theorem intercalate_colon (cs : List Char) (gs : List Nat) :
    ":".toList.intercalate (cs :: gs.map (Nat.toDigits 16)) =
      cs ++ gs.flatMap fun g => ':' :: Nat.toDigits 16 g := by
  induction gs generalizing cs with
  | nil => simp [List.intercalate]
  | cons g gs ih =>
    rw [List.map_cons, List.intercalate_cons_cons, ih, List.flatMap_cons, List.append_assoc]
    rfl

theorem isGroups_joinWith (h : ∀ g ∈ gs, g < UInt16.size) :
    IsGroups true false gs (joinWith ":" gs 16).toList := by
  rw [toList_joinWith]
  cases gs with
  | nil => exact .none
  | cons g gs =>
    obtain ⟨hg, hgs⟩ := List.forall_mem_cons.mp h
    have hgroups : IsGroups true false (g :: (gs ++ [])) _ :=
      .group (isGroup_toDigits hg) (isGroups_append hgs .none)
    rw [List.append_nil, List.append_nil] at hgroups
    rw [List.map_cons, intercalate_colon]
    exact hgroups

/-- The longest run of zeros is one. -/
theorem exists_longestRun (start : Nat) (gs : List Nat) : ∃ hs ts,
    gs = hs ++ List.replicate (longestRun start gs).2 0 ++ ts ∧
      (longestRun start gs).1 = start + hs.length := by
  induction gs generalizing start with
  | nil => exact ⟨[], [], rfl, rfl⟩
  | cons g gs ih =>
    rw [longestRun]
    split_ifs with hlater
    · have hzeros : (g :: gs).takeWhile (· = 0) =
          List.replicate (zeroRun (g :: gs)) 0 :=
        List.eq_replicate_of_mem fun n hn => by simpa using List.mem_takeWhile_imp hn
      refine ⟨[], (g :: gs).dropWhile (· = 0), ?_, rfl⟩
      rw [List.nil_append, ← hzeros, List.takeWhile_append_dropWhile]
    · obtain ⟨hs, ts, hgs, hstart⟩ := ih (start + 1)
      refine ⟨g :: hs, ts, ?_, ?_⟩
      · rw [List.cons_append, List.cons_append, ← hgs]
      · rw [hstart, List.length_cons]
        omega

/-- The last two of the groups that stand for four numbers are written as these. -/
theorem isEight_mapped {x y : Nat} (hx : x < UInt16.size) (hy : y < UInt16.size) :
    IsEight [0, 0, 0, 0, 0, 0xffff, x, y]
      ("::ffff:" ++ joinWith "." [x / 256, x % 256, y / 256, y % 256] 10).toList := by
  simp only [UInt16.size] at hx hy
  have hos : IsOctets [x / 256, x % 256, y / 256, y % 256]
      (joinWith "." [x / 256, x % 256, y / 256, y % 256] 10).toList := by
    refine isOctets_joinWith rfl ?_
    simp only [List.forall_mem_cons]
    exact ⟨by omega, by omega, by omega, by omega, nofun⟩
  have hlast : IsGroups false true (groupsOfOctets _) _ := .octets hos
  rw [groupsOfOctets, Nat.div_add_mod', Nat.div_add_mod'] at hlast
  have htail : IsGroups true true [0xffff, x, y] _ := .group (isGroup_toDigits (by decide)) hlast
  have hshort := IsEight.short .none htail (show 0 + 3 < 8 by decide)
  rw [String.toList_append]
  exact hshort

theorem isEight_groupsText (hlength : gs.length = 8) (h : ∀ g ∈ gs, g < UInt16.size) :
    IsEight gs (groupsText gs).toList := by
  unfold groupsText
  split
  · simp only [List.forall_mem_cons] at h
    obtain ⟨-, -, -, -, -, -, hx, hy, -⟩ := h
    exact isEight_mapped hx hy
  · obtain ⟨hs, ts, hgs, hstart⟩ := exists_longestRun 0 gs
    rcases hrun : longestRun 0 gs with ⟨start, size⟩
    rw [hrun] at hgs hstart
    obtain rfl : start = hs.length := hstart.trans (Nat.zero_add _)
    dsimp only
    split_ifs
    · have htake : gs.take hs.length = hs := by
        rw [hgs, List.append_assoc, List.take_left]
      have hdrop : gs.drop (hs.length + size) = ts := by
        rw [hgs]
        exact List.drop_left' (by rw [List.length_append, List.length_replicate])
      have hzeros : 8 - hs.length - ts.length = size := by
        simp only [hgs, List.length_append, List.length_replicate] at hlength
        omega
      have hmem : ∀ g, g ∈ hs ∨ g ∈ ts → g < UInt16.size := by
        intro g hg
        refine h g ?_
        simp only [hgs, List.mem_append]
        tauto
      have hshort := IsEight.short (isGroups_joinWith fun g hg => hmem g (.inl hg))
        (isGroups_joinWith fun g hg => hmem g (.inr hg)) (by omega)
      rw [hzeros, ← hgs] at hshort
      rw [htake, hdrop, String.toList_append, String.toList_append, List.append_assoc]
      exact hshort
    · exact .full (isGroups_joinWith h) hlength

/-! ## The whole text -/

theorem toList_toString (n : Nat) : (toString n).toList = Nat.toDigits 10 n := by
  rw [Nat.toString_eq_ofList_toDigits, String.toList_ofList]

def scopeText (scope : Nat) : String := if scope = 0 then "" else "%" ++ toString scope

theorem isScope_scopeText {scope : Nat} (h : scope < UInt32.size) :
    IsScope scope (scopeText scope).toList := by
  unfold scopeText
  split_ifs with hzero
  · exact hzero ▸ .none
  · rw [String.toList_append, toList_toString]
    exact .some (isNumeral_toDigits (by decide) (by decide) scope) h

/-- The text without the last colon and the port after it. -/
def hostText : Address → String
  | .v4 os _ => joinWith "." os 10
  | .v6 gs scope _ => "[" ++ groupsText gs ++ scopeText scope ++ "]"

theorem text_eq (a : Address) : a.text = a.hostText ++ ":" ++ toString a.port := by
  cases a with
  | v4 => rfl
  | v6 gs scope port =>
    refine String.toList_inj.mp ?_
    simp [text, hostText, scopeText, Address.port]

theorem spells_text (h : a.IsValid) : a.Spells a.text.toList := by
  rw [text_eq, String.toList_append, String.toList_append, toList_toString]
  cases a with
  | v4 os port =>
    obtain ⟨hlength, hos, hport⟩ := h
    have hspells := Spells.v4 (isOctets_joinWith hlength hos) (isPort_toDigits hport)
    rw [List.append_assoc]
    exact hspells
  | v6 gs scope port =>
    obtain ⟨hlength, hgs, hscope, hport⟩ := h
    have hspells := Spells.v6 (isEight_groupsText hlength hgs) (isScope_scopeText hscope)
      (isPort_toDigits hport)
    simpa [hostText, Address.port] using hspells

/-- Only one number is written after the last colon. -/
theorem IsNumeral.unique_last {m : Nat} {es : List Char} (hn : IsNumeral 10 n ds)
    (hm : IsNumeral 10 m es) {fs : List Char} (h : cs ++ ':' :: ds = fs ++ ':' :: es) : n = m := by
  -- read from the back, the digits end at the colon
  have hends : ∀ hs, Ends 10 (':' :: hs) := fun hs => ends_cons (by decide)
  have hreverse : ds.reverse ++ ':' :: cs.reverse = es.reverse ++ ':' :: fs.reverse := by
    simpa using congrArg List.reverse h
  obtain ⟨hsame, -⟩ := digits_unique hreverse
    (fun c hc => hn.digits c (List.mem_reverse.mp hc)) (hends _)
    (fun c hc => hm.digits c (List.mem_reverse.mp hc)) (hends _)
  obtain rfl : ds = es := List.reverse_inj.mp hsame
  exact hn.value.trans hm.value.symm

theorem port_of_spells (h : a.Spells (cs ++ ':' :: Nat.toDigits 10 n)) : a.port = n := by
  have hn : IsNumeral 10 n (Nat.toDigits 10 n) := isNumeral_toDigits (by decide) (by decide) n
  generalize htext : cs ++ ':' :: Nat.toDigits 10 n = text at h
  cases h with
  | v4 _ hport => exact hport.numeral.unique_last hn htext.symm
  | @v6 gs scope port as bs ds _ _ hport =>
    have hsplit : '[' :: (as ++ (bs ++ ']' :: ':' :: ds)) =
        '[' :: (as ++ (bs ++ [']'])) ++ ':' :: ds := by
      simp
    exact hport.numeral.unique_last hn (hsplit.symm.trans htext.symm)

end AlertService.Address
