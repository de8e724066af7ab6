import AlertService.Proofs.Json.Declared

/-!
# Trees that conform to a declaration

The declared fields of a record say which trees conform to it. What is written for the record again
is what the tree gives its fields.

* `exists_describes`: a record can be read from the trees that conform to its declaration.
* `keeps_of_describes`: it is written with what the tree gives its fields, and with nothing else.
* `written_of_keeps`: that leaves one record only.
-/

namespace AlertService.Json

/-- What the tree gives the field: the member with its name, or the item in its place. -/
inductive Tree.Gives (ds : List Declared) : Tree → Declared → Tree → Prop
  | member {ms : List (String × Tree)} {d : Declared} {t : Tree} :
      d ∈ ds → (d.name, t) ∈ ms → Gives ds (.object ms) d t
  | item {ts : List Tree} {d : Declared} {t : Tree} : (d, t) ∈ ds.zip ts → Gives ds (.list ts) d t

/-- An object conforms whose members are declared, each once and right, and are all that is
required; so does a list whose items are right in their order and that leaves out only fields at the
end that are not required. -/
inductive Tree.Conforms (ds : List Declared) : Tree → Prop
  | object {ms : List (String × Tree)} : (keysOf ms).Nodup →
      (∀ m ∈ ms, ∃ d ∈ ds, d.name = m.1 ∧ d.Allows m.2) →
      (∀ d ∈ ds, d.required = true → d.name ∈ keysOf ms) → Conforms ds (.object ms)
  | list {ts : List Tree} : ts.length ≤ ds.length → (∀ x ∈ ds.zip ts, x.1.Allows x.2) →
      (∀ d ∈ ds.drop ts.length, d.required = false) → Conforms ds (.list ts)

/-- The members are what the tree gives the fields, in the order in which these are declared. -/
structure Tree.Keeps (ds : List Declared) (t : Tree) (js : List (String × Json)) : Prop where
  order : (js.map Prod.fst).Sublist (ds.map Declared.name)
  members : ∀ key j, (key, j) ∈ js ↔ ∃ d v, t.Gives ds d v ∧ d.name = key ∧ d.type.Accepts v j

abbrev rulesOf (ds : List Declared) : List Rule := ds.map Declared.rule

/-- The members that write the values. -/
def written : (ds : List Declared) → Values (fieldsOf (rulesOf ds)) → List (String × Json)
  | [], _ => []
  | d :: ds, (v, vs) => d.write v ++ written ds vs

variable {ds : List Declared} {ms : List (String × Tree)} {ts : List Tree} {t : Tree} {key : String}
  {j : Json} {vs : Values (fieldsOf (rulesOf ds))}

theorem names_rulesOf (ds : List Declared) : (rulesOf ds).map Rule.name = ds.map Declared.name := by
  rw [List.map_map]
  exact List.map_congr_left fun d _ => d.rule_name

theorem areExact_rulesOf (ds : List Declared) : AreExact (rulesOf ds) := by
  intro r hr
  obtain ⟨d, -, rfl⟩ := List.mem_map.mp hr
  exact d.only_rule

theorem order_written (ds : List Declared) (vs : Values (fieldsOf (rulesOf ds))) :
    ((written ds vs).map Prod.fst).Sublist (ds.map Declared.name) := by
  induction ds with
  | nil => exact .slnil
  | cons d ds ih =>
    obtain ⟨v, vs⟩ := vs
    rw [written, List.map_append, List.map_cons]
    rcases d.write_keys v with h | h
    · rw [h]
      exact (ih vs).cons d.name
    · rw [h]
      exact (ih vs).cons_cons d.name

/-! ## Objects -/

/-- Values can be given to all fields if and only if the members of each are right and the required
ones are there. -/
theorem exists_given (hkeys : (keysOf ms).Nodup) :
    (∃ vs : Values (fieldsOf (rulesOf ds)), vs.Given (rulesOf ds) ms) ↔
      ∀ d ∈ ds, (∀ t, (d.name, t) ∈ ms → d.Allows t) ∧
        (d.required = true → d.name ∈ keysOf ms) := by
  induction ds with
  | nil => exact ⟨fun _ => nofun, fun _ => ⟨(), trivial⟩⟩
  | cons d ds ih =>
    rw [List.forall_mem_cons, ← ih]
    constructor
    · rintro ⟨⟨v, vs⟩, hfirst, hrest⟩
      refine ⟨?_, vs, hrest⟩
      rw [d.rule_name] at hfirst
      rcases hfirst with ⟨t, ht, hmeans⟩ | ⟨hnone, habsent⟩
      · refine ⟨fun t' ht' => ?_, fun _ => List.mem_map_of_mem ht⟩
        rw [eq_of_mem hkeys ht' ht]
        exact Declared.exists_means.mp ⟨v, hmeans⟩
      · have hoptional := (Declared.absent_spec.2 habsent).1
        refine ⟨fun t ht => absurd (List.mem_map_of_mem ht) hnone, fun hrequired => ?_⟩
        exact absurd (hrequired.symm.trans hoptional) (by decide)
    · rintro ⟨⟨hallows, hrequired⟩, vs, hvs⟩
      by_cases hmem : d.name ∈ keysOf ms
      · obtain ⟨⟨_, t⟩, ht, rfl⟩ := List.mem_map.mp hmem
        obtain ⟨v, hv⟩ := Declared.exists_means.mpr (hallows t ht)
        exact ⟨(v, vs), .inl ⟨t, d.rule_name ▸ ht, hv⟩, hvs⟩
      · have hoptional : d.required = false := Bool.eq_false_iff.mpr fun hr => hmem (hrequired hr)
        obtain ⟨v, hv⟩ := Declared.exists_absent hoptional
        exact ⟨(v, vs), .inr ⟨d.rule_name ▸ hmem, hv⟩, hvs⟩

theorem mem_written_of_given (hkeys : (keysOf ms).Nodup) (h : vs.Given (rulesOf ds) ms) :
    (key, j) ∈ written ds vs ↔
      ∃ d ∈ ds, ∃ t, (d.name, t) ∈ ms ∧ d.name = key ∧ d.type.Accepts t j := by
  induction ds with
  | nil => exact iff_of_false List.not_mem_nil fun ⟨_, hd, _⟩ => absurd hd List.not_mem_nil
  | cons d ds ih =>
    obtain ⟨v, vs⟩ := vs
    obtain ⟨hfirst, hrest⟩ := h
    rw [d.rule_name] at hfirst
    have hhead : (key, j) ∈ d.write v ↔
        ∃ t, (d.name, t) ∈ ms ∧ d.name = key ∧ d.type.Accepts t j := by
      rcases hfirst with ⟨t, ht, hmeans⟩ | ⟨hnone, habsent⟩
      · rw [Declared.mem_write hmeans]
        constructor
        · exact fun hwrite => ⟨t, ht, hwrite⟩
        · rintro ⟨t', ht', hwrite⟩
          rwa [eq_of_mem hkeys ht ht']
      · rw [(Declared.absent_spec.2 habsent).2]
        exact iff_of_false List.not_mem_nil fun ⟨t, ht, _⟩ => hnone (List.mem_map_of_mem ht)
    rw [written, List.mem_append, ih hrest, hhead]
    simp only [List.mem_cons, or_and_right, exists_or, exists_eq_left]

/-! ## Lists -/

theorem exists_listed : (∃ vs : Values (fieldsOf (rulesOf ds)), vs.Listed (rulesOf ds) ts) ↔
    ts.length ≤ ds.length ∧ (∀ x ∈ ds.zip ts, x.1.Allows x.2) ∧
      ∀ d ∈ ds.drop ts.length, d.required = false := by
  induction ds generalizing ts with
  | nil =>
    constructor
    · rintro ⟨_, hnil⟩
      obtain rfl : ts = [] := hnil
      exact ⟨Nat.le_refl 0, nofun, nofun⟩
    · rintro ⟨hlength, -⟩
      exact ⟨(), List.eq_nil_of_length_eq_zero (Nat.le_zero.mp hlength)⟩
  | cons d ds ih =>
    cases ts with
    | nil =>
      have hnil := @ih []
      simp only [List.length_nil, Nat.zero_le, List.zip_nil_right, List.not_mem_nil,
        List.drop_zero, true_and, List.forall_mem_cons, false_implies, implies_true] at hnil ⊢
      rw [← hnil]
      constructor
      · rintro ⟨⟨v, vs⟩, hshort, hlisted⟩
        exact ⟨(Declared.absent_spec.2 (Declared.absent_spec.1.mpr hshort)).1, vs, hlisted⟩
      · rintro ⟨hoptional, vs, hlisted⟩
        obtain ⟨v, hv⟩ := Declared.exists_absent hoptional
        exact ⟨(v, vs), Declared.absent_spec.1.mp hv, hlisted⟩
    | cons t ts =>
      simp only [List.length_cons, Nat.add_le_add_iff_right, List.zip_cons_cons, List.drop_succ_cons,
        List.forall_mem_cons]
      constructor
      · rintro ⟨⟨v, vs⟩, hmeans, hlisted⟩
        obtain ⟨hlength, hzip, hdrop⟩ := ih.mp ⟨vs, hlisted⟩
        exact ⟨hlength, ⟨Declared.exists_means.mp ⟨v, hmeans⟩, hzip⟩, hdrop⟩
      · rintro ⟨hlength, ⟨hallows, hzip⟩, hdrop⟩
        obtain ⟨vs, hlisted⟩ := ih.mpr ⟨hlength, hzip, hdrop⟩
        obtain ⟨v, hv⟩ := Declared.exists_means.mpr hallows
        exact ⟨(v, vs), hv, hlisted⟩

theorem mem_written_of_listed (h : vs.Listed (rulesOf ds) ts) : (key, j) ∈ written ds vs ↔
    ∃ d t, (d, t) ∈ ds.zip ts ∧ d.name = key ∧ d.type.Accepts t j := by
  induction ds generalizing ts with
  | nil => exact iff_of_false List.not_mem_nil fun ⟨_, _, hd, _⟩ => absurd hd List.not_mem_nil
  | cons d ds ih =>
    obtain ⟨v, vs⟩ := vs
    cases ts with
    | nil =>
      obtain ⟨hshort, hlisted⟩ := h
      rw [written, (Declared.absent_spec.2 (Declared.absent_spec.1.mpr hshort)).2, List.nil_append,
        ih hlisted, List.zip_nil_right, List.zip_nil_right]
    | cons t ts =>
      obtain ⟨hmeans, hlisted⟩ := h
      rw [written, List.mem_append, Declared.mem_write hmeans, ih hlisted, List.zip_cons_cons]
      constructor
      · rintro (hhead | ⟨d', t', hmem, hrest⟩)
        · exact ⟨d, t, List.mem_cons_self, hhead⟩
        · exact ⟨d', t', List.mem_cons_of_mem _ hmem, hrest⟩
      · rintro ⟨d', t', hmem, hrest⟩
        rcases List.mem_cons.mp hmem with he | hmem
        · cases he
          exact .inl hrest
        · exact .inr ⟨d', t', hmem, hrest⟩

/-! ## Trees -/

theorem exists_describes (hnames : (ds.map Declared.name).Nodup) :
    (∃ vs, Describes (rulesOf ds) true vs t) ↔ t.Conforms ds := by
  constructor
  · rintro ⟨vs, hdescribes⟩
    cases hdescribes with
    | @object ms hkeys hknown hgiven =>
      have hall := (exists_given hkeys).mp ⟨vs, hgiven⟩
      refine .object hkeys (fun m hm => ?_) fun d hd => (hall d hd).2
      have hname := (hknown m hm).resolve_right fun h => nomatch h.1
      rw [names_rulesOf] at hname
      obtain ⟨d, hd, hdm⟩ := List.mem_map.mp hname
      exact ⟨d, hd, hdm, (hall d hd).1 m.2 (hdm ▸ hm)⟩
    | list hlisted =>
      obtain ⟨hlength, hzip, hdrop⟩ := exists_listed.mp ⟨vs, hlisted⟩
      exact .list hlength hzip hdrop
  · intro hconforms
    cases hconforms with
    | @object ms hkeys hdeclared hrequired =>
      have hall : ∀ d ∈ ds, (∀ t, (d.name, t) ∈ ms → d.Allows t) ∧
          (d.required = true → d.name ∈ keysOf ms) := by
        refine fun d hd => ⟨fun t ht => ?_, hrequired d hd⟩
        obtain ⟨d', hd', hname, hallows⟩ := hdeclared (d.name, t) ht
        rwa [List.inj_on_of_nodup_map hnames hd' hd hname] at hallows
      obtain ⟨vs, hgiven⟩ := (exists_given hkeys).mpr hall
      refine ⟨vs, .object hkeys (fun m hm => .inl ?_) hgiven⟩
      obtain ⟨d, hd, hname, -⟩ := hdeclared m hm
      rw [names_rulesOf, ← hname]
      exact List.mem_map_of_mem hd
    | list hlength hzip hdrop =>
      obtain ⟨vs, hlisted⟩ := exists_listed.mpr ⟨hlength, hzip, hdrop⟩
      exact ⟨vs, .list hlisted⟩

theorem keeps_of_describes (h : Describes (rulesOf ds) true vs t) : t.Keeps ds (written ds vs) := by
  refine ⟨order_written ds vs, fun key j => ?_⟩
  cases h with
  | object hkeys _ hgiven =>
    rw [mem_written_of_given hkeys hgiven]
    constructor
    · rintro ⟨d, hd, t, ht, h⟩
      exact ⟨d, t, .member hd ht, h⟩
    · rintro ⟨d, t, hgives, h⟩
      cases hgives with
      | member hd ht => exact ⟨d, hd, t, ht, h⟩
  | list hlisted =>
    rw [mem_written_of_listed hlisted]
    constructor
    · rintro ⟨d, t, ht, h⟩
      exact ⟨d, t, .item ht, h⟩
    · rintro ⟨d, t, hgives, h⟩
      cases hgives with
      | item ht => exact ⟨d, t, ht, h⟩

/-! ## What is kept tells the record -/

/-- A list of members is told by its members, if their keys come in a given order. -/
theorem members_ext {names : List String} {js js' : List (String × Json)} (hnames : names.Nodup)
    (h : (js.map Prod.fst).Sublist names) (h' : (js'.map Prod.fst).Sublist names)
    (hmem : ∀ x, x ∈ js ↔ x ∈ js') : js = js' := by
  induction names generalizing js js' with
  | nil =>
    rw [List.map_eq_nil_iff.mp (List.sublist_nil.mp h), List.map_eq_nil_iff.mp (List.sublist_nil.mp h')]
  | cons name names ih =>
    obtain ⟨hname, hnames⟩ := List.nodup_cons.mp hnames
    have hskip : ∀ {ks : List (String × Json)}, (ks.map Prod.fst).Sublist names →
        ∀ x ∈ ks, x.1 ≠ name := by
      rintro ks hks x hx rfl
      exact hname (hks.subset (List.mem_map_of_mem hx))
    have hhead : ∀ {ks : List (String × Json)}, (ks.map Prod.fst).Sublist (name :: names) →
        (ks.map Prod.fst).Sublist names ∨
          ∃ j ks', ks = (name, j) :: ks' ∧ (ks'.map Prod.fst).Sublist names := by
      intro ks hks
      rcases List.sublist_cons_iff.mp hks with hks | ⟨tail, htail, hsub⟩
      · exact .inl hks
      · obtain ⟨x, ks', rfl, rfl, rfl⟩ := List.map_eq_cons_iff.mp htail
        exact .inr ⟨x.2, ks', rfl, hsub⟩
    rcases hhead h with h | ⟨j, ks, rfl, hks⟩ <;> rcases hhead h' with h' | ⟨j', ks', rfl, hks'⟩
    · exact ih hnames h h' hmem
    · exact absurd rfl (hskip h _ ((hmem _).mpr List.mem_cons_self))
    · exact absurd rfl (hskip h' _ ((hmem _).mp List.mem_cons_self))
    · have hsame : (name, j) = (name, j') := by
        rcases List.mem_cons.mp ((hmem (name, j)).mp List.mem_cons_self) with he | hin
        · exact he
        · exact absurd rfl (hskip hks' _ hin)
      rw [hsame] at hmem ⊢
      refine congrArg _ (ih hnames hks hks' fun x => ?_)
      have hx := hmem x
      rw [List.mem_cons, List.mem_cons] at hx
      constructor
      · intro hin
        exact (hx.mp (.inr hin)).resolve_left fun he => hskip hks x hin (he ▸ rfl)
      · intro hin
        exact (hx.mpr (.inr hin)).resolve_left fun he => hskip hks' x hin (he ▸ rfl)

theorem written_inj {vs vs' : Values (fieldsOf (rulesOf ds))}
    (hnames : (ds.map Declared.name).Nodup) (h : written ds vs = written ds vs') : vs = vs' := by
  induction ds with
  | nil => rfl
  | cons d ds ih =>
    obtain ⟨v, vs⟩ := vs
    obtain ⟨v', vs'⟩ := vs'
    rw [written, written] at h
    obtain ⟨hname, hnames⟩ := List.nodup_cons.mp hnames
    have hother : ∀ ws : Values (fieldsOf (rulesOf ds)), d.name ∉ (written ds ws).map Prod.fst :=
      fun ws hmem => hname ((order_written ds ws).subset hmem)
    have hlength : (d.write v).length = (d.write v').length := by
      have hkeys := congrArg (List.map Prod.fst) h
      rw [List.map_append, List.map_append] at hkeys
      rw [← List.length_map Prod.fst, ← (d.write v').length_map Prod.fst]
      rcases d.write_keys v with hv | hv <;> rcases d.write_keys v' with hv' | hv'
      · rw [hv, hv']
      · rw [hv, hv', List.nil_append] at hkeys
        refine absurd ?_ (hother vs)
        rw [hkeys]
        exact List.mem_cons_self
      · rw [hv, hv', List.nil_append] at hkeys
        refine absurd ?_ (hother vs')
        rw [← hkeys]
        exact List.mem_cons_self
      · rw [hv, hv']
    obtain ⟨hhead, htail⟩ := List.append_inj h hlength
    exact Prod.ext (Declared.write_inj hhead) (ih hnames htail)

/-- Two records of which the same is kept are the same. -/
theorem written_of_keeps {js : List (String × Json)} (hnames : (ds.map Declared.name).Nodup)
    (h : t.Keeps ds js) (hdescribes : Describes (rulesOf ds) true vs t) : written ds vs = js := by
  have hkeeps := keeps_of_describes hdescribes
  refine members_ext hnames hkeeps.order h.order fun x => ?_
  exact (hkeeps.members x.1 x.2).trans (h.members x.1 x.2).symm

/-! ## Bodies -/

section bodies

variable {α : Type} {name : String} {build : Values (fieldsOf (rulesOf ds)) → α} {body : Bytes}
  {x : α}

theorem readBody_describes (hnames : (ds.map Declared.name).Nodup) :
    readBody (shapeOf name (rulesOf ds) true build).read body = .ok x ↔
      ∃ t, Documents t body ∧ ∃ vs, Describes (rulesOf ds) true vs t ∧ x = build vs := by
  rw [← names_rulesOf] at hnames
  exact readBody_eq_ok (Shape.takes_read hnames) (Shape.only_read (areExact_rulesOf ds) hnames)

/-- A body is accepted if and only if it is the text of a tree that conforms to the declaration. -/
theorem exists_readBody (hnames : (ds.map Declared.name).Nodup) :
    (∃ x, readBody (shapeOf name (rulesOf ds) true build).read body = .ok x) ↔
      ∃ t, Documents t body ∧ t.Conforms ds := by
  constructor
  · rintro ⟨x, hx⟩
    obtain ⟨t, hdocuments, vs, hdescribes, -⟩ := (readBody_describes hnames).mp hx
    exact ⟨t, hdocuments, (exists_describes hnames).mp ⟨vs, hdescribes⟩⟩
  · rintro ⟨t, hdocuments, hconforms⟩
    obtain ⟨vs, hdescribes⟩ := (exists_describes hnames).mpr hconforms
    exact ⟨build vs, (readBody_describes hnames).mpr ⟨t, hdocuments, vs, hdescribes, rfl⟩⟩

/-- What is written again of a body that is accepted is what its tree says, and tells what it was
read as. -/
theorem readBody_keeps (hnames : (ds.map Declared.name).Nodup) {members : α → List (String × Json)}
    (hmembers : ∀ vs, members (build vs) = written ds vs) (hbuild : ∀ x, ∃ vs, x = build vs) :
    readBody (shapeOf name (rulesOf ds) true build).read body = .ok x ↔
      ∃ t, Documents t body ∧ t.Conforms ds ∧ t.Keeps ds (members x) := by
  rw [readBody_describes hnames]
  constructor
  · rintro ⟨t, hdocuments, vs, hdescribes, rfl⟩
    have hkeeps := keeps_of_describes hdescribes
    rw [← hmembers] at hkeeps
    exact ⟨t, hdocuments, (exists_describes hnames).mp ⟨vs, hdescribes⟩, hkeeps⟩
  · rintro ⟨t, hdocuments, hconforms, hkeeps⟩
    obtain ⟨vs, hdescribes⟩ := (exists_describes hnames).mpr hconforms
    obtain ⟨vs', rfl⟩ := hbuild x
    rw [hmembers] at hkeeps
    have hsame := written_inj hnames (written_of_keeps hnames hkeeps hdescribes)
    exact ⟨t, hdocuments, vs, hdescribes, congrArg build hsame.symm⟩

end bodies

end AlertService.Json
