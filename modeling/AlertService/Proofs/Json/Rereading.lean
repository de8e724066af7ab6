import AlertService.Proofs.Json.Conforming
import AlertService.Proofs.Json.Written

/-!
# What is written is read again

The members that are written for a record conform to the declaration of its fields. They are kept as
they are when they are read, so nothing comes of writing a record and reading it back.

* `conforms_written`, `keeps_written`: the tree of what is written.
* `readBody_written`: any of its texts is read as the record that was written.
-/

namespace AlertService.Json

variable {ds : List Declared} {d : Declared} {vs : Values (fieldsOf (rulesOf ds))}
  {ms : List (String × Json)} {key : String} {j : Json} {t : Tree}

theorem mem_ofMembers : (key, t) ∈ Tree.ofMembers ms ↔ ∃ j, (key, j) ∈ ms ∧ t = Tree.of j := by
  induction ms with
  | nil => exact iff_of_false List.not_mem_nil fun ⟨_, h, _⟩ => absurd h List.not_mem_nil
  | cons m ms ih =>
    obtain ⟨name, value⟩ := m
    simp only [Tree.ofMembers, List.mem_cons, ih, Prod.mk.injEq, or_and_right, exists_or, and_assoc,
      exists_and_left, exists_eq_left]

theorem keysOf_ofMembers (ms : List (String × Json)) :
    keysOf (Tree.ofMembers ms) = ms.map Prod.fst := by
  induction ms with
  | nil => rfl
  | cons m ms ih =>
    obtain ⟨name, value⟩ := m
    exact congrArg (name :: ·) ih

/-! ## One field -/

theorem FieldType.accepts_toJson (type : FieldType) (v : type.Value) :
    type.Accepts (Tree.of (type.toJson v)) (type.toJson v) := by
  cases type with
  | text => exact .text
  | flag => exact .flag
  | integer => exact .integer (isInteger_ofInt _) (Int64.le_toInt v) (Int64.toInt_lt v)
  | identifier => exact .identifier (Uuid.spells_text v)

theorem Declared.accepts_of_mem_write {v : d.Value} (h : (key, j) ∈ d.write v) :
    d.name = key ∧ d.type.Accepts (Tree.of j) j := by
  obtain ⟨name, type, required⟩ := d
  have hwritten : ∀ w : type.Value, (key, j) = (name, type.toJson w) →
      name = key ∧ type.Accepts (Tree.of j) j := by
    rintro w ⟨⟩
    exact ⟨rfl, type.accepts_toJson w⟩
  cases required with
  | true => exact hwritten v (List.mem_singleton.mp h)
  | false =>
    obtain _ | w := (v : Option type.Value)
    · exact absurd h List.not_mem_nil
    · exact hwritten w (List.mem_singleton.mp h)

theorem Declared.mem_keys_write (h : d.required = true) (v : d.Value) :
    d.name ∈ (d.write v).map Prod.fst := by
  obtain ⟨name, type, required⟩ := d
  obtain rfl : required = true := h
  exact List.mem_singleton_self name

/-! ## All fields -/

theorem accepts_of_mem_written (h : (key, j) ∈ written ds vs) :
    ∃ d ∈ ds, d.name = key ∧ d.type.Accepts (Tree.of j) j := by
  induction ds with
  | nil => exact absurd h List.not_mem_nil
  | cons d ds ih =>
    obtain ⟨v, vs⟩ := vs
    rcases List.mem_append.mp h with hfirst | hrest
    · exact ⟨d, List.mem_cons_self, Declared.accepts_of_mem_write hfirst⟩
    · obtain ⟨d', hd', haccepts⟩ := ih hrest
      exact ⟨d', List.mem_cons_of_mem d hd', haccepts⟩

theorem mem_keys_written (hd : d ∈ ds) (h : d.required = true) :
    d.name ∈ (written ds vs).map Prod.fst := by
  induction ds with
  | nil => exact absurd hd List.not_mem_nil
  | cons d' ds ih =>
    obtain ⟨v, vs⟩ := vs
    rw [written, List.map_append, List.mem_append]
    rcases List.mem_cons.mp hd with rfl | hd
    · exact .inl (Declared.mem_keys_write h v)
    · exact .inr (ih hd)

section names

variable (hnames : (ds.map Declared.name).Nodup)

include hnames

theorem conforms_written (vs : Values (fieldsOf (rulesOf ds))) :
    (Tree.of (.object (written ds vs))).Conforms ds := by
  have hkeys : keysOf (Tree.ofMembers (written ds vs)) = (written ds vs).map Prod.fst :=
    keysOf_ofMembers _
  refine .object ?_ ?_ ?_
  · rw [hkeys]
    exact (order_written ds vs).nodup hnames
  · rintro ⟨key, t⟩ hm
    obtain ⟨j, hj, rfl⟩ := mem_ofMembers.mp hm
    obtain ⟨d, hd, hname, haccepts⟩ := accepts_of_mem_written hj
    exact ⟨d, hd, hname, .inl ⟨j, haccepts⟩⟩
  · intro d hd hrequired
    rw [hkeys]
    exact mem_keys_written hd hrequired

theorem keeps_written (vs : Values (fieldsOf (rulesOf ds))) :
    (Tree.of (.object (written ds vs))).Keeps ds (written ds vs) := by
  refine ⟨order_written ds vs, fun key j => ⟨fun hj => ?_, ?_⟩⟩
  · obtain ⟨d, hd, rfl, haccepts⟩ := accepts_of_mem_written hj
    exact ⟨d, Tree.of j, .member hd (mem_ofMembers.mpr ⟨j, hj, rfl⟩), rfl, haccepts⟩
  · rintro ⟨d, t, hgives, rfl, haccepts⟩
    cases hgives with
    | member hd ht =>
      obtain ⟨j', hj', rfl⟩ := mem_ofMembers.mp ht
      obtain ⟨d', hd', hname, haccepts'⟩ := accepts_of_mem_written hj'
      -- the names differ, so it is the same field, which writes one value only
      obtain rfl := List.inj_on_of_nodup_map hnames hd' hd hname
      rwa [haccepts.unique haccepts']

end names

theorem readBody_written {α : Type} {name : String} {build : Values (fieldsOf (rulesOf ds)) → α}
    {members : α → List (String × Json)} {body : Bytes}
    (hnames : (ds.map Declared.name).Nodup) (hmembers : ∀ vs, members (build vs) = written ds vs)
    (hbuild : ∀ x, ∃ vs, x = build vs) (x : α)
    (hbody : Documents (Tree.of (.object (members x))) body) :
    readBody (shapeOf name (rulesOf ds) true build).read body = .ok x := by
  obtain ⟨vs, rfl⟩ := hbuild x
  rw [hmembers] at hbody
  refine (readBody_keeps hnames hmembers hbuild).mpr ⟨_, hbody, conforms_written hnames vs, ?_⟩
  rw [hmembers]
  exact keeps_written hnames vs

end AlertService.Json
