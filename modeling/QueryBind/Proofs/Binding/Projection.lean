import QueryBind.Binding.Projection
import QueryBind.Proofs.Binding.Lookup

/-!
# What projections consist of

The fields of a projection come in groups, one for each attribute. What is said
here of one attribute holds of its group, and a list of attributes that resolves
has the group of each of them, all aggregated or none.
-/

namespace QueryBind

open Sql Text

/-! ## Aggregation -/

/-- An attribute is aggregated exactly when it is not plain. -/
theorem isAggregate_of_aggregation {a : Attribute} {aggregation : Aggregation}
    (h : a.aggregation = .ok aggregation) :
    aggregation.isAggregate = !a.shape.isPlain := by
  unfold Attribute.aggregation at h
  split at h
  · next hshape =>
      cases h
      rw [hshape]
      rfl
  · next f hshape =>
      rw [hshape]
      split at h <;> cases h <;> rfl
  all_goals cases h

/-- Rows are counted by calls on the wildcard only. -/
theorem isWildcard_of_countAll {a : Attribute}
    (h : a.aggregation = .ok .countAll) : isWildcard a.name = true := by
  unfold Attribute.aggregation at h
  split at h
  · cases h
  · split at h
    · next hcount => exact hcount.2
    · cases h
  all_goals cases h

/-! ## The forms of an attribute

A wildcard for all tables, a wildcard for one table, or a column. What is left
is a column of all tables, which denotes nothing. -/

theorem Table.lookup_eq_ok_iff {t : Table} {name : String} {r : FieldRef} :
    t.lookup name = .ok r ↔ t.ref? name = some r := by
  unfold lookup
  cases t.ref? name <;> simp

/-- The table that an attribute is of, if it is of one table. -/
def Relations.tableOf (relations : Relations) (a : Attribute) : Except Error Table :=
  match a.qualifier? with
  | none =>
    match relations.default? with
    | none => .error (.ambiguousField relations.tables.length a.name)
    | some t => .ok t
  | some relation =>
    match relations.find? relation with
    | none => .error (.relationNotListed relation (nearest? relation relations.keys))
    | some t => .ok t

section Forms

variable {relations : Relations} {index : Nat} {a : Attribute}
  {aggregation : Aggregation}

theorem resolveAttribute_blank (h : isBlank a.name = true) :
    resolveAttribute relations index a aggregation =
      .error (.namelessAttribute index) := by
  simp [resolveAttribute, h]

theorem resolveAttribute_allTables (hblank : isBlank a.name = false)
    (hname : isWildcard a.name = true)
    (hqualifier : a.qualifier?.all isWildcard = true) :
    resolveAttribute relations index a aggregation = (do
      checkWildcard aggregation
      .ok (relations.tables.flatMap (·.expand aggregation))) := by
  cases hrelation : a.qualifier? with
  | none => simp [resolveAttribute, hblank, hname, hrelation]
  | some relation =>
      rw [hrelation, Option.all_some] at hqualifier
      simp [resolveAttribute, hblank, hname, hrelation, hqualifier]

theorem resolveAttribute_oneTable (hblank : isBlank a.name = false)
    (hname : isWildcard a.name = true)
    (hqualifier : a.qualifier?.all isWildcard = false) :
    resolveAttribute relations index a aggregation = (do
      let t ← relations.tableOf a
      checkWildcard aggregation
      .ok (t.expand aggregation)) := by
  cases hrelation : a.qualifier? with
  | none =>
      rw [hrelation] at hqualifier
      cases hqualifier
  | some relation =>
      rw [hrelation, Option.all_some] at hqualifier
      simp only [resolveAttribute, Relations.tableOf, hblank, hname, hrelation,
        hqualifier]
      cases relations.find? relation <;> rfl

theorem resolveAttribute_column (hblank : isBlank a.name = false)
    (hname : isWildcard a.name = false)
    (hqualifier : a.qualifier?.any isWildcard = false) :
    resolveAttribute relations index a aggregation = (do
      let t ← relations.tableOf a
      let r ← t.lookup a.name
      .ok [⟨r, aggregation⟩]) := by
  cases hrelation : a.qualifier? with
  | none =>
      simp only [resolveAttribute, Relations.tableOf, hblank, hname, hrelation]
      cases relations.default? <;> rfl
  | some relation =>
      rw [hrelation, Option.any_some] at hqualifier
      simp only [resolveAttribute, Relations.tableOf, hblank, hname, hrelation,
        hqualifier]
      cases relations.find? relation <;> rfl

theorem resolveAttribute_columnOfAll (hblank : isBlank a.name = false)
    (hname : isWildcard a.name = false)
    (hqualifier : a.qualifier?.any isWildcard = true) :
    resolveAttribute relations index a aggregation =
      .error (.fieldOfAllTables a.name) := by
  cases hrelation : a.qualifier? with
  | none =>
      rw [hrelation] at hqualifier
      cases hqualifier
  | some relation =>
      rw [hrelation, Option.any_some] at hqualifier
      simp [resolveAttribute, hblank, hname, hrelation, hqualifier]

end Forms

/-- The fields that an attribute denotes. -/
inductive Denotes (relations : Relations) (a : Attribute)
    (aggregation : Aggregation) : List BoundField → Prop where
  | allTables : isWildcard a.name = true →
      a.qualifier?.all isWildcard = true →
      checkWildcard aggregation = .ok () →
      Denotes relations a aggregation
        (relations.tables.flatMap (·.expand aggregation))
  | oneTable {t} : isWildcard a.name = true →
      a.qualifier?.all isWildcard = false → relations.tableOf a = .ok t →
      checkWildcard aggregation = .ok () →
      Denotes relations a aggregation (t.expand aggregation)
  | column {t r} : isWildcard a.name = false →
      a.qualifier?.any isWildcard = false → relations.tableOf a = .ok t →
      t.ref? a.name = some r → Denotes relations a aggregation [⟨r, aggregation⟩]

theorem Denotes.resolveAttribute_eq {relations : Relations} {a : Attribute}
    {aggregation : Aggregation} {group : List BoundField}
    (h : Denotes relations a aggregation group)
    (hblank : isBlank a.name = false) (index : Nat) :
    resolveAttribute relations index a aggregation = .ok group := by
  cases h with
  | allTables hname hqualifier hcheck =>
      rw [resolveAttribute_allTables hblank hname hqualifier, hcheck]
      rfl
  | oneTable hname hqualifier ht hcheck =>
      rw [resolveAttribute_oneTable hblank hname hqualifier, ht, hcheck]
      rfl
  | column hname hqualifier ht hr =>
      rw [resolveAttribute_column hblank hname hqualifier, ht, ok_bind,
        Table.lookup_eq_ok_iff.mpr hr]
      rfl

/-- An attribute resolves to what it denotes, unless its name is blank. -/
theorem resolveAttribute_eq_ok_iff {relations : Relations} {index : Nat}
    {a : Attribute} {aggregation : Aggregation} {group : List BoundField} :
    resolveAttribute relations index a aggregation = .ok group ↔
      isBlank a.name = false ∧ Denotes relations a aggregation group := by
  refine ⟨fun h => ?_, fun ⟨hblank, h⟩ => h.resolveAttribute_eq hblank index⟩
  cases hblank : isBlank a.name with
  | true =>
      rw [resolveAttribute_blank hblank] at h
      cases h
  | false =>
      refine ⟨rfl, ?_⟩
      cases hname : isWildcard a.name with
      | true =>
          cases hqualifier : a.qualifier?.all isWildcard with
          | true =>
              rw [resolveAttribute_allTables hblank hname hqualifier] at h
              obtain ⟨_, hcheck, h⟩ := bind_eq_ok_iff.mp h
              cases h
              exact .allTables hname hqualifier hcheck
          | false =>
              rw [resolveAttribute_oneTable hblank hname hqualifier] at h
              obtain ⟨t, ht, h⟩ := bind_eq_ok_iff.mp h
              obtain ⟨_, hcheck, h⟩ := bind_eq_ok_iff.mp h
              cases h
              exact .oneTable hname hqualifier ht hcheck
      | false =>
          cases hqualifier : a.qualifier?.any isWildcard with
          | true =>
              rw [resolveAttribute_columnOfAll hblank hname hqualifier] at h
              cases h
          | false =>
              rw [resolveAttribute_column hblank hname hqualifier] at h
              obtain ⟨t, ht, h⟩ := bind_eq_ok_iff.mp h
              obtain ⟨r, hr, h⟩ := bind_eq_ok_iff.mp h
              cases h
              exact .column hname hqualifier ht (Table.lookup_eq_ok_iff.mp hr)

/-! ## The fields of one attribute -/

/-- What the fields of one attribute have in common. -/
structure GroupOf (relations : Relations) (aggregation : Aggregation)
    (group : List BoundField) : Prop where
  ne_nil : relations.entries ≠ [] → group ≠ []
  table_mem : ∀ f ∈ group, f.ref.table ∈ relations.tables
  aggregation_eq : ∀ f ∈ group, f.aggregation = aggregation
  countAll_index : aggregation = .countAll → ∀ f ∈ group, f.ref.index = 0

theorem Table.mem_expand {t : Table} {aggregation : Aggregation} {f : BoundField}
    (h : f ∈ t.expand aggregation) :
    f.ref.table = t ∧ f.aggregation = aggregation ∧
      (aggregation = .countAll → f.ref.index = 0) := by
  unfold expand at h
  split at h
  · rw [List.mem_singleton.mp h]
    exact ⟨rfl, rfl, fun _ => rfl⟩
  · next other hother =>
      obtain ⟨r, hr, rfl⟩ := List.mem_map.mp h
      exact ⟨table_of_mem_userRefs hr, rfl, fun hcount => absurd hcount hother⟩

theorem Table.expand_ne_nil (t : Table) (aggregation : Aggregation) :
    t.expand aggregation ≠ [] := by
  unfold expand
  split
  · simp
  · simpa using t.userRefs_ne_nil

theorem groupOf_expand {relations : Relations} {t : Table}
    (ht : t ∈ relations.tables) (aggregation : Aggregation) :
    GroupOf relations aggregation (t.expand aggregation) where
  ne_nil := fun _ => t.expand_ne_nil aggregation
  table_mem := by
    intro f hf
    rw [(Table.mem_expand hf).1]
    exact ht
  aggregation_eq := fun f hf => (Table.mem_expand hf).2.1
  countAll_index := fun hcount f hf => (Table.mem_expand hf).2.2 hcount

theorem groupOf_expand_all (relations : Relations) (aggregation : Aggregation) :
    GroupOf relations aggregation
      (relations.tables.flatMap (·.expand aggregation)) where
  ne_nil := by
    intro hne hempty
    rw [List.flatMap_eq_nil_iff] at hempty
    obtain ⟨⟨name, t⟩, entries, hentries⟩ := List.exists_cons_of_ne_nil hne
    have ht : t ∈ relations.tables := by
      rw [Relations.tables, hentries]
      exact List.mem_cons_self
    exact t.expand_ne_nil aggregation (hempty t ht)
  table_mem := by
    intro f hf
    obtain ⟨t, ht, hf⟩ := List.mem_flatMap.mp hf
    exact (groupOf_expand ht aggregation).table_mem f hf
  aggregation_eq := by
    intro f hf
    obtain ⟨t, -, hf⟩ := List.mem_flatMap.mp hf
    exact (Table.mem_expand hf).2.1
  countAll_index := by
    intro hcount f hf
    obtain ⟨t, -, hf⟩ := List.mem_flatMap.mp hf
    exact (Table.mem_expand hf).2.2 hcount

theorem Relations.mem_tables_of_tableOf {relations : Relations} {a : Attribute}
    {t : Table} (h : relations.tableOf a = .ok t) : t ∈ relations.tables := by
  unfold tableOf at h
  split at h
  · split at h
    · cases h
    · next hdefault =>
        cases h
        exact mem_tables_of_default? hdefault
  · split at h
    · cases h
    · next hfind =>
        cases h
        exact mem_tables_of_find? hfind

/-- Whatever its form, an attribute denotes a group of fields. -/
theorem Denotes.groupOf {relations : Relations} {a : Attribute}
    {aggregation : Aggregation} {group : List BoundField}
    (h : Denotes relations a aggregation group)
    (haggregation : a.aggregation = .ok aggregation) :
    GroupOf relations aggregation group := by
  cases h with
  | allTables => exact groupOf_expand_all relations aggregation
  | oneTable _ _ ht =>
      exact groupOf_expand (Relations.mem_tables_of_tableOf ht) aggregation
  | @column t r hname _ ht hr =>
      obtain ⟨rfl, -⟩ := Table.ref?_eq_some_iff.mp hr
      have hmem := Relations.mem_tables_of_tableOf ht
      refine ⟨by simp, by simpa using hmem, by simp, ?_⟩
      rintro rfl
      rw [isWildcard_of_countAll haggregation] at hname
      cases hname

/-! ## The whole list -/

namespace Projection

/-- The groups of a list of attributes, visited in order: each attribute has an
aggregation and a group, and they are all aggregated or all not, in line with
those visited before. -/
theorem visit_sound {relations : Relations} {aggregated : Option Bool}
    {as : List (Attribute × Nat)} {groups : List (List BoundField)}
    (h : visit relations aggregated as = .ok groups) :
    ∃ flag, (∀ before ∈ aggregated, before = flag) ∧
      List.Forall₂ (fun a group => ∃ aggregation,
        a.1.aggregation = .ok aggregation ∧ aggregation.isAggregate = flag ∧
        GroupOf relations aggregation group) as groups := by
  induction as generalizing aggregated groups with
  | nil =>
      cases h
      exact ⟨aggregated.getD false, by rintro before ⟨⟩; rfl, .nil⟩
  | cons a as ih =>
      obtain ⟨a, index⟩ := a
      unfold visit at h
      obtain ⟨aggregation, haggregation, h⟩ := bind_eq_ok_iff.mp h
      dsimp only at h
      split at h
      · cases h
      next hagree =>
      obtain ⟨group, hgroup, h⟩ := bind_eq_ok_iff.mp h
      obtain ⟨rest, hrest, h⟩ := bind_eq_ok_iff.mp h
      cases h
      -- The rest agrees with this attribute, and this one with those before.
      obtain ⟨flag, hflag, hgroups⟩ := ih hrest
      have hhead : aggregation.isAggregate = flag := hflag _ rfl
      have hdenotes := (resolveAttribute_eq_ok_iff.mp hgroup).2
      refine ⟨flag, ?_, .cons ⟨aggregation, haggregation, hhead,
        hdenotes.groupOf haggregation⟩ hgroups⟩
      rintro before ⟨⟩
      rw [← hhead]
      simpa using hagree

/-- The flag of a list is that of the attribute visited first. -/
theorem exists_visited_first {attributes : List Attribute} (h : attributes ≠ []) :
    ∃ a index rest, attributes.zipIdx.reverse = (a, index) :: rest ∧
      aggregates attributes = !a.shape.isPlain := by
  obtain ⟨before, a, hconcat⟩ := attributes.eq_nil_or_concat.resolve_left h
  rw [List.concat_eq_append] at hconcat
  subst hconcat
  refine ⟨a, before.length, before.zipIdx.reverse, ?_, ?_⟩
  · rw [List.zipIdx_append, List.reverse_append]
    simp
  · rw [aggregates, List.getLast?_concat]

/-- The groups give all fields, in whichever order they come out. -/
theorem exists_groups {relations : Relations} {order : ProjectionOrder}
    {attributes : List Attribute} {p : Projection}
    (h : resolve relations order attributes = .ok p) :
    ∃ groups, visit relations none attributes.zipIdx.reverse = .ok groups ∧
      (∀ f, f ∈ p.fields ↔ ∃ group ∈ groups, f ∈ group) ∧
      p.isAggregate = aggregates attributes := by
  obtain ⟨groups, hvisit, h⟩ := bind_eq_ok_iff.mp h
  cases h
  refine ⟨groups, hvisit, fun f => ?_, rfl⟩
  cases order with
  | visitation => exact List.mem_flatten
  | source => simp

/-- A projection that resolves has fields, all in tables of the FROM list, all
aggregated or none, as its flag tells; fields that count rows are hidden ones. -/
theorem resolve_sound {relations : Relations} {order : ProjectionOrder}
    {attributes : List Attribute} {p : Projection}
    (h : resolve relations order attributes = .ok p)
    (hattributes : attributes ≠ []) (hentries : relations.entries ≠ []) :
    p.fields ≠ [] ∧ ∀ f ∈ p.fields, f.ref.table ∈ relations.tables ∧
      (f.aggregation = .countAll → f.ref.index = 0) ∧
      f.aggregation.isAggregate = p.isAggregate := by
  obtain ⟨groups, hvisit, hfields, hflag⟩ := exists_groups h
  obtain ⟨flag, -, hgroups⟩ := visit_sound hvisit
  obtain ⟨a, index, rest, hreverse, hfirst⟩ := exists_visited_first hattributes
  -- The group visited first has a field, and its flag is that of the whole.
  have hhead : flag = p.isAggregate ∧ p.fields ≠ [] := by
    rw [hreverse] at hgroups
    obtain ⟨group, others, ⟨aggregation, hagg, rfl, hgroup⟩, -, rfl⟩ :=
      List.forall₂_cons_left_iff.mp hgroups
    constructor
    · rw [hflag, hfirst, isAggregate_of_aggregation hagg]
    · obtain ⟨f, hf⟩ := List.exists_mem_of_ne_nil _ (hgroup.ne_nil hentries)
      exact List.ne_nil_of_mem ((hfields f).mpr ⟨group, List.mem_cons_self, hf⟩)
  refine ⟨hhead.2, fun f hf => ?_⟩
  obtain ⟨group, hmem, hf⟩ := (hfields f).mp hf
  obtain ⟨_, -, aggregation, -, hsame, hgroup⟩ :=
    exists_of_forall₂_right hgroups hmem
  refine ⟨hgroup.table_mem f hf, fun hcount => ?_, ?_⟩
  · rw [hgroup.aggregation_eq f hf] at hcount
    exact hgroup.countAll_index hcount f hf
  · rw [hgroup.aggregation_eq f hf, hsame, hhead.1]

end Projection

end QueryBind
