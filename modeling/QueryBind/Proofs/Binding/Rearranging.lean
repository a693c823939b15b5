import QueryBind.Proofs.Binding.Relations

/-!
# The order of a FROM list

The entries of a FROM list may change places. The list resolves in any order or
in none, and a name stands for the same table in all of them: for the table that
the source has under it. So a column, a condition and a wildcard of one table give
the same, wherever the names stand and however they are enumerated. Only a wildcard
of all tables sees the order, and its fields change places with the tables.
-/

namespace QueryBind

open Sql Text

/-! ## The same names in another order -/

/-- Two lists of relations that no name tells apart: the same tables, each under the
same names, and one default table or none. -/
structure Relations.Rearranged (r r' : Relations) : Prop where
  tables_perm : r.tables.Perm r'.tables
  find?_eq : ∀ name, r.find? name = r'.find? name
  default?_eq : r.default? = r'.default?

theorem TableSource.Admits.perm {source : TableSource} {policy : RepeatPolicy}
    {names names' : List String} (hadmits : source.Admits policy names)
    (h : names.Perm names') : source.Admits policy names' := by
  refine ⟨?_, ?_, ?_⟩
  · intro name hname
    exact hadmits.not_blank name (h.mem_iff.mpr hname)
  · intro name hname
    exact hadmits.found name (h.mem_iff.mpr hname)
  · intro hreject
    exact h.nodup_iff.mp (hadmits.nodup hreject)

namespace Relations

variable {source : TableSource} {policy : RepeatPolicy} {names names' : List String}
  {keys : Enumeration} {r r' : Relations}

/-- A name stands for what the source has under it, if it is listed at all. -/
theorem find?_eq_ite_of_resolve (h : resolve source policy names keys = .ok r) (name : String) :
    r.find? name = if name ∈ names then source.find? name else none := by
  by_cases hname : name ∈ names
  · rw [if_pos hname, find?_of_resolve h hname]
  · rw [if_neg hname, find?_eq_none_iff, names_of_resolve h]
    exact hname

theorem default?_eq_of_perm (h : r.entries.Perm r'.entries) : r.default? = r'.default? := by
  ext t
  rw [default?_eq_some_iff, default?_eq_some_iff]
  constructor
  · rintro ⟨name, hentries⟩
    rw [hentries] at h
    exact ⟨name, (List.singleton_perm.mp h).symm⟩
  · rintro ⟨name, hentries⟩
    rw [hentries] at h
    exact ⟨name, List.perm_singleton.mp h⟩

/-- A FROM list resolves in any order, if it does in one. -/
theorem resolve_perm (h : names.Perm names')
    (hr : resolve source policy names keys = .ok r) (keys' : Enumeration) :
    ∃ r', resolve source policy names' keys' = .ok r' ∧ r.Rearranged r' := by
  obtain ⟨hadmits, rfl⟩ := resolve_eq_ok_iff.mp hr
  have hr' : resolve source policy names' keys' = _ := resolve_of_admits (hadmits.perm h)
  have hentries : (source.entriesOf names).Perm (source.entriesOf names') := h.filterMap _
  refine ⟨_, hr', hentries.map _, ?_, default?_eq_of_perm hentries⟩
  intro name
  simp only [find?_eq_ite_of_resolve hr, find?_eq_ite_of_resolve hr', h.mem_iff]

/-- The table at each place is the one of the name at that place. -/
theorem tables_getElem?_of_resolve (h : resolve source policy names keys = .ok r) (i : Nat) :
    r.tables[i]? = names[i]?.bind source.find? := by
  have hsound := resolve_sound h
  clear h
  generalize r.tables = tables at hsound ⊢
  induction hsound generalizing i with
  | nil => simp
  | cons hfind _ ih =>
      cases i with
      | zero => simp [hfind]
      | succ i => simpa using ih i

end Relations

/-! ## Attributes -/

/-- The attribute is a wildcard of all tables: no table is named before it, or the
wildcard is. -/
def Sql.Attribute.IsAllTables (a : Attribute) : Prop :=
  a.name = wildcard ∧ ∀ relation ∈ a.relation, isBlank relation = true ∨ relation = wildcard

theorem Sql.Attribute.isAllTables_iff {a : Attribute} :
    a.IsAllTables ↔ isWildcard a.name = true ∧ a.qualifier?.all isWildcard = true := by
  rw [IsAllTables, all_isWildcard_qualifier?, isWildcard, beq_iff_eq]

section Rearranged

variable {r r' : Relations} (h : r.Rearranged r') {a : Attribute}

include h

theorem Relations.Rearranged.tableOf_eq_ok {t : Table} (ht : r.tableOf a = .ok t) :
    r'.tableOf a = .ok t := by
  unfold tableOf at ht ⊢
  simp only [← h.default?_eq, ← h.find?_eq]
  cases hqualifier : a.qualifier? with
  | none =>
      cases hdefault : r.default? with
      | none => simp [hqualifier, hdefault] at ht
      | some u => simpa [hqualifier, hdefault] using ht
  | some relation =>
      cases hfind : r.find? relation with
      | none => simp [hqualifier, hfind] at ht
      | some u => simpa [hqualifier, hfind] using ht

/-- What an attribute denotes, it denotes in another order as well; a wildcard of all
tables apart, in the same order. -/
theorem Denotes.rearranged {aggregation : Aggregation} {group : List BoundField}
    (hgroup : Denotes r a aggregation group) :
    ∃ group', Denotes r' a aggregation group' ∧ group.Perm group' ∧
      (¬ a.IsAllTables → group = group') := by
  cases hgroup with
  | allTables hname hqualifier hcheck =>
      refine ⟨_, .allTables hname hqualifier hcheck, h.tables_perm.flatMap_right _, ?_⟩
      intro hone
      exact absurd (Attribute.isAllTables_iff.mpr ⟨hname, hqualifier⟩) hone
  | oneTable hname hqualifier ht hcheck =>
      exact ⟨_, .oneTable hname hqualifier (h.tableOf_eq_ok ht) hcheck, .refl _,
        fun _ => rfl⟩
  | column hname hqualifier ht href =>
      exact ⟨_, .column hname hqualifier (h.tableOf_eq_ok ht) href, .refl _, fun _ => rfl⟩

theorem Relations.Rearranged.alone {i : Nat} {aggregation : Aggregation}
    {group : List BoundField} (halone : r.alone (a, i) = .ok (aggregation, group)) :
    ∃ group', r'.alone (a, i) = .ok (aggregation, group') ∧ group.Perm group' ∧
      (¬ a.IsAllTables → group = group') := by
  obtain ⟨haggregation, hgroup⟩ := alone_eq_ok_iff.mp halone
  obtain ⟨hblank, hdenotes⟩ := resolveAttribute_eq_ok_iff.mp hgroup
  obtain ⟨group', hdenotes', hperm, heq⟩ := hdenotes.rearranged h
  have hgroup' : resolveAttribute r' i a aggregation = .ok group' :=
    resolveAttribute_eq_ok_iff.mpr ⟨hblank, hdenotes'⟩
  exact ⟨group', alone_eq_ok_iff.mpr ⟨haggregation, hgroup'⟩, hperm, heq⟩

theorem Gives.rearranged {flag : Bool} {as : List Attribute} {fields : List BoundField}
    (hgives : Gives r flag as fields) :
    ∃ fields', Gives r' flag as fields' ∧ fields.Perm fields' ∧
      ((∀ a ∈ as, ¬ a.IsAllTables) → fields = fields') := by
  induction hgives with
  | nil => exact ⟨[], .nil, .refl _, fun _ => rfl⟩
  | cons halone hflag _ ih =>
      obtain ⟨group', halone', hgroup, hgroup_eq⟩ := h.alone halone
      obtain ⟨fields', hgives', hfields, hfields_eq⟩ := ih
      refine ⟨group' ++ fields', .cons halone' hflag hgives', hgroup.append hfields, ?_⟩
      intro hnone
      obtain ⟨hhead, htail⟩ := List.forall_mem_cons.mp hnone
      rw [hgroup_eq hhead, hfields_eq htail]

theorem Projection.resolve_rearranged {order : ProjectionOrder} {as : List Attribute}
    {p : Projection} (hp : resolve r order as = .ok p) :
    ∃ p', resolve r' order as = .ok p' ∧ p.isAggregate = p'.isAggregate ∧
      p.fields.Perm p'.fields ∧
      ((∀ a ∈ as, ¬ a.IsAllTables) → p.fields = p'.fields) := by
  obtain ⟨flag, hgives, haggregate⟩ := resolve_eq_ok_iff_gives.mp hp
  obtain ⟨fields', hgives', hperm, heq⟩ := hgives.rearranged h
  have hmem : ∀ a, a ∈ order.arrange as ↔ a ∈ as := by
    intro a
    cases order <;> simp [ProjectionOrder.arrange]
  refine ⟨⟨fields', p.isAggregate⟩,
    resolve_eq_ok_iff_gives.mpr ⟨flag, hgives', haggregate⟩, rfl, hperm, ?_⟩
  intro hnone
  apply heq
  intro a ha
  exact hnone a ((hmem a).mp ha)

end Rearranged

/-! ## Conditions -/

/-- Conditions consult nothing but what names stand for. -/
theorem Scope.bindConditions_congr {s s' : Scope} (hcatalog : s.catalog = s'.catalog)
    (hdefault : s.default? = s'.default?) (hfind : ∀ name, s.find? name = s'.find? name) :
    s.bindConditions = s'.bindConditions := by
  have htable : s.tableOf = s'.tableOf := by
    funext a
    simp only [tableOf, hcatalog, hdefault, hfind]
  have hattribute : s.bindAttribute = s'.bindAttribute := by
    funext a
    simp only [bindAttribute, htable]
  have hoperand : s.bindOperand = s'.bindOperand := by
    funext o
    cases o with
    | literal v => rfl
    | column a => rw [bindOperand, bindOperand, hattribute]
  have hcondition : s.bindCondition = s'.bindCondition := by
    funext c
    simp only [bindCondition, hoperand]
  funext conditions
  rw [bindConditions, bindConditions, hcondition]

/-! ## SELECTs -/

/-- Two bound SELECTs that differ in the order of the FROM list: at each name stands
its table, the fields are the same in some order, and in the same order without a
wildcard of all tables; all else is equal. -/
structure BoundSelect.Rearranged (names names' : List String) (attributes : List Attribute)
    (bound bound' : BoundSelect) : Prop where
  tables_perm : bound.tables.Perm bound'.tables
  tables_eq : ∀ i j : Nat, names[i]? = names'[j]? → bound.tables[i]? = bound'.tables[j]?
  filter_eq : bound.filter = bound'.filter
  isAggregate_eq : bound.isAggregate = bound'.isAggregate
  fields_perm : bound.fields.Perm bound'.fields
  fields_eq : (∀ a ∈ attributes, ¬ a.IsAllTables) → bound.fields = bound'.fields

theorem TableSource.bindSelect_rearranged {source : TableSource} {order : ProjectionOrder}
    {policy : RepeatPolicy} {names names' : List String} (h : names.Perm names')
    {attributes : List Attribute} {conditions : List Condition} {keys : Enumeration}
    {bound : BoundSelect}
    (hbound : (source.binder order Scope.bindConditions policy).bindSelect
      ⟨names, attributes, conditions⟩ keys = .ok bound) (keys' : Enumeration) :
    ∃ bound', (source.binder order Scope.bindConditions policy).bindSelect
        ⟨names', attributes, conditions⟩ keys' = .ok bound' ∧
      bound.Rearranged names names' attributes bound' := by
  obtain ⟨r, hr, p, hp, f, hf, rfl⟩ := (Binder.bindSelect_eq_ok_iff rfl).mp hbound
  obtain ⟨r', hr', hrearranged⟩ := Relations.resolve_perm h hr keys'
  obtain ⟨p', hp', haggregate, hperm, heq⟩ := Projection.resolve_rearranged hrearranged hp
  have hscope : Scope.bindConditions (Scope.ofRelations source r) =
      Scope.bindConditions (Scope.ofRelations source r') :=
    Scope.bindConditions_congr rfl hrearranged.default?_eq hrearranged.find?_eq
  have hf' : Scope.bindConditions (Scope.ofRelations source r') conditions = .ok f := by
    rw [← hscope]
    exact hf
  refine ⟨⟨r'.tables, p'.fields, f, p'.isAggregate⟩,
    (Binder.bindSelect_eq_ok_iff rfl).mpr ⟨r', hr', p', hp', f, hf', rfl⟩, ?_⟩
  refine ⟨hrearranged.tables_perm, ?_, rfl, haggregate, hperm, heq⟩
  intro i j hname
  show r.tables[i]? = r'.tables[j]?
  rw [Relations.tables_getElem?_of_resolve hr, Relations.tables_getElem?_of_resolve hr', hname]

/-- **The order of a FROM list is seen by wildcards of all tables only.** A SELECT binds
exactly if it does with its FROM list in another order, however the names are
enumerated. If so, the tables have changed places with their names, the filter and
the flag are the same, and so are the fields, in the same order too if no attribute
is a wildcard of all tables. -/
theorem Binder.bindSelect_perm (source : TableSource) (order : ProjectionOrder)
    (policy : RepeatPolicy) {names names' : List String} (h : names.Perm names')
    (attributes : List Attribute) (conditions : List Condition)
    (keys keys' : Enumeration) :
    ((∃ bound, (source.binder order Scope.bindConditions policy).bindSelect
        ⟨names, attributes, conditions⟩ keys = .ok bound) ↔
      ∃ bound', (source.binder order Scope.bindConditions policy).bindSelect
        ⟨names', attributes, conditions⟩ keys' = .ok bound') ∧
    ∀ bound bound', (source.binder order Scope.bindConditions policy).bindSelect
        ⟨names, attributes, conditions⟩ keys = .ok bound →
      (source.binder order Scope.bindConditions policy).bindSelect
        ⟨names', attributes, conditions⟩ keys' = .ok bound' →
      bound.Rearranged names names' attributes bound' := by
  refine ⟨⟨?_, ?_⟩, ?_⟩
  · rintro ⟨bound, hbound⟩
    obtain ⟨bound', hbound', -⟩ := TableSource.bindSelect_rearranged h hbound keys'
    exact ⟨bound', hbound'⟩
  · rintro ⟨bound', hbound'⟩
    obtain ⟨bound, hbound, -⟩ := TableSource.bindSelect_rearranged h.symm hbound' keys
    exact ⟨bound, hbound⟩
  · intro bound bound' hbound hbound'
    obtain ⟨other, hother, hrearranged⟩ := TableSource.bindSelect_rearranged h hbound keys'
    rw [hbound'] at hother
    cases hother
    exact hrearranged

/-- `SELECT a.x, b.y FROM a, b, a WHERE a.x = b.y`, and the same from `b, a, a`. -/
theorem Binder.bindSelect_perm_repeated :
    ∃ (source : TableSource) (bound bound' : BoundSelect),
      ["a", "b", "a"].Perm ["b", "a", "a"] ∧
      (source.binder .source Scope.bindConditions .lastWins).bindSelect
        ⟨["a", "b", "a"], [⟨some "a", "x", .plain⟩, ⟨some "b", "y", .plain⟩],
          [⟨.column ⟨some "a", "x", .plain⟩, .equal, .column ⟨some "b", "y", .plain⟩⟩]⟩ =
        .ok bound ∧
      (source.binder .source Scope.bindConditions .lastWins).bindSelect
        ⟨["b", "a", "a"], [⟨some "a", "x", .plain⟩, ⟨some "b", "y", .plain⟩],
          [⟨.column ⟨some "a", "x", .plain⟩, .equal, .column ⟨some "b", "y", .plain⟩⟩]⟩ =
        .ok bound' ∧
      bound.tables.map (·.name) = ["a", "b", "a"] ∧
      bound'.tables.map (·.name) = ["b", "a", "a"] ∧
      bound.Rearranged ["a", "b", "a"] ["b", "a", "a"]
        [⟨some "a", "x", .plain⟩, ⟨some "b", "y", .plain⟩] bound' := by
  let t : Table := ⟨⟨"a", [⟨"x", .integer, true⟩]⟩,
    ⟨by decide, by decide, by decide, by decide⟩⟩
  let u : Table := ⟨⟨"b", [⟨"y", .integer, true⟩]⟩,
    ⟨by decide, by decide, by decide, by decide⟩⟩
  let source : TableSource := ⟨"main", fun name => [t, u].find? (·.name == name)⟩
  let tx : FieldRef := ⟨t, 1, by decide⟩
  let uy : FieldRef := ⟨u, 1, by decide⟩
  let fields : List BoundField := [⟨tx, .none⟩, ⟨uy, .none⟩]
  let filter : Filter := ⟨[⟨.field tx, .equal, .field uy⟩]⟩
  let condition : Condition :=
    ⟨.column ⟨some "a", "x", .plain⟩, .equal, .column ⟨some "b", "y", .plain⟩⟩
  have hperm : ["a", "b", "a"].Perm ["b", "a", "a"] := by decide
  refine ⟨source, ⟨[t, u, t], fields, filter, false⟩, ⟨[u, t, t], fields, filter, false⟩,
    hperm, rfl, rfl, rfl, rfl, ?_⟩
  exact (bindSelect_perm source .source .lastWins hperm _ [condition] .listed .listed).2
    _ _ rfl rfl

end QueryBind
