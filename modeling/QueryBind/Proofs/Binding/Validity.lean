import Mathlib
import QueryBind.Session
import QueryBind.Proofs.Binding.Filter
import QueryBind.Proofs.Binding.Projection
import QueryBind.Proofs.Schema.Changes
import QueryBind.Proofs.Sql.Derivation

/-!
# Bound statements are valid

What may be relied on once a SELECT is bound: its tables are those of its FROM
list, every field that it projects or compares is one that a table of the list
has, and its flag tells whether its fields are aggregated. Nothing of this is
checked at the end of a binding; it is what the parts of the binding give.
-/

namespace QueryBind

open Sql

/-! ## What a SELECT is written with -/

theorem Sql.Separated.ne_nil {α : Type} {separator : List Token → Prop}
    {one : List Token → α → Prop} {ts : List Token} {as : List α}
    (h : Separated separator one ts as) : as ≠ [] := by
  cases h <;> simp

/-- A SELECT that is read has an attribute and a relation. -/
theorem Sql.ne_nil_of_ofText {text : String} {select : Select}
    (h : Statement.ofText text = .ok (.select select)) :
    select.attributes ≠ [] ∧ select.relations ≠ [] := by
  obtain ⟨_, -, hstatement⟩ := bind_eq_ok_iff.mp h
  obtain ⟨body, -, -, hbody, -⟩ := statement_eq_ok_iff.mp hstatement
  cases hbody with
  | select hselect =>
      cases hselect with
      | of _ hitems _ hnames _ =>
          exact ⟨by simpa using hitems.ne_nil, hnames.ne_nil⟩

/-! ## Validity -/

/-- A reference to a field that a listed table has. -/
structure FieldRef.IsIn (r : FieldRef) (tables : List Table) : Prop where
  table_mem : r.table ∈ tables
  index_lt : r.index < r.table.fieldCount
  field_eq : r.table.fieldAt? r.index = some r.field

/-- What a bound SELECT promises about the catalog and the SELECT that it was
made from. -/
structure BoundSelect.IsValid (b : BoundSelect) (c : Catalog) (s : Select) :
    Prop where
  tables_listed : List.Forall₂ (fun name t => c.find? name = some t ∧
    t.name = name) s.relations b.tables
  fields_ne_nil : b.fields ≠ []
  fields_in : ∀ f ∈ b.fields, f.ref.IsIn b.tables
  countAll_index : ∀ f ∈ b.fields, f.aggregation = .countAll → f.ref.index = 0
  aggregate_iff_all :
    b.isAggregate = true ↔ ∀ f ∈ b.fields, f.aggregation ≠ .none
  aggregate_iff_some :
    b.isAggregate = true ↔ ∃ f ∈ b.fields, f.aggregation ≠ .none
  units_bind : List.Forall₂ (ConditionBinds b.tables) s.conditions b.filter.units
  units_in : ∀ u ∈ b.filter.units, ∀ r : FieldRef,
    u.left = .field r ∨ u.right = .field r → r.IsIn b.tables

theorem FieldRef.isIn_of_mem {r : FieldRef} {tables : List Table}
    (h : r.table ∈ tables) : r.IsIn tables :=
  ⟨h, r.index_lt, r.fieldAt?_index⟩

theorem isIn_of_operandBinds {tables : List Table} {o : Operand}
    {bound : FilterOperand} {r : FieldRef} (h : OperandBinds tables o bound)
    (hr : bound = .field r) : r.IsIn tables := by
  subst hr
  cases h with
  | column hmem _ => exact FieldRef.isIn_of_mem hmem

theorem Aggregation.isAggregate_eq_true_iff {a : Aggregation} :
    a.isAggregate = true ↔ a ≠ .none := by
  rw [isAggregate, bne_iff_ne]

/-- One flag for a list of fields that is not empty tells of all of them and of
any of them. -/
theorem aggregate_iff {fields : List BoundField} {flag : Bool}
    (hne : fields ≠ []) (h : ∀ f ∈ fields, f.aggregation.isAggregate = flag) :
    (flag = true ↔ ∀ f ∈ fields, f.aggregation ≠ .none) ∧
      (flag = true ↔ ∃ f ∈ fields, f.aggregation ≠ .none) := by
  obtain ⟨f, hf⟩ := List.exists_mem_of_ne_nil _ hne
  refine ⟨⟨?_, ?_⟩, ⟨?_, ?_⟩⟩
  · intro hflag g hg
    exact Aggregation.isAggregate_eq_true_iff.mp ((h g hg).trans hflag)
  · intro hall
    exact (h f hf).symm.trans (Aggregation.isAggregate_eq_true_iff.mpr (hall f hf))
  · intro hflag
    exact ⟨f, hf, Aggregation.isAggregate_eq_true_iff.mp ((h f hf).trans hflag)⟩
  · rintro ⟨g, hg, hsome⟩
    exact (h g hg).symm.trans (Aggregation.isAggregate_eq_true_iff.mpr hsome)

theorem bindSelect_isValid {c : Catalog} {settings : Settings} {s : Select}
    {keys : Enumeration} {b : BoundSelect}
    (h : ({ source? := some c.source, settings } : Binder).bindSelect s keys = .ok b)
    (hattributes : s.attributes ≠ []) (hrelations : s.relations ≠ []) :
    b.IsValid c s := by
  obtain ⟨relations, hresolve, h⟩ := bind_eq_ok_iff.mp h
  obtain ⟨projection, hprojection, h⟩ := bind_eq_ok_iff.mp h
  obtain ⟨filter, hfilter, h⟩ := bind_eq_ok_iff.mp h
  cases h
  have htables := Relations.resolve_sound hresolve
  have hentries : relations.entries ≠ [] := by
    intro hempty
    rw [Relations.tables, hempty, List.map_nil, List.forall₂_nil_right_iff] at htables
    exact hrelations htables
  obtain ⟨hne, hfields⟩ := Projection.resolve_sound hprojection hattributes hentries
  obtain ⟨hall, hsome⟩ := aggregate_iff hne fun f hf => (hfields f hf).2.2
  have hunits := Scope.bindConditions_sound hfilter
  exact {
    tables_listed := htables.imp fun name t hfind =>
      ⟨hfind, (Catalog.find?_eq_some_iff.mp hfind).2⟩
    fields_ne_nil := hne
    fields_in := fun f hf => FieldRef.isIn_of_mem (hfields f hf).1
    countAll_index := fun f hf => (hfields f hf).2.1
    aggregate_iff_all := hall
    aggregate_iff_some := hsome
    units_bind := hunits
    units_in := by
      intro u hu r hr
      obtain ⟨c, -, hbinds⟩ := exists_of_forall₂_right hunits hu
      rcases hr with hr | hr
      · exact isIn_of_operandBinds hbinds.left hr
      · exact isIn_of_operandBinds hbinds.right hr }

namespace Session

/-- **A bound statement is valid.** Whatever the catalog and the settings of a
session, a text that binds is a SELECT, and its bound form keeps what it
promises. -/
theorem bind_isValid {s : Session} {text : String} {keys : Enumeration} {b : BoundSelect}
    (h : s.bind text keys = .ok b) :
    ∃ select, Statement.ofText text = .ok (.select select) ∧
      b.IsValid s.catalog select := by
  unfold bind at h
  split at h
  · cases h
  · next select hread =>
      obtain ⟨hattributes, hrelations⟩ := ne_nil_of_ofText hread
      exact ⟨select, hread, bindSelect_isValid h hattributes hrelations⟩
  · cases h

/-- Rows are counted by the hidden field, conditions compare with visible ones. -/
theorem bind_isValid_count :
    ∃ (c : Catalog) (b : BoundSelect) (select : Select),
      Catalog.ofDefinition ⟨"main", [⟨"t", [⟨"a", .integer, true⟩]⟩]⟩ = .ok c ∧
      bind { catalog := c } "SELECT COUNT(*) FROM t WHERE a > 1" = .ok b ∧
      b.IsValid c select ∧ b.fields.map (·.ref.index) = [0] ∧
      b.filter.text = "t.a > 1" := by
  let t : Table := ⟨⟨"t", [⟨"a", .integer, true⟩]⟩,
    ⟨by decide, by decide, by decide, by decide⟩⟩
  let c : Catalog := ⟨"main", [t], 2, List.pairwise_singleton _ _⟩
  let b : BoundSelect := ⟨[t], [⟨⟨t, 0, by decide⟩, .countAll⟩],
    ⟨[⟨.field ⟨t, 1, by decide⟩, .greaterThan, .literal (.integer 1)⟩]⟩, true⟩
  have hc : Catalog.ofDefinition ⟨"main", [t.definition]⟩ = .ok c := by cbv
  have hb : bind { catalog := c } "SELECT COUNT(*) FROM t WHERE a > 1" = .ok b := by
    cbv
  obtain ⟨select, -, hvalid⟩ := bind_isValid hb
  refine ⟨c, b, select, hc, hb, hvalid, by decide, ?_⟩
  cbv

end Session

end QueryBind
