import QueryBind.Proofs.Binding.Enumerations
import QueryBind.Proofs.Binding.Typing
import QueryBind.Proofs.Binding.Visiting

/-!
# Wildcards written out

A wildcard is short for a list of columns, and a SELECT binds to the same whether
the wildcard or its list is written. The two take different ways: a wildcard goes
through the fields of a table by their indices, leaving the hidden ones out, and
a column is found by its name in the last table that goes by its qualifier.

What attributes give is told first without regard to where they stand in the
list. Then a wildcard and its list give the same, and so do two lists of
attributes that differ by wildcards written out.
-/

namespace QueryBind

open Sql Text

/-! ## What attributes give -/

/-- What an attribute comes to has nothing to do with its index. -/
theorem Relations.alone_index {relations : Relations} {a : Attribute} {i : Nat}
    {result : Aggregation × List BoundField} (h : relations.alone (a, i) = .ok result)
    (j : Nat) : relations.alone (a, j) = .ok result := by
  obtain ⟨haggregation, hgroup⟩ := alone_eq_ok_iff.mp h
  rw [resolveAttribute_eq_ok_iff] at hgroup
  exact alone_eq_ok_iff.mpr ⟨haggregation, resolveAttribute_eq_ok_iff.mpr hgroup⟩

/-- Attributes give fields, one group after the other. All of them are aggregated
or none is, as `flag` tells. -/
inductive Gives (relations : Relations) (flag : Bool) :
    List Attribute → List BoundField → Prop where
  | nil : Gives relations flag [] []
  | cons {a i aggregation group as fields} :
      relations.alone (a, i) = .ok (aggregation, group) →
      aggregation.isAggregate = flag → Gives relations flag as fields →
      Gives relations flag (a :: as) (group ++ fields)

namespace Gives

variable {relations : Relations} {flag flag' : Bool} {as bs : List Attribute}
  {fields fields' : List BoundField}

theorem append (ha : Gives relations flag as fields)
    (hb : Gives relations flag bs fields') :
    Gives relations flag (as ++ bs) (fields ++ fields') := by
  induction ha with
  | nil => exact hb
  | cons halone hflag _ ih =>
      rw [List.cons_append, List.append_assoc]
      exact .cons halone hflag ih

theorem of_append (h : Gives relations flag (as ++ bs) fields) :
    ∃ front back, Gives relations flag as front ∧ Gives relations flag bs back ∧
      fields = front ++ back := by
  induction as generalizing fields with
  | nil => exact ⟨[], fields, .nil, h, rfl⟩
  | cons a as ih =>
      rcases h with _ | ⟨halone, hflag, hrest⟩
      obtain ⟨front, back, hfront, hback, rfl⟩ := ih hrest
      exact ⟨_, back, .cons halone hflag hfront, hback, (List.append_assoc ..).symm⟩

/-- What two lists give in a row depends on what each of them gives. -/
theorem append_congr {as' bs' : List Attribute}
    (has : ∀ fields, Gives relations flag as fields ↔ Gives relations flag as' fields)
    (hbs : ∀ fields, Gives relations flag bs fields ↔ Gives relations flag bs' fields) :
    Gives relations flag (as ++ bs) fields ↔
      Gives relations flag (as' ++ bs') fields := by
  constructor
  · intro h
    obtain ⟨front, back, hfront, hback, rfl⟩ := h.of_append
    exact ((has _).mp hfront).append ((hbs _).mp hback)
  · intro h
    obtain ⟨front, back, hfront, hback, rfl⟩ := h.of_append
    exact ((has _).mpr hfront).append ((hbs _).mpr hback)

/-- Attributes give no two lists of fields, and if there is one at all, they are
not both aggregated and plain. -/
theorem unique (h : Gives relations flag as fields)
    (h' : Gives relations flag' as fields') :
    fields' = fields ∧ (as ≠ [] → flag' = flag) := by
  induction h generalizing fields' with
  | nil =>
      cases h'
      exact ⟨rfl, fun hne => absurd rfl hne⟩
  | @cons _ i _ _ _ _ halone hflag _ ih =>
      rcases h' with _ | ⟨halone', hflag', hrest'⟩
      -- The two may come from different places of a list.
      have hsame := halone.symm.trans (Relations.alone_index halone' i)
      cases hsame
      refine ⟨?_, fun _ => hflag'.symm.trans hflag⟩
      rw [(ih hrest').1]

/-- Two lists that give the same fields once give the same altogether. -/
theorem congr (ha : Gives relations flag as fields)
    (hb : Gives relations flag bs fields) (has : as ≠ []) (hbs : bs ≠ []) :
    Gives relations flag' as fields' ↔ Gives relations flag' bs fields' := by
  constructor
  · intro h
    obtain ⟨rfl, hflag⟩ := ha.unique h
    rw [hflag has]
    exact hb
  · intro h
    obtain ⟨rfl, hflag⟩ := hb.unique h
    rw [hflag hbs]
    exact ha

end Gives

theorem gives_iff {relations : Relations} {flag : Bool}
    {entries : List (Attribute × Nat)} {fields : List BoundField} :
    Gives relations flag (entries.map (·.1)) fields ↔ ∃ results,
      List.Forall₂ (fun entry result => relations.alone entry = .ok result)
        entries results ∧
      (∀ r ∈ results, r.1.isAggregate = flag) ∧
      fields = results.flatMap (·.2) := by
  induction entries generalizing fields with
  | nil =>
      constructor
      · rintro ⟨⟩
        exact ⟨[], .nil, by simp, rfl⟩
      · rintro ⟨_, ⟨⟩, -, rfl⟩
        exact .nil
  | cons entry entries ih =>
      constructor
      · rintro (_ | ⟨halone, hflag, hrest⟩)
        obtain ⟨results, hresults, hflags, rfl⟩ := ih.mp hrest
        refine ⟨_ :: results, .cons (Relations.alone_index halone entry.2) hresults, ?_, rfl⟩
        exact List.forall_mem_cons.mpr ⟨hflag, hflags⟩
      · rintro ⟨_, ⟨⟩ | ⟨halone, hresults⟩, hflags, rfl⟩
        obtain ⟨hflag, hflags⟩ := List.forall_mem_cons.mp hflags
        exact .cons halone hflag (ih.mpr ⟨_, hresults, hflags, rfl⟩)

/-! ## Projections -/

/-- A list as it comes out in an order: turned round in that of the visits. -/
def ProjectionOrder.arrange {α : Type} : ProjectionOrder → List α → List α
  | .visitation, xs => xs.reverse
  | .source, xs => xs

theorem gives_arrange_iff {relations : Relations} {flag : Bool}
    {order : ProjectionOrder} {as : List Attribute} {fields : List BoundField} :
    Gives relations flag (order.arrange as) fields ↔ ∃ results,
      List.Forall₂ (fun entry result => relations.alone entry = .ok result)
        as.zipIdx results ∧
      (∀ r ∈ results, r.1.isAggregate = flag) ∧
      fields = match order with
        | .visitation => results.reverse.flatMap (·.2)
        | .source => results.flatMap (·.2) := by
  have hfirst : as.zipIdx.map (·.1) = as := List.zipIdx_map_fst 0 as
  cases order with
  | source =>
      show Gives relations flag as fields ↔ _
      rw [← hfirst, gives_iff, hfirst]
  | visitation =>
      show Gives relations flag as.reverse fields ↔ _
      rw [← hfirst, ← List.map_reverse, gives_iff, hfirst]
      constructor
      · rintro ⟨results, hresults, hflags, rfl⟩
        refine ⟨results.reverse, ?_, by simpa using hflags, by simp⟩
        simpa using List.rel_reverse hresults
      · rintro ⟨results, hresults, hflags, rfl⟩
        exact ⟨results.reverse, List.rel_reverse hresults, by simpa using hflags, rfl⟩

theorem Projection.aggregates_eq {relations : Relations} {as : List Attribute}
    {results : List (Aggregation × List BoundField)} {flag : Bool}
    (hresults : List.Forall₂ (fun entry result => relations.alone entry = .ok result)
      as.zipIdx results)
    (hflags : ∀ r ∈ results, r.1.isAggregate = flag) :
    aggregates as = (flag && !as.isEmpty) := by
  rw [Bool.eq_iff_iff, aggregates_eq_true_iff hresults hflags]
  rcases as with _ | ⟨a, as⟩
  · simp
  rw [List.zipIdx_cons] at hresults
  obtain ⟨r, results, -, -, rfl⟩ := List.forall₂_cons_left_iff.mp hresults
  constructor
  · rintro ⟨-, hall⟩
    have hhead : flag = true :=
      (hflags r List.mem_cons_self).symm.trans (hall r List.mem_cons_self)
    simp [hhead]
  · intro hflag
    refine ⟨by simp, fun r hr => ?_⟩
    rw [hflags r hr]
    simpa using hflag

/-- A projection is what its attributes give, as they come out in its order. -/
theorem Projection.resolve_eq_ok_iff_gives {relations : Relations}
    {order : ProjectionOrder} {as : List Attribute} {p : Projection} :
    resolve relations order as = .ok p ↔ ∃ flag,
      Gives relations flag (order.arrange as) p.fields ∧
      p.isAggregate = (flag && !(order.arrange as).isEmpty) := by
  have hempty : (order.arrange as).isEmpty = as.isEmpty := by
    cases order <;> simp [ProjectionOrder.arrange]
  rw [resolve_eq_ok_iff, hempty]
  simp only [gives_arrange_iff]
  constructor
  · rintro ⟨results, hresults, ⟨flag, hflags⟩, hflag, hfields⟩
    rw [aggregates_eq hresults hflags] at hflag
    exact ⟨flag, ⟨results, hresults, hflags, hfields⟩, hflag⟩
  · rintro ⟨flag, ⟨results, hresults, hflags, hfields⟩, hflag⟩
    rw [← aggregates_eq hresults hflags] at hflag
    exact ⟨results, hresults, ⟨flag, hflags⟩, hflag, hfields⟩

/-! ## Listings -/

/-- The columns of the table that a source has under a name, as declared, each
written with that name before it. -/
def TableSource.columnsOf (source : TableSource) (name : String) : List Attribute :=
  match source.find? name with
  | some t => t.definition.columns.map fun c => ⟨some name, c.name, .plain⟩
  | none => []

/-- What a plain wildcard is short for: the columns of all tables listed, in the
order of the list and as often as they are listed, or those of one table. A blank
qualifier is none. -/
inductive Lists (source : TableSource) (names : List String) :
    Attribute → List Attribute → Prop where
  | allTables {relation : Option String} :
      (∀ name ∈ relation, isBlank name = true ∨ name = wildcard) →
      Lists source names ⟨relation, wildcard, .plain⟩ (names.flatMap source.columnsOf)
  | oneTable {name} : name ∈ names →
      Lists source names ⟨some name, wildcard, .plain⟩ (source.columnsOf name)

theorem Sql.Attribute.all_isWildcard_qualifier? {a : Attribute} :
    a.qualifier?.all isWildcard = true ↔
      ∀ name ∈ a.relation, isBlank name = true ∨ name = wildcard := by
  rw [Option.all_eq_true]
  simp only [qualifier?_eq_some_iff, isWildcard, beq_iff_eq, Option.mem_def, and_imp]
  apply forall₂_congr
  intro name _
  by_cases hblank : isBlank name = true <;> simp [hblank]

/-- Some wildcards of a list are written out where they stand, each the way that
its fields come out in an order. -/
inductive WrittenOut (source : TableSource) (names : List String)
    (order : ProjectionOrder) : List Attribute → List Attribute → Prop where
  | nil : WrittenOut source names order [] []
  | keep {a as bs} : WrittenOut source names order as bs →
      WrittenOut source names order (a :: as) (a :: bs)
  | listing {a columns as bs} : Lists source names a columns →
      WrittenOut source names order as bs →
      WrittenOut source names order (a :: as) (order.arrange columns ++ bs)

/-- No column of a table listed has the name that stands for all columns. -/
def TableSource.NoneNamedWildcard (source : TableSource) (names : List String) : Prop :=
  ∀ name ∈ names, ∀ t, source.find? name = some t →
    ∀ c ∈ t.definition.columns, c.name ≠ wildcard

namespace WrittenOut

variable {source : TableSource} {names : List String} {order : ProjectionOrder}

theorem append {as as' bs bs' : List Attribute}
    (h : WrittenOut source names order as as')
    (h' : WrittenOut source names order bs bs') :
    WrittenOut source names order (as ++ bs) (as' ++ bs') := by
  induction h with
  | nil => exact h'
  | keep _ ih => exact .keep ih
  | listing hlists _ ih =>
      rw [List.cons_append, List.append_assoc]
      exact .listing hlists ih

/-- As they come out, the lists differ by wildcards written out forwards. -/
theorem arrange {as bs : List Attribute} (h : WrittenOut source names order as bs) :
    WrittenOut source names .source (order.arrange as) (order.arrange bs) := by
  cases order with
  | source => exact h
  | visitation =>
      show WrittenOut source names .source as.reverse bs.reverse
      induction h with
      | nil => exact .nil
      | keep _ ih =>
          rw [List.reverse_cons, List.reverse_cons]
          exact ih.append (.keep .nil)
      | @listing a columns as bs hlists _ ih =>
          rw [List.reverse_cons, List.reverse_append]
          show WrittenOut source names .source _ (bs.reverse ++ columns.reverse.reverse)
          rw [List.reverse_reverse]
          have hlast : WrittenOut source names .source [a] (columns ++ []) :=
            .listing hlists .nil
          rw [List.append_nil] at hlast
          exact ih.append hlast

end WrittenOut

/-! ## Wildcards and their listings -/

/-- The fields that a wildcard goes through are those of the columns. -/
theorem Table.forall₂_columns_userRefs (t : Table) :
    List.Forall₂ (fun c r => r.table = t ∧ r.field.name = c.name)
      t.definition.columns t.userRefs := by
  rw [List.forall₂_iff_get]
  constructor
  · simp [userRefs, fields_length, systemFieldCount]
  · intro i hi hi'
    refine ⟨table_of_mem_userRefs (List.get_mem t.userRefs ⟨i, hi'⟩), ?_⟩
    simp [userRefs, FieldRef.field, fields, systemFieldCount]

/-- Columns that come to one field each give these fields. -/
theorem gives_of_refs {relations : Relations} {as : List Attribute}
    {refs : List FieldRef}
    (h : List.Forall₂ (fun a r => relations.alone (a, 0) = .ok (.none, [⟨r, .none⟩]))
      as refs) :
    Gives relations false as (refs.map fun r => ⟨r, .none⟩) := by
  induction h with
  | nil => exact .nil
  | cons halone _ ih => exact .cons halone rfl ih

theorem gives_flatMap {relations : Relations} {listing : String → List Attribute}
    {names : List String} {tables : List Table}
    (h : List.Forall₂ (fun name t =>
      Gives relations false (listing name) (t.expand .none)) names tables) :
    Gives relations false (names.flatMap listing)
      (tables.flatMap (·.expand .none)) := by
  induction h with
  | nil => exact .nil
  | cons hfirst _ ih =>
      rw [List.flatMap_cons, List.flatMap_cons]
      exact hfirst.append ih

theorem Relations.tableOf_qualified {relations : Relations} {name column : String}
    {t : Table} (hblank : isBlank name = false) (ht : relations.find? name = some t) :
    relations.tableOf ⟨some name, column, .plain⟩ = .ok t := by
  have hqualifier : (⟨some name, column, .plain⟩ : Attribute).qualifier? = some name :=
    Attribute.qualifier?_eq_some_iff.mpr ⟨rfl, hblank⟩
  rw [tableOf, hqualifier]
  dsimp only
  rw [ht]

section Listed

variable {source : TableSource} {policy : RepeatPolicy} {names : List String}
  {keys : Enumeration} {relations : Relations} {name : String} {t : Table}
  (hfrom : Relations.resolve source policy names keys = .ok relations)
include hfrom

/-- A column of a table that is listed, written with its name, is found. -/
theorem alone_column (hname : name ∈ names) (hmarker : name ≠ wildcard)
    (ht : source.find? name = some t) {r : FieldRef} (htable : r.table = t)
    (hcolumn : r.field.name ≠ wildcard) (index : Nat) :
    relations.alone (⟨some name, r.field.name, .plain⟩, index) =
      .ok (.none, [⟨r, .none⟩]) := by
  have hfound : relations.tableOf ⟨some name, r.field.name, .plain⟩ = .ok t := by
    apply Relations.tableOf_qualified (Relations.isBlank_of_resolve hfrom hname)
    rw [Relations.find?_of_resolve hfrom hname, ht]
  have hisColumn : (⟨some name, r.field.name, .plain⟩ : Attribute).IsColumn :=
    ⟨rfl, hcolumn, by simpa using hmarker⟩
  obtain ⟨-, hnot, hqualifier⟩ := Attribute.isColumn_iff.mp hisColumn
  have href : t.ref? r.field.name = some r :=
    Table.ref?_eq_some_iff_name.mpr ⟨htable, rfl⟩
  apply Relations.alone_eq_ok_iff.mpr
  refine ⟨rfl, ?_⟩
  apply (Denotes.column hnot hqualifier hfound href).resolveAttribute_eq
  exact r.name_not_blank

/-- The columns of a table that is listed give the fields that a wildcard goes
through. -/
theorem gives_columnsOf (hname : name ∈ names) (hmarker : name ≠ wildcard)
    (hcolumns : source.NoneNamedWildcard names) (ht : source.find? name = some t) :
    Gives relations false (source.columnsOf name) (t.expand .none) := by
  have hlisting : source.columnsOf name =
      t.definition.columns.map fun c => ⟨some name, c.name, .plain⟩ := by
    rw [TableSource.columnsOf, ht]
  rw [hlisting]
  apply gives_of_refs
  rw [List.forall₂_map_left_iff]
  have hcolumn : ∀ c ∈ t.definition.columns, c.name ≠ wildcard :=
    hcolumns name hname t ht
  apply ((List.forall₂_and_left ..).mpr ⟨hcolumn, t.forall₂_columns_userRefs⟩).imp
  rintro c r ⟨hc, htable, hfield⟩
  rw [← hfield] at hc ⊢
  exact alone_column hfrom hname hmarker ht htable hc 0

/-- What a plain wildcard denotes it gives, and something is denoted. -/
theorem gives_wildcard (hne : names ≠ []) {relation : Option String}
    {fields : List BoundField}
    (h : Denotes relations ⟨relation, wildcard, .plain⟩ .none fields) :
    Gives relations false [⟨relation, wildcard, .plain⟩] fields ∧ fields ≠ [] := by
  have hentries : relations.entries ≠ [] := by
    rintro hempty
    rw [← Relations.names_of_resolve hfrom, Relations.names, hempty] at hne
    exact hne rfl
  refine ⟨?_, (h.groupOf rfl).ne_nil hentries⟩
  have hmarker : isBlank wildcard = false := by decide
  have halone : relations.alone (⟨relation, wildcard, .plain⟩, 0) = .ok (.none, fields) :=
    Relations.alone_eq_ok_iff.mpr ⟨rfl, h.resolveAttribute_eq hmarker 0⟩
  rw [← List.append_nil fields]
  exact .cons halone rfl .nil

variable (hne : names ≠ []) (hmarker : wildcard ∉ names)
  (hcolumns : source.NoneNamedWildcard names)
include hne hmarker hcolumns

/-- A wildcard and its listing give the same fields, and there are some. -/
theorem exists_gives {a : Attribute} {columns : List Attribute}
    (h : Lists source names a columns) :
    ∃ fields, Gives relations false [a] fields ∧
      Gives relations false columns fields ∧ fields ≠ [] := by
  rcases h with ⟨hrelation⟩ | ⟨hname⟩
  · have hall := (Attribute.all_isWildcard_qualifier?
      (a := ⟨_, wildcard, .plain⟩)).mpr hrelation
    obtain ⟨hwildcard, hsome⟩ := gives_wildcard hfrom hne (.allTables rfl hall rfl)
    refine ⟨_, hwildcard, gives_flatMap ?_, hsome⟩
    have hlisted := (List.forall₂_and_left ..).mpr
      ⟨fun name (hname : name ∈ names) => hname, Relations.resolve_sound hfrom⟩
    apply hlisted.imp
    rintro name t ⟨hname, ht⟩
    exact gives_columnsOf hfrom hname (ne_of_mem_of_not_mem hname hmarker) hcolumns ht
  · next name =>
    obtain ⟨t, -, ht⟩ :=
      exists_of_forall₂_right (Relations.resolve_sound hfrom).flip hname
    have hnot : name ≠ wildcard := ne_of_mem_of_not_mem hname hmarker
    have hblank := Relations.isBlank_of_resolve hfrom hname
    have hqualifier : (⟨some name, wildcard, .plain⟩ : Attribute).qualifier? = some name :=
      Attribute.qualifier?_eq_some_iff.mpr ⟨rfl, hblank⟩
    have hone : (⟨some name, wildcard, .plain⟩ : Attribute).qualifier?.all isWildcard =
        false := by
      rw [hqualifier, Option.all_some]
      exact beq_eq_false_iff_ne.mpr hnot
    have htable : relations.tableOf ⟨some name, wildcard, .plain⟩ = .ok t := by
      apply Relations.tableOf_qualified hblank
      rw [Relations.find?_of_resolve hfrom hname, ht]
    obtain ⟨hwildcard, hsome⟩ :=
      gives_wildcard hfrom hne (.oneTable rfl hone htable rfl)
    exact ⟨_, hwildcard, gives_columnsOf hfrom hname hnot hcolumns ht, hsome⟩

/-- Wildcards may be written out without a change to what a list gives. -/
theorem gives_iff_of_writtenOut {as bs : List Attribute}
    (h : WrittenOut source names .source as bs) {flag : Bool} {fields : List BoundField} :
    (Gives relations flag as fields ↔ Gives relations flag bs fields) ∧
      as.isEmpty = bs.isEmpty := by
  induction h generalizing fields with
  | nil => exact ⟨Iff.rfl, rfl⟩
  | @keep a as bs _ ih =>
      refine ⟨?_, rfl⟩
      rw [← List.singleton_append, ← List.singleton_append (l := bs)]
      exact Gives.append_congr (fun _ => Iff.rfl) fun _ => ih.1
  | @listing a columns as bs hlists _ ih =>
      obtain ⟨given, hwildcard, hlisting, hsome⟩ :=
        exists_gives hfrom hne hmarker hcolumns hlists
      -- Were the listing empty, what is left would not have to be plain.
      have hcolumns_ne : columns ≠ [] := by
        rintro rfl
        cases hlisting
        exact hsome rfl
      show (Gives relations flag (a :: as) fields ↔
        Gives relations flag (columns ++ bs) fields) ∧ _ = (columns ++ bs).isEmpty
      refine ⟨?_, by simp [hcolumns_ne]⟩
      rw [← List.singleton_append]
      refine Gives.append_congr (fun _ => ?_) fun _ => ih.1
      exact hwildcard.congr hlisting (by simp) hcolumns_ne

theorem resolve_eq_ok_iff_of_writtenOut {order : ProjectionOrder}
    {as bs : List Attribute} (h : WrittenOut source names order as bs) (p : Projection) :
    Projection.resolve relations order as = .ok p ↔
      Projection.resolve relations order bs = .ok p := by
  simp only [Projection.resolve_eq_ok_iff_gives]
  apply exists_congr
  intro flag
  obtain ⟨hgives, hempty⟩ :=
    gives_iff_of_writtenOut hfrom hne hmarker hcolumns h.arrange
  rw [hgives, hempty]

end Listed

/-- **A wildcard is its listing.** Whatever the tables, the settings and the
conditions of a SELECT are, and whatever else is projected, a wildcard may be
replaced where it stands by the columns that it is short for, in the order of the
source, and in the reverse order if the fields come out in that of the visits.
The SELECT binds before exactly if it binds after, and to the same, in whatever
order the names are enumerated. This takes a FROM list that has a name, and no name
of a table or a column that is the wildcard itself. -/
theorem Binder.bindSelect_writtenOut {b : Binder} {source : TableSource}
    (hsource : b.source? = some source) {names : List String} (hne : names ≠ [])
    (hmarker : wildcard ∉ names) (hcolumns : source.NoneNamedWildcard names)
    {as bs : List Attribute}
    (h : WrittenOut source names b.settings.projectionOrder as bs)
    (conditions : List Condition) (keys keys' : Enumeration) (bound : BoundSelect) :
    b.bindSelect ⟨names, as, conditions⟩ keys = .ok bound ↔
      b.bindSelect ⟨names, bs, conditions⟩ keys' = .ok bound := by
  rw [(b.bindSelect_upToSuggestion _ keys keys').eq_ok_iff]
  rw [bindSelect_eq hsource, bindSelect_eq hsource, bind_eq_ok_iff, bind_eq_ok_iff]
  apply exists_congr
  intro relations
  apply and_congr_right
  intro hfrom
  rw [bind_eq_ok_iff, bind_eq_ok_iff]
  apply exists_congr
  intro p
  rw [resolve_eq_ok_iff_of_writtenOut hfrom hne hmarker hcolumns h]

/-- `SELECT *, b.* FROM a, b, a`, whose fields come out in the order of the visits:
the columns of the repeated table are listed twice. -/
theorem Binder.bindSelect_writtenOut_repeated :
    ∃ (b : Binder) (bound : BoundSelect),
      b.bindSelect ⟨["a", "b", "a"],
        [⟨none, "*", .plain⟩, ⟨some "b", "*", .plain⟩], []⟩ = .ok bound ∧
      b.bindSelect ⟨["a", "b", "a"],
        [⟨some "a", "z", .plain⟩, ⟨some "a", "x", .plain⟩, ⟨some "b", "y", .plain⟩,
          ⟨some "a", "z", .plain⟩, ⟨some "a", "x", .plain⟩,
          ⟨some "b", "y", .plain⟩], []⟩ = .ok bound ∧
      bound.fields.map (·.text) = ["b.y", "a.x", "a.z", "b.y", "a.x", "a.z"] := by
  let t : Table := ⟨⟨"a", [⟨"x", .integer, true⟩, ⟨"z", .integer, true⟩]⟩,
    ⟨by decide, by decide, by decide, by decide⟩⟩
  let u : Table := ⟨⟨"b", [⟨"y", .integer, true⟩]⟩,
    ⟨by decide, by decide, by decide, by decide⟩⟩
  let source : TableSource := ⟨"main", fun name => [t, u].find? (·.name == name)⟩
  let b : Binder := { source? := some source }
  let tx : BoundField := ⟨⟨t, 1, by decide⟩, .none⟩
  let tz : BoundField := ⟨⟨t, 2, by decide⟩, .none⟩
  let uy : BoundField := ⟨⟨u, 1, by decide⟩, .none⟩
  let bound : BoundSelect := ⟨[t, u, t], [uy, tx, tz, uy, tx, tz], ⟨[]⟩, false⟩
  have hbind : b.bindSelect ⟨["a", "b", "a"],
      [⟨none, "*", .plain⟩, ⟨some "b", "*", .plain⟩], []⟩ = .ok bound := rfl
  have hcolumns : source.NoneNamedWildcard ["a", "b", "a"] := by
    intro name _ found hfound
    change [t, u].find? (·.name == name) = some found at hfound
    have hmem := List.mem_of_find?_eq_some hfound
    rcases List.mem_pair.mp hmem with rfl | rfl
    · decide
    · decide
  have hall : Lists source ["a", "b", "a"] ⟨none, "*", .plain⟩ _ :=
    .allTables (by simp)
  have hone : Lists source ["a", "b", "a"] ⟨some "b", "*", .plain⟩ _ :=
    .oneTable (by decide)
  refine ⟨b, bound, hbind, ?_, rfl⟩
  exact (bindSelect_writtenOut rfl (by simp) (by decide) hcolumns
    (.listing hall (.listing hone .nil)) [] .listed .listed bound).mp hbind

end QueryBind
