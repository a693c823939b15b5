import QueryBind.Session
import QueryBind.Proofs.Results
import QueryBind.Proofs.Schema.Changes

/-!
# Catalogs and their definitions

The definition of a catalog says everything about the catalog but its version,
and a definition makes the catalog that it describes. Neither is obvious from a
definition alone: tables are created in the order they are listed, and each of
them could be refused because of those before it. But whether a definition is
accepted depends on its tables as a set only, and so does the catalog it makes.
-/

namespace QueryBind

/-! ## Creating tables one after another -/

theorem insertByName_perm (t : Table) (ts : List Table) :
    (insertByName t ts).Perm (t :: ts) := by
  induction ts with
  | nil => exact .refl _
  | cons u us ih =>
      unfold insertByName
      split
      · exact .refl _
      · exact (ih.cons u).trans (.swap t u us)

namespace Catalog

/-- The definition of a catalog lists the definitions that its tables were made from. -/
theorem definition_tables (c : Catalog) :
    c.definition.tables = c.tables.map (·.definition) :=
  List.map_congr_left fun t _ => t.rebuilt_eq_definition

/-- A creation puts the table of its definition among the others. -/
theorem tables_of_createTable {c c' : Catalog} {d : TableDefinition}
    (h : c.createTable d = .ok c') :
    ∃ t, t.definition = d ∧ c'.tables = insertByName t c.tables := by
  unfold createTable at h
  split at h
  · cases h
  next t ht =>
  split at h
  · cases h
  · cases h
    exact ⟨t, Table.ofDefinition_eq_ok_iff.mp ht, rfl⟩

/-- Definitions that can be created together: each makes a table, no name
occurs twice, and none is taken. -/
structure Accepts (c : Catalog) (ds : List TableDefinition) : Prop where
  valid : ∀ d ∈ ds, d.IsValid
  names_nodup : (ds.map (·.name)).Nodup
  names_free : ∀ d ∈ ds, c.contains d.name = false

theorem contains_of_createTable {c c' : Catalog} {d : TableDefinition}
    (h : c.createTable d = .ok c') (name : String) :
    c'.contains name = (name == d.name || c.contains name) := by
  have hstep : c.ChangesTo (.create d) c' := change_eq_ok_iff.mp h
  rw [contains, hstep.find?_eq]
  by_cases hname : name = d.name
  · obtain ⟨t, ht⟩ := Table.exists_ofDefinition_iff.mpr hstep.admissible.1
    simp [hname, Change.name, Change.leaves?, ht, Except.toOption]
  · simp [hname, Change.name, contains]

/-- The first of some definitions can be created with the others exactly if
the others can be created after it. -/
theorem accepts_cons_iff {c c₁ : Catalog} {d : TableDefinition}
    {ds : List TableDefinition} (h : c.createTable d = .ok c₁) :
    c.Accepts (d :: ds) ↔ c₁.Accepts ds := by
  have hstep : c.ChangesTo (.create d) c₁ := change_eq_ok_iff.mp h
  have hadmissible : (Change.create d).Admissible c := hstep.admissible
  -- What is free after the creation was free before, and is not its name.
  have hfree : ∀ e : TableDefinition, c₁.contains e.name = false ↔
      e.name ≠ d.name ∧ c.contains e.name = false := by
    intro e
    rw [contains_of_createTable h, Bool.or_eq_false_iff, beq_eq_false_iff_ne]
  constructor
  · rintro ⟨hvalid, hnodup, hnames⟩
    rw [List.forall_mem_cons] at hvalid hnames
    rw [List.map_cons, List.nodup_cons] at hnodup
    refine ⟨hvalid.2, hnodup.2, fun e he => (hfree e).mpr ⟨?_, hnames.2 e he⟩⟩
    intro hname
    exact hnodup.1 (hname ▸ List.mem_map_of_mem he)
  · rintro ⟨hvalid, hnodup, hnames⟩
    refine ⟨List.forall_mem_cons.mpr ⟨hadmissible.1, hvalid⟩, ?_, ?_⟩
    · rw [List.map_cons, List.nodup_cons]
      refine ⟨fun hmem => ?_, hnodup⟩
      obtain ⟨e, he, hname⟩ := List.mem_map.mp hmem
      exact ((hfree e).mp (hnames e he)).1 hname
    · exact List.forall_mem_cons.mpr
        ⟨hadmissible.2, fun e he => ((hfree e).mp (hnames e he)).2⟩

/-- Definitions are created one after another without a failure exactly if they
can be created together. -/
theorem exists_createAll_iff {c : Catalog} {ds : List TableDefinition} :
    (∃ c', ds.foldlM createTable c = .ok c') ↔ c.Accepts ds := by
  induction ds generalizing c with
  | nil => exact ⟨fun _ => ⟨by simp, by simp, by simp⟩, fun _ => ⟨c, rfl⟩⟩
  | cons d ds ih =>
      constructor
      · rintro ⟨c', h⟩
        rw [List.foldlM_cons] at h
        obtain ⟨c₁, hfirst, hrest⟩ := bind_eq_ok_iff.mp h
        exact (accepts_cons_iff hfirst).mpr (ih.mp ⟨c', hrest⟩)
      · intro h
        have hadmissible : (Change.create d).Admissible c :=
          ⟨h.valid d List.mem_cons_self, h.names_free d List.mem_cons_self⟩
        obtain ⟨c₁, hfirst⟩ := exists_change hadmissible
        obtain ⟨c', hrest⟩ := ih.mpr ((accepts_cons_iff hfirst).mp h)
        refine ⟨c', ?_⟩
        rw [List.foldlM_cons]
        exact bind_eq_ok_iff.mpr ⟨c₁, hfirst, hrest⟩

theorem name_of_createAll {c c' : Catalog} {ds : List TableDefinition}
    (h : ds.foldlM createTable c = .ok c') : c'.name = c.name := by
  induction ds generalizing c with
  | nil =>
      cases h
      rfl
  | cons d ds ih =>
      rw [List.foldlM_cons] at h
      obtain ⟨c₁, hfirst, hrest⟩ := bind_eq_ok_iff.mp h
      have hstep : c.ChangesTo (.create d) c₁ := change_eq_ok_iff.mp hfirst
      exact (ih hrest).trans hstep.name_eq

open scoped List in
/-- The tables after creations are those from before and the created ones. -/
theorem perm_of_createAll {c c' : Catalog} {ds : List TableDefinition}
    (h : ds.foldlM createTable c = .ok c') :
    c'.definition.tables.Perm (ds ++ c.definition.tables) := by
  induction ds generalizing c with
  | nil =>
      cases h
      exact .refl _
  | cons d ds ih =>
      rw [List.foldlM_cons] at h
      obtain ⟨c₁, hfirst, hrest⟩ := bind_eq_ok_iff.mp h
      obtain ⟨t, rfl, htables⟩ := tables_of_createTable hfirst
      have hfirst_perm : c₁.definition.tables.Perm
          (t.definition :: c.definition.tables) := by
        rw [definition_tables, definition_tables, htables]
        exact (insertByName_perm t c.tables).map _
      calc c'.definition.tables
        _ ~ ds ++ c₁.definition.tables := ih hrest
        _ ~ ds ++ t.definition :: c.definition.tables := hfirst_perm.append_left ds
        _ ~ t.definition :: ds ++ c.definition.tables := List.perm_middle

/-! ## Definitions -/

/-- The tables of a definition stand in the strict order of their names. -/
theorem definition_ascending (c : Catalog) :
    c.definition.tables.Pairwise fun t u => t.name < u.name := by
  rw [definition_tables]
  exact List.pairwise_map.mpr c.sorted

/-- The order of names leaves the tables of a catalog no choice but one. -/
theorem definition_eq_of_perm {c c' : Catalog} (hname : c.name = c'.name)
    (htables : c.definition.tables.Perm c'.definition.tables) :
    c.definition = c'.definition := by
  have heq : c.definition.tables = c'.definition.tables := by
    refine htables.eq_of_pairwise ?_ c.definition_ascending c'.definition_ascending
    intro t u _ _ htu hut
    exact absurd (String.lt_trans htu hut) (String.lt_irrefl _)
  show CatalogDefinition.mk c.name c.definition.tables = ⟨c'.name, c'.definition.tables⟩
  rw [hname, heq]

theorem exists_ofDefinition_iff {d : CatalogDefinition} :
    (∃ c, ofDefinition d = .ok c) ↔
      (∀ t ∈ d.tables, t.IsValid) ∧ (d.tables.map (·.name)).Nodup := by
  unfold ofDefinition
  rw [exists_createAll_iff]
  constructor
  · intro h
    exact ⟨h.valid, h.names_nodup⟩
  · rintro ⟨hvalid, hnodup⟩
    exact ⟨hvalid, hnodup, fun _ _ => rfl⟩

/-- A catalog has the name and the tables of the definition that made it. -/
theorem perm_of_ofDefinition {d : CatalogDefinition} {c : Catalog}
    (h : ofDefinition d = .ok c) :
    c.name = d.name ∧ c.definition.tables.Perm d.tables := by
  have hperm := perm_of_createAll h
  refine ⟨name_of_createAll h, ?_⟩
  simpa [empty, definition] using hperm

/-- The order in which a definition lists its tables is of no account. -/
theorem definition_of_permuted {d d' : CatalogDefinition} {c : Catalog}
    (h : ofDefinition d = .ok c) (hname : d'.name = d.name)
    (htables : d'.tables.Perm d.tables) :
    ∃ c', ofDefinition d' = .ok c' ∧ c'.definition = c.definition := by
  have hvalid := exists_ofDefinition_iff.mp ⟨c, h⟩
  obtain ⟨c', h'⟩ := exists_ofDefinition_iff.mpr
    (show (∀ t ∈ d'.tables, t.IsValid) ∧ (d'.tables.map (·.name)).Nodup from
      ⟨fun t ht => hvalid.1 t (htables.subset ht),
        (htables.map _).nodup_iff.mpr hvalid.2⟩)
  obtain ⟨hc, hperm⟩ := perm_of_ofDefinition h
  obtain ⟨hc', hperm'⟩ := perm_of_ofDefinition h'
  refine ⟨c', h', definition_eq_of_perm ?_ ?_⟩
  · rw [hc', hname, hc]
  · exact (hperm'.trans htables).trans hperm.symm

theorem tables_eq_of_definition_eq {c c' : Catalog}
    (h : c.definition = c'.definition) : c.tables = c'.tables := by
  have hinjective : Function.Injective Table.definition := by
    rintro ⟨d, hd⟩ ⟨d', hd'⟩ rfl
    rfl
  have htables := congrArg CatalogDefinition.tables h
  rw [definition_tables, definition_tables] at htables
  exact hinjective.list_map htables

/-- The definition of a catalog makes a catalog of the same name and the same
tables. -/
theorem exists_ofDefinition_definition (c : Catalog) :
    ∃ c', ofDefinition c.definition = .ok c' ∧ c'.name = c.name ∧
      c'.tables = c.tables := by
  have hvalid : ∀ d ∈ c.definition.tables, d.IsValid := by
    intro d hd
    rw [definition_tables] at hd
    obtain ⟨t, -, rfl⟩ := List.mem_map.mp hd
    exact t.valid
  have hnodup : (c.definition.tables.map (·.name)).Nodup := by
    have hnames : c.definition.tables.map (·.name) = c.tableNames :=
      List.map_map
    rw [hnames]
    exact c.tableNames_nodup
  obtain ⟨c', h⟩ := exists_ofDefinition_iff.mpr ⟨hvalid, hnodup⟩
  obtain ⟨hname, hperm⟩ := perm_of_ofDefinition h
  exact ⟨c', h, hname, tables_eq_of_definition_eq (definition_eq_of_perm hname hperm)⟩

/-! ## What can be told of a catalog -/

/-- Two catalogs that cannot be told apart: by describing a table, by listing
the tables, by the definition, or by binding a text under any settings with any
enumeration. -/
structure Indistinguishable (c c' : Catalog) : Prop where
  describe : ∀ name, c.getTable name = c'.getTable name
  list : c.tableNames = c'.tableNames
  definition : c.definition = c'.definition
  bind : ∀ (settings : Settings) (text : String) (keys : Enumeration),
    Session.bind { catalog := c, settings } text keys =
      Session.bind { catalog := c', settings } text keys

/-- The version alone tells nothing. -/
theorem indistinguishable_of_eq {c c' : Catalog} (hname : c.name = c'.name)
    (htables : c.tables = c'.tables) : c.Indistinguishable c' := by
  obtain ⟨name, tables, version, sorted⟩ := c
  obtain ⟨name', tables', version', sorted'⟩ := c'
  simp only at hname htables
  subst hname htables
  exact ⟨fun _ => rfl, rfl, rfl, fun _ _ _ => rfl⟩

/-- **Definitions and catalogs make one another.** A definition that makes a
catalog comes back as the definition of that catalog, with its tables in the
order of their names, and however its tables are listed they make a catalog of
the same definition. The definition of a catalog makes a catalog, and nothing
tells the two apart. -/
theorem definition_round_trip :
    (∀ (d : CatalogDefinition) (c : Catalog), ofDefinition d = .ok c →
      c.definition.name = d.name ∧ c.definition.tables.Perm d.tables ∧
      (c.definition.tables.Pairwise fun t u => t.name < u.name) ∧
      ∀ listed : List TableDefinition, listed.Perm d.tables →
        ∃ c', ofDefinition ⟨d.name, listed⟩ = .ok c' ∧
          c'.definition = c.definition) ∧
    (∀ c : Catalog, ∃ c', ofDefinition c.definition = .ok c' ∧
      c'.Indistinguishable c) := by
  constructor
  · intro d c h
    obtain ⟨hname, hperm⟩ := perm_of_ofDefinition h
    refine ⟨hname, hperm, c.definition_ascending, fun listed hlisted => ?_⟩
    exact definition_of_permuted h rfl hlisted
  · intro c
    obtain ⟨c', h, hname, htables⟩ := c.exists_ofDefinition_definition
    exact ⟨c', h, indistinguishable_of_eq hname htables⟩

/-- Two tables that are listed against the order of their names. -/
theorem definition_round_trip_two_tables :
    let t : TableDefinition := ⟨"t", [⟨"a", .integer, true⟩, ⟨"b", .char 3, false⟩]⟩
    let u : TableDefinition := ⟨"u", [⟨"a", .date, true⟩]⟩
    ∃ c c' c'' : Catalog, ofDefinition ⟨"main", [u, t]⟩ = .ok c ∧
      c.definition = ⟨"main", [t, u]⟩ ∧
      ofDefinition ⟨"main", [t, u]⟩ = .ok c' ∧ c'.definition = c.definition ∧
      ofDefinition c.definition = .ok c'' ∧ c''.Indistinguishable c := by
  intro t u
  have ht : t.IsValid := ⟨by decide, by decide, by decide, by decide⟩
  have hu : u.IsValid := ⟨by decide, by decide, by decide, by decide⟩
  have hsorted : SortedByName [⟨t, ht⟩, ⟨u, hu⟩] :=
    List.pairwise_pair.mpr (show "t" < "u" by decide)
  let c : Catalog := ⟨"main", [⟨t, ht⟩, ⟨u, hu⟩], 3, hsorted⟩
  have hc : ofDefinition ⟨"main", [u, t]⟩ = .ok c := by cbv
  obtain ⟨-, -, -, hlisted⟩ := definition_round_trip.1 _ c hc
  obtain ⟨c', hc', heq⟩ := hlisted [t, u] (.swap u t [])
  obtain ⟨c'', hc'', hsame⟩ := definition_round_trip.2 c
  exact ⟨c, c', c'', hc, rfl, hc', heq, hc'', hsame⟩

end Catalog

end QueryBind
