import QueryBind.Schema.Table

/-!
# Catalogs

A catalog keeps tables under their names. The tables stand in the order of their names, each name
once, so two catalogs with the same tables have the same list. Every change of the schema counts
the version up by one; a refused change leaves everything as it was, because it gives no catalog.
-/

namespace QueryBind

/-- Tables in the strict order of their names. -/
def SortedByName (ts : List Table) : Prop := ts.Pairwise fun t u => t.name < u.name

/-! ## Inserting by name -/

/-- Puts a table before the first one with a greater name. -/
def insertByName (t : Table) : List Table → List Table
  | [] => [t]
  | u :: us => if t.name < u.name then t :: u :: us else u :: insertByName t us

theorem mem_insertByName {t x : Table} {ts : List Table} :
    x ∈ insertByName t ts ↔ x = t ∨ x ∈ ts := by
  induction ts with
  | nil => simp [insertByName]
  | cons u us ih =>
    unfold insertByName
    split
    · simp
    · simp only [List.mem_cons, ih]
      grind

theorem sorted_insertByName {t : Table} {ts : List Table} (hs : SortedByName ts)
    (habsent : ∀ u ∈ ts, u.name ≠ t.name) : SortedByName (insertByName t ts) := by
  induction ts with
  | nil => simp [insertByName, SortedByName]
  | cons u us ih =>
    obtain ⟨hu, hus⟩ := List.pairwise_cons.1 hs
    unfold insertByName
    split
    · next hlt =>
      refine List.pairwise_cons.2 ⟨fun x hx => ?_, hs⟩
      rcases List.mem_cons.1 hx with rfl | hx
      · exact hlt
      · exact String.lt_trans hlt (hu x hx)
    · next hnlt =>
      refine List.pairwise_cons.2
        ⟨fun x hx => ?_, ih hus fun x hx => habsent x (List.mem_cons_of_mem _ hx)⟩
      rcases mem_insertByName.1 hx with rfl | hx
      · exact Std.lt_of_le_of_ne (String.not_lt.1 hnlt) (habsent u List.mem_cons_self)
      · exact hu x hx

/-! ## Catalogs -/

structure Catalog where
  name : String
  tables : List Table
  version : Nat
  sorted : SortedByName tables

namespace Catalog

/-- A catalog without tables. -/
def empty (name : String := defaultCatalogName) : Catalog := ⟨name, [], 1, List.Pairwise.nil⟩

def find? (c : Catalog) (name : String) : Option Table := c.tables.find? (·.name == name)

def contains (c : Catalog) (name : String) : Bool := (c.find? name).isSome

/-- The names of all tables, in order. -/
def tableNames (c : Catalog) : List String := c.tables.map (·.name)

theorem name_ne_of_find?_eq_none {c : Catalog} {name : String} (h : c.find? name = none) :
    ∀ u ∈ c.tables, u.name ≠ name := by
  simpa [find?, List.find?_eq_none] using h

/-- The catalog with a table more. A definition that makes no table is refused before a name
that is taken. -/
def createTable (c : Catalog) (d : TableDefinition) : Except Error Catalog :=
  match Table.ofDefinition d with
  | .error e => .error e
  | .ok t =>
    match h : c.find? t.name with
    | some _ => .error (.tableExists t.name c.name)
    | none =>
      .ok
        { c with
          tables := insertByName t c.tables
          version := c.version + 1
          sorted := sorted_insertByName c.sorted (name_ne_of_find?_eq_none h) }

/-- The catalog without a table. -/
def dropTable (c : Catalog) (name : String) : Except Error Catalog :=
  match c.find? name with
  | none => .error (.tableMissing name c.name)
  | some _ =>
    .ok
      { c with
        tables := c.tables.filter (·.name != name)
        version := c.version + 1
        sorted := c.sorted.filter _ }

/-- The table of a name, which has to be there. -/
def getTable (c : Catalog) (name : String) : Except Error Table :=
  match c.find? name with
  | some t => .ok t
  | none => .error (.tableMissing name c.name)

/-- The catalog of a definition: its tables are created in the order they are listed. -/
def ofDefinition (d : CatalogDefinition) : Except Error Catalog :=
  d.tables.foldlM createTable (empty d.name)

/-- The definition of a catalog, in the order of the table names. -/
def definition (c : Catalog) : CatalogDefinition := ⟨c.name, c.tables.map (·.rebuilt)⟩

end Catalog

/-- What binding asks of a catalog: a name to blame and tables by name. -/
structure TableSource where
  name : String
  find? : String → Option Table

/-- A catalog as a source of tables. -/
def Catalog.source (c : Catalog) : TableSource := ⟨c.name, c.find?⟩

end QueryBind
