import QueryBind.Value.ColumnType

/-!
# Definitions

What a table or a whole catalog is made from: names, column types and whether a column may be
NULL. A definition promises nothing; `Table.ofDefinition` decides which ones make a table.
-/

namespace QueryBind

structure ColumnDefinition where
  name : String
  type : ColumnType
  nullable : Bool := true
  deriving DecidableEq, Repr

structure TableDefinition where
  name : String
  columns : List ColumnDefinition
  deriving DecidableEq, Repr

structure CatalogDefinition where
  name : String
  tables : List TableDefinition
  deriving DecidableEq, Repr

/-- The name of a catalog that is given none. -/
def defaultCatalogName : String := "main"

end QueryBind
