import QueryBind.Json.Document
import QueryBind.Json.Record
import QueryBind.Schema.Definition

/-!
# Catalog documents

Definitions of catalogs in JSON: a record of a `name`, which may be left out, and `tables`; a
table is a record of a `table_name` and `columns`, and a column one of a `name`, a `column_type`
and `nullable`, which is true unless told otherwise. A type goes by its name in lower case;
`char` has a record with its `length`.
-/

namespace QueryBind

open Json

/-- The type of a name, if it takes no length. -/
def ColumnType.ofName? : String → Option ColumnType
  | "null" => some .null
  | "boolean" => some .boolean
  | "integer" => some .integer
  | "bigint" => some .bigint
  | "float" => some .float
  | "double" => some .double
  | "varchar" => some .varchar
  | "date" => some .date
  | _ => none

def ColumnType.ofJson? (v : Value) : Option ColumnType :=
  match v.alternative? with
  | some ("char", some payload) =>
    match payload.record? false ["length"] with
    | some [some length] => length.length?.map .char
    | _ => none
  | _ => v.name?.bind ColumnType.ofName?

def ColumnDefinition.ofJson? (v : Value) : Option ColumnDefinition := do
  match ← v.record? false ["name", "column_type", "nullable"] with
  | [some name, some type, nullable] =>
    return ⟨← name.string?, ← ColumnType.ofJson? type, ← (nullable.getD (.boolean true)).boolean?⟩
  | _ => none

def TableDefinition.ofJson? (v : Value) : Option TableDefinition := do
  match ← v.record? false ["table_name", "columns"] with
  | [some name, some columns] =>
    return ⟨← name.string?, ← columns.list? ColumnDefinition.ofJson?⟩
  | _ => none

def CatalogDefinition.ofJson? (v : Value) : Option CatalogDefinition := do
  match ← v.record? false ["name", "tables"] with
  | [name, some tables] =>
    return ⟨← (name.getD (.string defaultCatalogName)).string?,
      ← tables.list? TableDefinition.ofJson?⟩
  | _ => none

/-- The definition that a text is a document of. -/
def CatalogDefinition.ofText? (text : String) : Option CatalogDefinition :=
  (Value.ofText? text).bind CatalogDefinition.ofJson?

end QueryBind
