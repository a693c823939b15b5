import QueryBind.Schema.Table

/-!
# Tables as statements

The CREATE TABLE statement that a table shows itself by: a column in each line, its type by name
and NOT NULL where it may not be NULL. Names stand as they are, without quotes.
-/

namespace QueryBind

def Field.columnText (f : Field) : String :=
  "  " ++ f.name ++ " " ++ f.type.text ++ (if f.nullable then "" else " NOT NULL")

def Table.createStatement (t : Table) : String :=
  "CREATE TABLE " ++ t.name ++ " (\n" ++ ",\n".intercalate (t.userFields.map (·.columnText)) ++
    "\n);"

end QueryBind
