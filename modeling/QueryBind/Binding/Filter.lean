import QueryBind.Binding.Reference
import QueryBind.Binding.Relations
import QueryBind.Text.Resemblance
import QueryBind.Value.Conversion

/-!
# Filters

A WHERE list as a list of comparisons of fields and literals. Columns are found in a scope, which
is the named tables and perhaps a default one. A literal that faces a field is converted towards
its type; then the types of both sides have to agree. LIKE and NOT LIKE convert nothing and take
strings and NULL only.
-/

namespace QueryBind

open Sql Text

/-! ## Bound conditions -/

/-- One side of a bound condition. -/
inductive FilterOperand where
  | field (r : FieldRef)
  | literal (v : Literal)
  deriving BEq

namespace FilterOperand

def type : FilterOperand → ColumnType
  | field r => r.field.type
  | literal v => v.type

def text : FilterOperand → String
  | field r => r.text
  | literal v => v.text

end FilterOperand

structure FilterUnit where
  left : FilterOperand
  comparison : Comparison
  right : FilterOperand
  deriving BEq

def FilterUnit.text (u : FilterUnit) : String :=
  u.left.text ++ " " ++ u.comparison.text ++ " " ++ u.right.text

/-- Comparisons that have to hold together; without any, the filter lets everything pass. -/
structure Filter where
  units : List FilterUnit
  deriving BEq

def Filter.text (f : Filter) : String :=
  if f.units.isEmpty then "TRUE" else " AND ".intercalate (f.units.map (·.text))

/-! ## Where columns are found -/

/-- What a WHERE list may consult: the name of the catalog, the table of names without qualifier,
if there is one, and the tables of the FROM names. -/
structure Scope where
  catalog : String
  default? : Option Table
  named : List (String × Table)

namespace Scope

/-- The table that a qualifier names. -/
def find? (s : Scope) (name : String) : Option Table := lastNamed? s.named name

/-- The scope of the relations of a FROM list. -/
def ofRelations (source : TableSource) (r : Relations) : Scope :=
  ⟨source.name, r.default?, r.entries⟩

/-- The table that a column belongs to. -/
def tableOf (s : Scope) (a : Attribute) : Except Error Table :=
  match a.qualifier? with
  | some relation =>
    match s.find? relation with
    | some t => .ok t
    | none => .error (.tableMissing relation s.catalog)
  | none =>
    match s.default? with
    | some t => .ok t
    | none => .error (.unqualifiedInCondition a.name)

/-- The field that a column of a condition stands for. -/
def bindAttribute (s : Scope) (a : Attribute) : Except Error FieldRef := do
  if !a.shape.isPlain then throw (.aggregateInCondition a)
  if isWildcard a.name || a.qualifier?.any isWildcard then throw (.wildcardInCondition a)
  let t ← s.tableOf a
  match t.ref? a.name with
  | some r => return r
  | none => throw (.noSuchField a.name t.name (nearest? a.name (t.userFields.map (·.name))))

def bindOperand (s : Scope) : Operand → Except Error FilterOperand
  | .literal v => .ok (.literal v)
  | .column a => (s.bindAttribute a).map .field

/-! ## Conditions -/

/-- Converts a literal that faces a field. -/
def convertSides (left right : FilterOperand) : Except Error (FilterOperand × FilterOperand) :=
  match left, right with
  | .field r, .literal v => (v.convertFor r.field.type).map fun w => (.field r, .literal w)
  | .literal v, .field r => (v.convertFor r.field.type).map fun w => (.literal w, .field r)
  | left, right => .ok (left, right)

/-- The type of a side of LIKE or NOT LIKE is a string type or that of NULL. -/
def checkPattern (comparison : Comparison) (type : ColumnType) : Except Error Unit :=
  if type.isString || type == .null then .ok ()
  else .error (.patternOperand comparison type)

/-- The types of the two sides of a condition agree. -/
def checkTypes (u : FilterUnit) : Except Error Unit :=
  if u.comparison.isPatternMatch then do
    checkPattern u.comparison u.left.type
    checkPattern u.comparison u.right.type
  else if u.left.type.isComparableWith u.right.type then .ok ()
  else .error (.incomparable u.left.text u.left.type u.right.text u.right.type)

def bindCondition (s : Scope) (c : Condition) : Except Error FilterUnit := do
  let left ← s.bindOperand c.left
  let right ← s.bindOperand c.right
  let (left, right) ←
    if c.comparison.isPatternMatch then pure (left, right) else convertSides left right
  let u : FilterUnit := ⟨left, c.comparison, right⟩
  checkTypes u
  return u

/-- The filter of a WHERE list; the first condition that fails decides the error. -/
def bindConditions (s : Scope) (conditions : List Condition) : Except Error Filter :=
  (conditions.mapM s.bindCondition).map (⟨·⟩)

end Scope

end QueryBind
