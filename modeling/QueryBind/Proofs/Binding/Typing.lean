import QueryBind.Proofs.Binding.Filter
import QueryBind.Proofs.Schema.Tables

/-!
# Well-typed conditions

A WHERE list is bound in three stages: operands are resolved, a literal that
faces a field is converted, and the types of both sides are compared. The three
ask overlapping questions, so it is not plain what they accept together. Here a
condition is typed without any stages. The binder accepts the typed conditions
and no others; what it gives keeps their sides and operators, and a literal that
faces a field has a type that the fields of that type are compared in.
-/

namespace QueryBind

open Sql Text

/-! ## Columns -/

theorem FieldRef.name_not_blank (r : FieldRef) : isBlank r.field.name = false :=
  Table.field_name_not_blank (List.get_mem r.table.fields ⟨r.index, r.index_lt⟩)

/-- A name refers to the one field of that name. -/
theorem Table.ref?_eq_some_iff_name {t : Table} {name : String} {r : FieldRef} :
    t.ref? name = some r ↔ r.table = t ∧ r.field.name = name := by
  rw [ref?_eq_some_iff]
  apply and_congr_right
  rintro rfl
  rw [fieldIndex?_eq_some_iff, r.fieldAt?_index]
  constructor
  · rintro ⟨f, hf, hname⟩
    cases hf
    exact hname
  · intro hname
    exact ⟨r.field, rfl, hname⟩

namespace Sql.Attribute

/-- A column that may be looked up: it stands in no aggregate call and is no
wildcard on either side of its dot. -/
structure IsColumn (a : Attribute) : Prop where
  plain : a.shape = .plain
  name_ne : a.name ≠ wildcard
  relation_ne : a.relation ≠ some wildcard

theorem qualifier?_eq_some_iff {a : Attribute} {relation : String} :
    a.qualifier? = some relation ↔
      a.relation = some relation ∧ isBlank relation = false := by
  simp [Attribute.qualifier?, Option.filter_eq_some_iff]

theorem qualifier?_eq_none_iff {a : Attribute} :
    a.qualifier? = none ↔ ∀ relation ∈ a.relation, isBlank relation = true := by
  simp [Attribute.qualifier?, Option.filter_eq_none_iff]

theorem any_isWildcard_qualifier? {a : Attribute} :
    a.qualifier?.any isWildcard = false ↔ a.relation ≠ some wildcard := by
  have hmarker : isBlank wildcard = false := by decide
  rw [← not_iff_not, ne_eq, not_not, Bool.not_eq_false, Option.any_eq_true]
  constructor
  · rintro ⟨relation, hrelation, hwildcard⟩
    rw [← beq_iff_eq.mp hwildcard]
    exact (qualifier?_eq_some_iff.mp hrelation).1
  · intro h
    exact ⟨wildcard, qualifier?_eq_some_iff.mpr ⟨h, hmarker⟩, beq_self_eq_true _⟩

theorem isColumn_iff {a : Attribute} :
    a.IsColumn ↔ a.shape.isPlain = true ∧ isWildcard a.name = false ∧
      a.qualifier?.any isWildcard = false := by
  have hplain : a.shape.isPlain = true ↔ a.shape = .plain := beq_iff_eq
  have hname : isWildcard a.name = false ↔ a.name ≠ wildcard := beq_eq_false_iff_ne
  rw [hplain, hname, any_isWildcard_qualifier?]
  constructor
  · rintro ⟨hshape, hcolumn, hrelation⟩
    exact ⟨hshape, hcolumn, hrelation⟩
  · rintro ⟨hshape, hcolumn, hrelation⟩
    exact ⟨hshape, hcolumn, hrelation⟩

end Sql.Attribute

namespace Scope

/-- The table that a column belongs to: the one that its qualifier names, or the
default one where no qualifier is written or a blank one. -/
inductive Owns (s : Scope) (a : Attribute) : Table → Prop where
  | qualified {relation t} : a.relation = some relation →
      isBlank relation = false → s.find? relation = some t → Owns s a t
  | unqualified {t} : (∀ relation ∈ a.relation, isBlank relation = true) →
      s.default? = some t → Owns s a t

/-- What a column of a condition refers to: the field of its name in the table
that it belongs to. -/
structure Refers (s : Scope) (a : Attribute) (r : FieldRef) : Prop where
  column : a.IsColumn
  owns : s.Owns a r.table
  field_name : r.field.name = a.name

theorem tableOf_eq_ok_iff {s : Scope} {a : Attribute} {t : Table} :
    s.tableOf a = .ok t ↔ s.Owns a t := by
  unfold tableOf
  cases hqualifier : a.qualifier? with
  | none =>
      have hblank := Attribute.qualifier?_eq_none_iff.mp hqualifier
      constructor
      · intro h
        cases hdefault : s.default? with
        | none =>
            rw [hdefault] at h
            cases h
        | some u =>
            rw [hdefault] at h
            cases h
            exact .unqualified hblank hdefault
      · rintro (⟨hrelation, hnot, -⟩ | ⟨-, hdefault⟩)
        · rw [hblank _ hrelation] at hnot
          cases hnot
        · rw [hdefault]
  | some relation =>
      obtain ⟨hrelation, hnot⟩ := Attribute.qualifier?_eq_some_iff.mp hqualifier
      constructor
      · intro h
        dsimp only at h
        cases hfind : s.find? relation with
        | none =>
            rw [hfind] at h
            cases h
        | some u =>
            rw [hfind] at h
            cases h
            exact .qualified hrelation hnot hfind
      · rintro (⟨hrelation', -, hfind⟩ | ⟨hblank, -⟩)
        · rw [hrelation] at hrelation'
          cases hrelation'
          dsimp only
          rw [hfind]
        · rw [hblank _ hrelation] at hnot
          cases hnot

theorem bindAttribute_eq_ok_iff_refers {s : Scope} {a : Attribute} {r : FieldRef} :
    s.bindAttribute a = .ok r ↔ s.Refers a r := by
  rw [bindAttribute_eq_ok_iff]
  simp only [tableOf_eq_ok_iff, Table.ref?_eq_some_iff_name]
  constructor
  · rintro ⟨hshape, hname, hqualifier, t, howns, rfl, hfield⟩
    exact ⟨Attribute.isColumn_iff.mpr ⟨hshape, hname, hqualifier⟩, howns, hfield⟩
  · rintro ⟨hcolumn, howns, hfield⟩
    obtain ⟨hshape, hname, hqualifier⟩ := Attribute.isColumn_iff.mp hcolumn
    exact ⟨hshape, hname, hqualifier, _, howns, rfl, hfield⟩

/-- What an operand is before any conversion: the field that a column refers to,
or the literal that is written. -/
inductive Means (s : Scope) : Operand → FilterOperand → Prop where
  | column {a r} : s.Refers a r → Means s (.column a) (.field r)
  | literal {v} : Means s (.literal v) (.literal v)

theorem bindOperand_eq_ok_iff {s : Scope} {o : Operand} {bound : FilterOperand} :
    s.bindOperand o = .ok bound ↔ s.Means o bound := by
  cases o with
  | literal v =>
      constructor
      · intro h
        cases h
        exact .literal
      · rintro ⟨⟩
        rfl
  | column a =>
      rw [bindOperand, map_eq_ok_iff]
      simp only [bindAttribute_eq_ok_iff_refers]
      constructor
      · rintro ⟨r, hr, rfl⟩
        exact .column hr
      · rintro (hr | _)
        exact ⟨_, hr, rfl⟩

end Scope

/-! ## Types on both sides -/

namespace ColumnType

/-- The types that LIKE and NOT LIKE take. -/
def IsText (t : ColumnType) : Prop :=
  t = .varchar ∨ (∃ length, t = .char length) ∨ t = .null

theorem isText_iff {t : ColumnType} :
    (t.isString || t == .null) = true ↔ t.IsText := by
  cases t <;> simp [isString, IsText]

theorem isComparableWith_comm (s t : ColumnType) :
    s.isComparableWith t = t.isComparableWith s := by
  have hsame : (s == t) = (t == s) := BEq.comm
  unfold isComparableWith
  rw [hsame, Bool.or_comm (s == null), Bool.and_comm s.isNumeric,
    Bool.and_comm s.isString]

end ColumnType

namespace Literal

/-- A literal may face a field of a type: it is NULL, or its type compares with
that of the field, or it is a string that writes a date and the field holds
dates. -/
def Fits (v : Literal) (type : ColumnType) : Prop :=
  v = .null ∨ v.type.isComparableWith type = true ∨
    type = .date ∧ ∃ text day, v = .varchar text ∧ ofDateText? text = some day

/-- A literal of the kind that fields of a type are compared with. -/
def Suits (v : Literal) : ColumnType → Prop
  | .date => v = .null ∨ ∃ day, v = .date day
  | .bigint => ∀ n, v ≠ .integer n
  | .float | .double => v = .null ∨ ∃ x, v = .double x
  | _ => True

theorem exists_date_of_ofDateText? {text : String} {d : Literal}
    (h : ofDateText? text = some d) : ∃ day, d = .date day := by
  obtain ⟨date, -, rfl⟩ := Option.map_eq_some_iff.mp h
  exact ⟨_, rfl⟩

/-- A literal converts exactly if it fits. -/
theorem exists_convertFor_iff {v : Literal} {type : ColumnType} :
    (∃ w, v.convertFor type = .ok w) ↔ v.Fits type := by
  unfold convertFor Fits
  split
  · simp
  · next text =>
      -- A string that faces a date: its type does not compare, so it has to write one.
      have hnot : (varchar text).type.isComparableWith .date = false := rfl
      cases hdate : ofDateText? text with
      | none => simp [hnot, hdate]
      | some d => simp [hdate]
  -- An integer that becomes wider compares with what it becomes.
  iterate 5
    · simp [type, ColumnType.isComparableWith, ColumnType.isNumeric]
  · next hnull hdate _ _ _ _ _ =>
      by_cases hcomparable : v.type.isComparableWith type = true
      · simp [hcomparable]
      · rw [if_neg hcomparable]
        constructor
        · rintro ⟨w, ⟨⟩⟩
        · rintro (rfl | h | ⟨rfl, text, day, rfl, -⟩)
          · exact absurd rfl hnull
          · exact absurd h hcomparable
          · exact absurd rfl (hdate text rfl)

/-- What a literal is converted to compares with the field, so the check of types
that follows never refuses it. -/
theorem isComparableWith_of_convertFor {v w : Literal} {type : ColumnType}
    (h : v.convertFor type = .ok w) : w.type.isComparableWith type = true := by
  unfold convertFor at h
  split at h
  · cases h
    rfl
  · split at h
    · next hdate =>
        cases h
        obtain ⟨day, rfl⟩ := exists_date_of_ofDateText? hdate
        rfl
    · cases h
  -- The integers that become wider are numbers and stay numbers.
  iterate 5
    · cases h
      rfl
  · split at h
    · next hcomparable =>
        cases h
        exact hcomparable
    · cases h

theorem convertFor_ne_integer {v : Literal} {type : ColumnType} (n : Int32)
    (h : type = .bigint ∨ type = .float ∨ type = .double) :
    v.convertFor type ≠ .ok (.integer n) := by
  rcases h with rfl | rfl | rfl <;> rintro hconvert <;> cases v <;> cases hconvert

theorem convertFor_ne_bigint {v : Literal} {type : ColumnType} (n : Int64)
    (h : type = .float ∨ type = .double) :
    v.convertFor type ≠ .ok (.bigint n) := by
  rcases h with rfl | rfl <;> rintro hconvert <;> cases v <;> cases hconvert

/-- What a literal is converted to for a floating type is no whole number, and
only numbers and NULL compare with that type. -/
theorem eq_double_of_convertFor {v w : Literal} {type : ColumnType}
    (htype : type = .float ∨ type = .double) (h : v.convertFor type = .ok w) :
    w = .null ∨ ∃ x, w = .double x := by
  have hcomparable := isComparableWith_of_convertFor h
  cases w with
  | null => exact .inl rfl
  | double x => exact .inr ⟨x, rfl⟩
  | integer n => exact absurd h (convertFor_ne_integer n (.inr htype))
  | bigint n => exact absurd h (convertFor_ne_bigint n htype)
  | _ => rcases htype with rfl | rfl <;> cases hcomparable

/-- What a literal is converted to suits the field. -/
theorem suits_of_convertFor {v w : Literal} {type : ColumnType}
    (h : v.convertFor type = .ok w) : w.Suits type := by
  have hcomparable := isComparableWith_of_convertFor h
  cases type with
  | date =>
      cases w with
      | null => exact .inl rfl
      | date day => exact .inr ⟨day, rfl⟩
      | _ => cases hcomparable
  | bigint =>
      rintro n rfl
      exact convertFor_ne_integer n (.inl rfl) h
  | float => exact eq_double_of_convertFor (.inl rfl) h
  | double => exact eq_double_of_convertFor (.inr rfl) h
  | _ => trivial

end Literal

/-! ## Conditions -/

/-- Two sides that a comparison may have, before any conversion. LIKE and NOT LIKE
take texts and NULL; for the others a literal that faces a field has to fit it,
and the types of two fields or two literals compare. -/
inductive Sql.Comparison.Admits (comparison : Comparison) :
    FilterOperand → FilterOperand → Prop where
  | pattern {left right} : comparison.isPatternMatch = true →
      left.type.IsText → right.type.IsText → Admits comparison left right
  | fieldLiteral {r v} : comparison.isPatternMatch = false →
      v.Fits r.field.type → Admits comparison (.field r) (.literal v)
  | literalField {v r} : comparison.isPatternMatch = false →
      v.Fits r.field.type → Admits comparison (.literal v) (.field r)
  | fields {r r'} : comparison.isPatternMatch = false →
      r.field.type.isComparableWith r'.field.type = true →
      Admits comparison (.field r) (.field r')
  | literals {v v'} : comparison.isPatternMatch = false →
      v.type.isComparableWith v'.type = true →
      Admits comparison (.literal v) (.literal v')

/-- The sides of a unit, from those of its condition: a literal that faces a field
is converted towards it, unless a pattern is matched, and all else is kept. -/
inductive Sql.Comparison.Keeps (comparison : Comparison) :
    FilterOperand → FilterOperand → FilterOperand → FilterOperand → Prop where
  | pattern {left right} : comparison.isPatternMatch = true →
      Keeps comparison left right left right
  | fieldLiteral {r v w} : comparison.isPatternMatch = false →
      v.convertFor r.field.type = .ok w →
      Keeps comparison (.field r) (.literal v) (.field r) (.literal w)
  | literalField {v w r} : comparison.isPatternMatch = false →
      v.convertFor r.field.type = .ok w →
      Keeps comparison (.literal v) (.field r) (.literal w) (.field r)
  | fields {r r'} : comparison.isPatternMatch = false →
      Keeps comparison (.field r) (.field r') (.field r) (.field r')
  | literals {v v'} : comparison.isPatternMatch = false →
      Keeps comparison (.literal v) (.literal v') (.literal v) (.literal v')

/-- The types of the sides of a unit agree, and a literal that faces a field is of
the kind that its fields are compared with. -/
structure FilterUnit.TypeSound (u : FilterUnit) : Prop where
  pattern : u.comparison.isPatternMatch = true →
    u.left.type.IsText ∧ u.right.type.IsText
  comparable : u.comparison.isPatternMatch = false →
    u.left.type.isComparableWith u.right.type = true
  right_suits : u.comparison.isPatternMatch = false → ∀ r v,
    u.left = .field r → u.right = .literal v → v.Suits r.field.type
  left_suits : u.comparison.isPatternMatch = false → ∀ v r,
    u.left = .literal v → u.right = .field r → v.Suits r.field.type

namespace Scope

/-- A condition whose operands mean something that its comparison admits. -/
def WellTyped (s : Scope) (c : Condition) : Prop :=
  ∃ left right, s.Means c.left left ∧ s.Means c.right right ∧
    c.comparison.Admits left right

/-- A unit that stands for a condition: the same comparison, of what the sides
of the condition mean. -/
def StandsFor (s : Scope) (c : Condition) (u : FilterUnit) : Prop :=
  u.comparison = c.comparison ∧ ∃ left right, s.Means c.left left ∧
    s.Means c.right right ∧ c.comparison.Keeps left right u.left u.right

/-! ### The stages of a binding -/

theorem comparedSides_eq_ok_iff {comparison : Comparison}
    {left right left' right' : FilterOperand} :
    comparedSides comparison left right = .ok (left', right') ↔
      comparison.Keeps left right left' right' := by
  unfold comparedSides
  by_cases hpattern : comparison.isPatternMatch = true
  · rw [if_pos hpattern]
    constructor
    · intro h
      cases h
      exact .pattern hpattern
    · intro h
      cases h with
      | pattern | fields | literals => rfl
      | fieldLiteral hnot | literalField hnot =>
          rw [hpattern] at hnot
          cases hnot
  · rw [if_neg hpattern]
    have hnot : comparison.isPatternMatch = false := by simpa using hpattern
    constructor
    · intro h
      unfold convertSides at h
      split at h
      · obtain ⟨w, hw, hsides⟩ := map_eq_ok_iff.mp h
        cases hsides
        exact .fieldLiteral hnot hw
      · obtain ⟨w, hw, hsides⟩ := map_eq_ok_iff.mp h
        cases hsides
        exact .literalField hnot hw
      · next hfield hliteral =>
          cases h
          cases left with
          | field r =>
              cases right with
              | field r' => exact .fields hnot
              | literal v => exact absurd rfl (hfield r v rfl)
          | literal v =>
              cases right with
              | field r => exact absurd rfl (hliteral v r rfl)
              | literal v' => exact .literals hnot
    · intro h
      cases h with
      | pattern h => exact absurd h hpattern
      | fieldLiteral _ hw | literalField _ hw =>
          rw [convertSides, hw]
          rfl
      | fields | literals => rfl

theorem checkPattern_eq_ok_iff {comparison : Comparison} {type : ColumnType} :
    checkPattern comparison type = .ok () ↔ type.IsText := by
  rw [← ColumnType.isText_iff, checkPattern]
  split <;> simp_all

theorem checkTypes_eq_ok_iff {u : FilterUnit} :
    checkTypes u = .ok () ↔
      (u.comparison.isPatternMatch = true →
        u.left.type.IsText ∧ u.right.type.IsText) ∧
      (u.comparison.isPatternMatch = false →
        u.left.type.isComparableWith u.right.type = true) := by
  unfold checkTypes
  by_cases hpattern : u.comparison.isPatternMatch = true
  · rw [if_pos hpattern, bind_eq_ok_iff]
    simp [hpattern, checkPattern_eq_ok_iff, Unique.exists_iff]
  · rw [if_neg hpattern]
    by_cases hcomparable : u.left.type.isComparableWith u.right.type = true
    · simp [hpattern, hcomparable]
    · simp [hpattern, hcomparable]

/-- The sides that a comparison admits are those that can be kept and then pass
the check of types. -/
theorem admits_iff {comparison : Comparison} {left right : FilterOperand} :
    comparison.Admits left right ↔ ∃ left' right',
      comparison.Keeps left right left' right' ∧
      checkTypes ⟨left', comparison, right'⟩ = .ok () := by
  simp only [checkTypes_eq_ok_iff]
  constructor
  · rintro (⟨hpattern, hleft, hright⟩ | ⟨hnot, hfits⟩ | ⟨hnot, hfits⟩ |
      ⟨hnot, hcomparable⟩ | ⟨hnot, hcomparable⟩)
    · exact ⟨_, _, .pattern hpattern, fun _ => ⟨hleft, hright⟩, by simp [hpattern]⟩
    · obtain ⟨w, hw⟩ := Literal.exists_convertFor_iff.mpr hfits
      have hcomparable := Literal.isComparableWith_of_convertFor hw
      rw [ColumnType.isComparableWith_comm] at hcomparable
      exact ⟨_, _, .fieldLiteral hnot hw, by simp [hnot], fun _ => hcomparable⟩
    · obtain ⟨w, hw⟩ := Literal.exists_convertFor_iff.mpr hfits
      have hcomparable := Literal.isComparableWith_of_convertFor hw
      exact ⟨_, _, .literalField hnot hw, by simp [hnot], fun _ => hcomparable⟩
    · exact ⟨_, _, .fields hnot, by simp [hnot], fun _ => hcomparable⟩
    · exact ⟨_, _, .literals hnot, by simp [hnot], fun _ => hcomparable⟩
  · rintro ⟨left', right', hkeeps, htexts, hcomparable⟩
    cases hkeeps with
    | pattern hpattern =>
        exact .pattern hpattern (htexts hpattern).1 (htexts hpattern).2
    | fieldLiteral hnot hw =>
        exact .fieldLiteral hnot (Literal.exists_convertFor_iff.mp ⟨_, hw⟩)
    | literalField hnot hw =>
        exact .literalField hnot (Literal.exists_convertFor_iff.mp ⟨_, hw⟩)
    | fields hnot => exact .fields hnot (hcomparable hnot)
    | literals hnot => exact .literals hnot (hcomparable hnot)

theorem bindCondition_eq_ok_iff_standsFor {s : Scope} {c : Condition}
    {u : FilterUnit} :
    s.bindCondition c = .ok u ↔ s.StandsFor c u ∧ checkTypes u = .ok () := by
  rw [bindCondition_eq_ok_iff]
  simp only [bindOperand_eq_ok_iff, comparedSides_eq_ok_iff]
  constructor
  · rintro ⟨left, right, hleft, hright, hkeeps, hcomparison, hcheck⟩
    exact ⟨⟨hcomparison, left, right, hleft, hright, hkeeps⟩, hcheck⟩
  · rintro ⟨⟨hcomparison, left, right, hleft, hright, hkeeps⟩, hcheck⟩
    exact ⟨left, right, hleft, hright, hkeeps, hcomparison, hcheck⟩

theorem exists_bindCondition_iff {s : Scope} {c : Condition} :
    (∃ u, s.bindCondition c = .ok u) ↔ s.WellTyped c := by
  simp only [bindCondition_eq_ok_iff_standsFor]
  constructor
  · rintro ⟨⟨left', _, right'⟩, ⟨rfl, left, right, hleft, hright, hkeeps⟩, hcheck⟩
    exact ⟨left, right, hleft, hright, admits_iff.mpr ⟨left', right', hkeeps, hcheck⟩⟩
  · rintro ⟨left, right, hleft, hright, hadmits⟩
    obtain ⟨left', right', hkeeps, hcheck⟩ := admits_iff.mp hadmits
    exact ⟨⟨left', c.comparison, right'⟩,
      ⟨rfl, left, right, hleft, hright, hkeeps⟩, hcheck⟩

theorem typeSound_of_bindCondition {s : Scope} {c : Condition} {u : FilterUnit}
    (h : s.bindCondition c = .ok u) : u.TypeSound := by
  obtain ⟨⟨hcomparison, left, right, -, -, hkeeps⟩, hcheck⟩ :=
    bindCondition_eq_ok_iff_standsFor.mp h
  obtain ⟨htexts, hcomparable⟩ := checkTypes_eq_ok_iff.mp hcheck
  refine ⟨htexts, hcomparable, ?_, ?_⟩
  · intro hnot r v hleft hright
    rw [hcomparison] at hnot
    rw [hleft, hright] at hkeeps
    cases hkeeps with
    | pattern hpattern =>
        rw [hnot] at hpattern
        cases hpattern
    | fieldLiteral _ hw => exact Literal.suits_of_convertFor hw
  · intro hnot v r hleft hright
    rw [hcomparison] at hnot
    rw [hleft, hright] at hkeeps
    cases hkeeps with
    | pattern hpattern =>
        rw [hnot] at hpattern
        cases hpattern
    | literalField _ hw => exact Literal.suits_of_convertFor hw

/-! ### The whole list -/

theorem bindConditions_eq_ok_iff {s : Scope} {conditions : List Condition}
    {filter : Filter} :
    s.bindConditions conditions = .ok filter ↔
      List.Forall₂ (fun c u => s.bindCondition c = .ok u) conditions filter.units := by
  rw [bindConditions, map_eq_ok_iff, ← mapM_eq_ok_iff]
  constructor
  · rintro ⟨units, hunits, rfl⟩
    exact hunits
  · intro h
    exact ⟨filter.units, h, rfl⟩

/-- **Conditions bind exactly if they are well typed.** In any scope a WHERE list
gives a filter if and only if each of its conditions is well typed. The units of
the filter then stand for the conditions one by one, with their sides and
comparisons, and are type sound. -/
theorem bindConditions_iff_wellTyped (s : Scope) (conditions : List Condition) :
    ((∃ filter, s.bindConditions conditions = .ok filter) ↔
      ∀ c ∈ conditions, s.WellTyped c) ∧
    ∀ filter, s.bindConditions conditions = .ok filter →
      List.Forall₂ s.StandsFor conditions filter.units ∧
      ∀ u ∈ filter.units, u.TypeSound := by
  simp only [bindConditions_eq_ok_iff]
  refine ⟨⟨?_, ?_⟩, fun filter hunits => ⟨?_, ?_⟩⟩
  · rintro ⟨filter, hunits⟩ c hc
    obtain ⟨u, -, hu⟩ := exists_of_forall₂_right hunits.flip hc
    exact exists_bindCondition_iff.mp ⟨u, hu⟩
  · intro htyped
    obtain ⟨units, hunits⟩ := exists_forall₂ fun c hc =>
      exists_bindCondition_iff.mpr (htyped c hc)
    exact ⟨⟨units⟩, hunits⟩
  · exact hunits.imp fun c u hu => (bindCondition_eq_ok_iff_standsFor.mp hu).1
  · intro u hu
    obtain ⟨c, -, hbound⟩ := exists_of_forall₂_right hunits hu
    exact typeSound_of_bindCondition hbound

end Scope

end QueryBind
