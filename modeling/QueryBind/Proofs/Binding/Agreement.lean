import QueryBind.Proofs.Binding.Projection
import QueryBind.Proofs.Binding.Typing

/-!
# One name, two resolvers

A column may stand in the projection and in the conditions of one SELECT, and
each place resolves it on its own. Both find the table first and then the field.
The two steps are set side by side here: both places find the same field or
neither finds one, and where neither does the errors differ only as far as the
table is concerned.
-/

namespace QueryBind

open Sql Text

/-! ## The field of a table -/

namespace Table

theorem hasField_eq_false_iff {t : Table} {name : String} :
    t.hasField name = false ↔ t.ref? name = none := by
  have hfind : t.hasField name = false ↔ t.fieldIndex? name = none := by
    rw [hasField, Option.isSome_eq_false_iff, Option.isNone_iff_eq_none, field?,
      fieldIndex?, List.find?_eq_none, List.findIdx?_eq_none_iff]
    simp
  rw [hfind]
  constructor
  · intro h
    rw [ref?, h]
    rfl
  · intro h
    cases hindex : t.fieldIndex? name with
    | none => rfl
    | some i =>
        obtain ⟨hlt, -⟩ := List.findIdx?_eq_some_iff_getElem.mp hindex
        have href : t.ref? name = some ⟨t, i, hlt⟩ := ref?_eq_some_iff.mpr ⟨rfl, hindex⟩
        rw [h] at href
        cases href

/-- A look-up fails for a field that the table does not have, and only so. -/
theorem lookup_eq_error_iff {t : Table} {name : String} {e : Error} :
    t.lookup name = .error e ↔ t.hasField name = false ∧
      e = .noSuchField name t.name (nearest? name (t.userFields.map (·.name))) := by
  rw [hasField_eq_false_iff, lookup]
  cases t.ref? name with
  | none => simp [eq_comm]
  | some r => simp

/-- No field is found by a blank name. -/
theorem ref?_blank {t : Table} {name : String} (h : isBlank name = true) :
    t.ref? name = none := by
  cases href : t.ref? name with
  | none => rfl
  | some r =>
      obtain ⟨-, hname⟩ := ref?_eq_some_iff_name.mp href
      have hnot := r.name_not_blank
      rw [hname, h] at hnot
      cases hnot

end Table

/-! ## The table -/

/-- The qualifier of a column is a name that is not listed. -/
def Sql.Attribute.IsUnlisted (a : Attribute) (names : List String) : Prop :=
  ∃ relation, a.relation = some relation ∧ isBlank relation = false ∧
    relation ∉ names

theorem Sql.Attribute.isUnlisted_iff {a : Attribute} {names : List String} :
    a.IsUnlisted names ↔ ∃ relation, a.qualifier? = some relation ∧ relation ∉ names := by
  simp only [IsUnlisted, qualifier?_eq_some_iff, and_assoc]

/-- The two places find the same table; or none, because the qualifier is not
listed, or because there is no qualifier and no default table either. -/
theorem tableOf_cases (source : TableSource) (relations : Relations) (a : Attribute) :
    (∃ t, ¬ a.IsUnlisted relations.names ∧ relations.tableOf a = .ok t ∧
      (Scope.ofRelations source relations).tableOf a = .ok t) ∨
    (∃ relation suggestion, a.IsUnlisted relations.names ∧
      relations.tableOf a = .error (.relationNotListed relation suggestion) ∧
      (Scope.ofRelations source relations).tableOf a =
        .error (.tableMissing relation source.name)) ∨
    (¬ a.IsUnlisted relations.names ∧
      relations.tableOf a =
        .error (.ambiguousField relations.tables.length a.name) ∧
      (Scope.ofRelations source relations).tableOf a =
        .error (.unqualifiedInCondition a.name)) := by
  have hfind : ∀ name, (Scope.ofRelations source relations).find? name =
      relations.find? name := fun _ => rfl
  have hdefault : (Scope.ofRelations source relations).default? =
      relations.default? := rfl
  simp only [Attribute.isUnlisted_iff, ← Relations.find?_eq_none_iff,
    Relations.tableOf, Scope.tableOf, hfind, hdefault]
  cases a.qualifier? with
  | some relation =>
      dsimp only
      cases htable : relations.find? relation with
      | some t => exact .inl ⟨t, by simp [htable], rfl, rfl⟩
      | none => exact .inr (.inl ⟨relation, _, ⟨relation, rfl, htable⟩, rfl, rfl⟩)
  | none =>
      dsimp only
      cases relations.default? with
      | some t => exact .inl ⟨t, by simp, rfl, rfl⟩
      | none => exact .inr (.inr ⟨by simp, rfl, rfl⟩)

/-! ## Both places -/

section Column

variable {a : Attribute} (ha : a.IsColumn)
include ha

theorem Scope.bindAttribute_column (s : Scope) :
    s.bindAttribute a = (do
      let t ← s.tableOf a
      t.lookup a.name) := by
  obtain ⟨hshape, hname, hqualifier⟩ := Attribute.isColumn_iff.mp ha
  simp only [bindAttribute, hshape, hname, hqualifier]
  cases s.tableOf a with
  | error e => rfl
  | ok t =>
      unfold Table.lookup
      cases t.ref? a.name <;> rfl

theorem resolveAttribute_isColumn (hblank : isBlank a.name = false)
    (relations : Relations) (index : Nat) :
    resolveAttribute relations index a .none = (do
      let t ← relations.tableOf a
      let r ← t.lookup a.name
      .ok [⟨r, .none⟩]) := by
  obtain ⟨-, hname, hqualifier⟩ := Attribute.isColumn_iff.mp ha
  exact resolveAttribute_column hblank hname hqualifier

/-- What the projection finds for a column is one field, the one that a condition
compares. -/
theorem resolveAttribute_eq_ok_iff_bindAttribute (source : TableSource)
    {relations : Relations} {index : Nat} {group : List BoundField} :
    resolveAttribute relations index a .none = .ok group ↔
      ∃ r, (Scope.ofRelations source relations).bindAttribute a = .ok r ∧
        group = [⟨r, .none⟩] := by
  rw [Scope.bindAttribute_column ha]
  cases hblank : isBlank a.name with
  | true =>
      -- The projection refuses a blank name, and no table has a field of one.
      rw [resolveAttribute_blank hblank]
      constructor
      · rintro ⟨⟩
      · rintro ⟨r, hr, -⟩
        obtain ⟨t, -, hlookup⟩ := bind_eq_ok_iff.mp hr
        rw [Table.lookup_eq_ok_iff, Table.ref?_blank hblank] at hlookup
        cases hlookup
  | false =>
      rw [resolveAttribute_isColumn ha hblank]
      rcases tableOf_cases source relations a with
        ⟨t, -, hprojected, hcompared⟩ | ⟨_, _, -, hprojected, hcompared⟩ |
        ⟨-, hprojected, hcompared⟩
      · rw [hprojected, hcompared, ok_bind, ok_bind]
        cases t.lookup a.name <;> simp [eq_comm]
      · simp [hprojected, hcompared]
      · simp [hprojected, hcompared]

/-- Where neither place finds a field, the table is at fault in both or the field
is in both, and the errors then are the same. -/
theorem kinds_of_errors {source : TableSource} {relations : Relations} {index : Nat}
    (hblank : isBlank a.name = false) {e e' : Error}
    (hprojected : resolveAttribute relations index a .none = .error e)
    (hcompared : (Scope.ofRelations source relations).bindAttribute a = .error e') :
    e.kind = .fieldMissing ∧
      (a.IsUnlisted relations.names → e'.kind = .tableNotFound) ∧
      (¬ a.IsUnlisted relations.names → e'.kind = .fieldMissing) := by
  rw [resolveAttribute_isColumn ha hblank] at hprojected
  rw [Scope.bindAttribute_column ha] at hcompared
  rcases tableOf_cases source relations a with
    ⟨t, hlisted, htable, htable'⟩ | ⟨_, _, hunlisted, htable, htable'⟩ |
    ⟨hlisted, htable, htable'⟩
  · -- Both look the field up in one table, and so with one error.
    rw [htable', ok_bind] at hcompared
    rw [htable, ok_bind, hcompared] at hprojected
    cases hprojected
    obtain ⟨-, rfl⟩ := Table.lookup_eq_error_iff.mp hcompared
    exact ⟨rfl, fun h => absurd h hlisted, fun _ => rfl⟩
  · rw [htable] at hprojected
    rw [htable'] at hcompared
    cases hprojected
    cases hcompared
    exact ⟨rfl, fun _ => rfl, fun hnot => absurd hunlisted hnot⟩
  · rw [htable] at hprojected
    rw [htable'] at hcompared
    cases hprojected
    cases hcompared
    exact ⟨rfl, fun h => absurd h hlisted, fun _ => rfl⟩

/-- A field that its table does not have gives one error in both places. -/
theorem same_error_of_missing {source : TableSource} {relations : Relations}
    (hblank : isBlank a.name = false) {t : Table}
    (ht : (Scope.ofRelations source relations).Owns a t)
    (hmissing : t.hasField a.name = false) (index : Nat) :
    ∃ e, resolveAttribute relations index a .none = .error e ∧
      (Scope.ofRelations source relations).bindAttribute a = .error e := by
  have htable' := Scope.tableOf_eq_ok_iff.mpr ht
  obtain ⟨e, hlookup⟩ : ∃ e, t.lookup a.name = .error e :=
    ⟨_, Table.lookup_eq_error_iff.mpr ⟨hmissing, rfl⟩⟩
  refine ⟨e, ?_, ?_⟩
  · rcases tableOf_cases source relations a with
      ⟨u, -, htable, hsame⟩ | ⟨_, _, -, -, hfails⟩ | ⟨-, -, hfails⟩
    · rw [htable'] at hsame
      cases hsame
      rw [resolveAttribute_isColumn ha hblank, htable, ok_bind, hlookup]
      rfl
    · rw [htable'] at hfails
      cases hfails
    · rw [htable'] at hfails
      cases hfails
  · rw [Scope.bindAttribute_column ha, htable', ok_bind, hlookup]

end Column

/-- **The projection and the conditions resolve names alike.** Over the relations
of any FROM list that resolves, a plain column gives one field in the projection
exactly if it refers to that field in a condition, and it never gives anything
else. Where it gives none and its name is not blank, a field is missing in both
places, except that a qualifier which is not listed is a missing table in a
condition. A field that its table does not have gives the same error in both. -/
theorem resolveAttribute_agrees_bindAttribute {source : TableSource}
    {policy : RepeatPolicy} {names : List String} {keys : Enumeration}
    {relations : Relations}
    (hfrom : Relations.resolve source policy names keys = .ok relations)
    {a : Attribute} (ha : a.IsColumn) (index : Nat) :
    (∀ r, resolveAttribute relations index a .none = .ok [⟨r, .none⟩] ↔
      (Scope.ofRelations source relations).bindAttribute a = .ok r) ∧
    (∀ group, resolveAttribute relations index a .none = .ok group →
      ∃ r, group = [⟨r, .none⟩]) ∧
    (isBlank a.name = false →
      (∀ e e', resolveAttribute relations index a .none = .error e →
        (Scope.ofRelations source relations).bindAttribute a = .error e' →
        e.kind = .fieldMissing ∧
        (a.IsUnlisted names → e'.kind = .tableNotFound) ∧
        (¬ a.IsUnlisted names → e'.kind = .fieldMissing)) ∧
      ∀ t, (Scope.ofRelations source relations).Owns a t →
        t.hasField a.name = false →
        ∃ e, resolveAttribute relations index a .none = .error e ∧
          (Scope.ofRelations source relations).bindAttribute a = .error e) := by
  refine ⟨fun r => ?_, fun group h => ?_, fun hblank => ⟨?_, ?_⟩⟩
  · rw [resolveAttribute_eq_ok_iff_bindAttribute ha source]
    constructor
    · rintro ⟨r', hr', hsame⟩
      cases hsame
      exact hr'
    · intro hr
      exact ⟨r, hr, rfl⟩
  · obtain ⟨r, -, hgroup⟩ :=
      (resolveAttribute_eq_ok_iff_bindAttribute ha source).mp h
    exact ⟨r, hgroup⟩
  · rw [← Relations.names_of_resolve hfrom]
    intro e e' hprojected hcompared
    exact kinds_of_errors ha hblank hprojected hcompared
  · intro t ht hmissing
    exact same_error_of_missing ha hblank ht hmissing index

/-- Over `FROM a, b, a`: a column of the repeated table, a column that the table
does not have, and a column of a table that is not listed. -/
theorem resolveAttribute_agrees_bindAttribute_repeated :
    ∃ (source : TableSource) (relations : Relations) (r : FieldRef) (e e' : Error),
      let scope := Scope.ofRelations source relations
      Relations.resolve source .lastWins ["a", "b", "a"] .listed = .ok relations ∧
      r.table.name = "a" ∧ r.index = 1 ∧
      resolveAttribute relations 0 ⟨some "a", "x", .plain⟩ .none = .ok [⟨r, .none⟩] ∧
      scope.bindAttribute ⟨some "a", "x", .plain⟩ = .ok r ∧
      resolveAttribute relations 0 ⟨some "a", "y", .plain⟩ .none = .error e ∧
      scope.bindAttribute ⟨some "a", "y", .plain⟩ = .error e ∧
      scope.bindAttribute ⟨some "c", "x", .plain⟩ = .error e' ∧
      e'.kind = .tableNotFound := by
  let a : Table := ⟨⟨"a", [⟨"x", .integer, true⟩]⟩,
    ⟨by decide, by decide, by decide, by decide⟩⟩
  let b : Table := ⟨⟨"b", [⟨"y", .integer, true⟩]⟩,
    ⟨by decide, by decide, by decide, by decide⟩⟩
  let source : TableSource := ⟨"main", fun name => [a, b].find? (·.name == name)⟩
  let relations : Relations := ⟨[("a", a), ("b", b), ("a", a)], .listed⟩
  let r : FieldRef := ⟨a, 1, by decide⟩
  have hfrom : Relations.resolve source .lastWins ["a", "b", "a"] .listed =
      .ok relations := rfl
  have hx : (⟨some "a", "x", .plain⟩ : Attribute).IsColumn :=
    ⟨rfl, by decide, by decide⟩
  have hy : (⟨some "a", "y", .plain⟩ : Attribute).IsColumn :=
    ⟨rfl, by decide, by decide⟩
  have hc : (⟨some "c", "x", .plain⟩ : Attribute).IsColumn :=
    ⟨rfl, by decide, by decide⟩
  obtain ⟨hfound, -⟩ := resolveAttribute_agrees_bindAttribute hfrom hx 0
  obtain ⟨-, -, hfails⟩ := resolveAttribute_agrees_bindAttribute hfrom hy 0
  obtain ⟨-, -, hkinds⟩ := resolveAttribute_agrees_bindAttribute hfrom hc 0
  have hbind : (Scope.ofRelations source relations).bindAttribute
      ⟨some "a", "x", .plain⟩ = .ok r := rfl
  obtain ⟨e, hprojected, hcompared⟩ := (hfails (by decide)).2 a
    (.qualified rfl (by decide) rfl) (by decide)
  have hunlisted : (⟨some "c", "x", .plain⟩ : Attribute).IsUnlisted ["a", "b", "a"] :=
    ⟨"c", rfl, by decide, by decide⟩
  have hmissing : resolveAttribute relations 0 ⟨some "c", "x", .plain⟩ .none =
      .error (.relationNotListed "c" (nearest? "c" relations.keys)) :=
    resolveAttribute_isColumn hc (by decide) relations 0
  have hrefused : (Scope.ofRelations source relations).bindAttribute
      ⟨some "c", "x", .plain⟩ = .error (.tableMissing "c" "main") := rfl
  obtain ⟨-, hkind, -⟩ := (hkinds (by decide)).1 _ _ hmissing hrefused
  exact ⟨source, relations, r, e, _, hfrom, rfl, rfl, (hfound r).mpr hbind, hbind,
    hprojected, hcompared, hrefused, hkind hunlisted⟩

end QueryBind
