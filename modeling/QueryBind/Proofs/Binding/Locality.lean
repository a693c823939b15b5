import QueryBind.Session
import QueryBind.Proofs.Binding.Filter
import QueryBind.Proofs.Results
import QueryBind.Proofs.Value.Numbers

/-!
# What binding depends on

A SELECT is bound against the tables of its FROM list. Two sources that go by
one name and hold the same tables under the names of the list give the same
result, errors with their texts included: no other table, no version and no
order of tables shows. What a binding gives compares equal with itself, as the
conditions of a text hold no literal that does not.
-/

namespace QueryBind

open Sql Text

/-! ## Sources that agree -/

/-- Two sources go by one name and hold the same tables under some names. -/
structure TableSource.AgreeOn (names : List String)
    (source source' : TableSource) : Prop where
  name_eq : source.name = source'.name
  find?_eq : ∀ name ∈ names, source.find? name = source'.find? name

theorem Relations.resolveFrom_congr {source source' : TableSource}
    {policy : RepeatPolicy} {names : List String}
    (h : source.AgreeOn names source') (listed : List String) :
    resolveFrom source policy listed names =
      resolveFrom source' policy listed names := by
  induction names generalizing listed with
  | nil => rfl
  | cons name names ih =>
      have hrest : source.AgreeOn names source' :=
        ⟨h.name_eq, fun n hn => h.find?_eq n (List.mem_cons_of_mem _ hn)⟩
      simp only [resolveFrom]
      rw [h.find?_eq name List.mem_cons_self, h.name_eq]
      cases source'.find? name with
      | none => rfl
      | some t =>
          dsimp only
          rw [ih hrest]

/-- **Binding depends only on the tables of the FROM list.** -/
theorem Binder.bindSelect_congr {source source' : TableSource} {select : Select}
    (settings : Settings) (conditions : ConditionBinder) (keys : Enumeration)
    (h : source.AgreeOn select.relations source') :
    bindSelect ⟨some source, settings, conditions⟩ select keys =
      bindSelect ⟨some source', settings, conditions⟩ select keys := by
  have hrelations :
      Relations.resolve source settings.repeatedTables select.relations keys =
        Relations.resolve source' settings.repeatedTables select.relations keys :=
    congrArg (Except.map _) (Relations.resolveFrom_congr h [])
  have hscope : Scope.ofRelations source = Scope.ofRelations source' := by
    funext relations
    rw [Scope.ofRelations, Scope.ofRelations, h.name_eq]
  simp only [bindSelect, hrelations, hscope]

namespace Session

/-- A text that is a SELECT is bound as that SELECT. -/
theorem bind_of_ofText {s : Session} {text : String} {select : Select}
    {keys : Enumeration} (h : Statement.ofText text = .ok (.select select)) :
    s.bind text keys = s.binder.bindSelect select keys := by
  rw [bind, h]

/-- Sessions of the same settings bind a text alike if the tables that it names
are alike. -/
theorem bind_congr {s s' : Session} {text : String} (keys : Enumeration)
    (hsettings : s.settings = s'.settings)
    (h : ∀ select, Statement.ofText text = .ok (.select select) →
      s.catalog.source.AgreeOn select.relations s'.catalog.source) :
    s.bind text keys = s'.bind text keys := by
  cases htext : Statement.ofText text with
  | error e => rw [bind, bind, htext]
  | ok st =>
      cases st with
      | createTable d => rw [bind, bind, htext]
      | dropTable name => rw [bind, bind, htext]
      | select select =>
          rw [bind_of_ofText htext, bind_of_ofText htext, binder, binder, hsettings]
          exact Binder.bindSelect_congr _ _ _ (h select htext)

end Session

/-! ## Filters without a double that is no number -/

/-- No side of a condition is the double that differs from itself. -/
def Filter.NaNFree (f : Filter) : Prop :=
  ∀ u ∈ f.units, u.left ≠ .literal (.double .nan) ∧
    u.right ≠ .literal (.double .nan)

theorem OperandBinds.ne_nan {tables : List Table} {o : Operand}
    {bound : FilterOperand} (h : OperandBinds tables o bound)
    (ho : o ≠ .literal (.double .nan)) : bound ≠ .literal (.double .nan) := by
  cases h with
  | column _ _ => simp
  | literal =>
      rintro heq
      cases heq
      exact ho rfl
  | converted hconvert =>
      have hw := Literal.convertFor_ne_nan (fun hv => ho (congrArg _ hv)) hconvert
      simpa using hw

namespace Session

/-- A statement that was bound from a text has such a filter. -/
theorem filter_nanFree {s : Session} {text : String} {keys : Enumeration}
    {b : BoundSelect} (h : s.bind text keys = .ok b) : b.filter.NaNFree := by
  unfold bind at h
  split at h
  · cases h
  · next select htext =>
      obtain ⟨relations, -, h⟩ := bind_eq_ok_iff.mp h
      obtain ⟨projection, -, h⟩ := bind_eq_ok_iff.mp h
      obtain ⟨filter, hfilter, h⟩ := bind_eq_ok_iff.mp h
      cases h
      have hunits := Scope.bindConditions_sound hfilter
      intro u hu
      obtain ⟨c, hc, hcu⟩ := exists_of_forall₂_right hunits hu
      obtain ⟨hleft, hright⟩ := operands_ne_nan_of_ofText htext c hc
      exact ⟨hcu.left.ne_nan hleft, hcu.right.ne_nan hright⟩
  · cases h

end Session

/-! ## Equality with itself -/

theorem beq_self_of_forall {α : Type} [BEq α] {as : List α}
    (h : ∀ a ∈ as, (a == a) = true) : (as == as) = true := by
  induction as with
  | nil => rfl
  | cons a as ih =>
      obtain ⟨ha, has⟩ := List.forall_mem_cons.mp h
      rw [List.cons_beq_cons, ha, ih has, Bool.and_self]

theorem BoundField.beq_self (f : BoundField) : (f == f) = true := by
  simp [BEq.beq, instBEqBoundField.beq]

theorem FilterOperand.beq_self {o : FilterOperand}
    (h : o ≠ .literal (.double .nan)) : (o == o) = true := by
  cases o with
  | field r => simp [BEq.beq, instBEqFilterOperand.beq]
  | literal v => exact Literal.beq_self_iff.mpr fun hv => h (congrArg _ hv)

theorem FilterUnit.beq_self {u : FilterUnit}
    (h : u.left ≠ .literal (.double .nan) ∧ u.right ≠ .literal (.double .nan)) :
    (u == u) = true := by
  have hleft := FilterOperand.beq_self h.1
  have hright := FilterOperand.beq_self h.2
  have hcomparison : (u.comparison == u.comparison) = true := beq_self_eq_true _
  show (u.left == u.left && (u.comparison == u.comparison && u.right == u.right)) = true
  rw [hleft, hcomparison, hright]
  rfl

theorem Filter.NaNFree.beq_self {f : Filter} (h : f.NaNFree) : (f == f) = true := by
  show (f.units == f.units) = true
  exact beq_self_of_forall fun u hu => FilterUnit.beq_self (h u hu)

theorem BoundSelect.beq_self {b : BoundSelect} (h : b.filter.NaNFree) :
    (b == b) = true := by
  have hfields := beq_self_of_forall fun f (_ : f ∈ b.fields) => f.beq_self
  show (b.tables.map (·.name) == b.tables.map (·.name) && b.fields == b.fields &&
    b.filter == b.filter && b.isAggregate == b.isAggregate) = true
  rw [hfields, h.beq_self, beq_self_eq_true, beq_self_eq_true]
  rfl

end QueryBind
