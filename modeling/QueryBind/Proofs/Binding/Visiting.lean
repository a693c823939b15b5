import QueryBind.Proofs.Binding.Projection

/-!
# Attributes one by one

A SELECT list is visited from its last attribute to its first, and a visit
depends on the visits before it. What comes of the list does not: it is told by
what every attribute comes to alone. The list resolves if all attributes do and
they agree on being aggregated; otherwise the last attribute that is at fault
decides the error. An attribute that resolves alone is at fault only for being
aggregated where the last attribute of the list is not, or the other way round.
-/

namespace QueryBind

open Sql

/-! ## An attribute alone -/

/-- What an attribute comes to at its index without any others: how it is
aggregated, and its fields. -/
def Relations.alone (relations : Relations) (entry : Attribute × Nat) :
    Except Error (Aggregation × List BoundField) := do
  let aggregation ← entry.1.aggregation
  let group ← resolveAttribute relations entry.2 entry.1 aggregation
  return (aggregation, group)

/-- What an attribute comes to among others, all of which are aggregated or none
is, as `flag` tells. -/
def Relations.among (relations : Relations) (flag : Bool)
    (entry : Attribute × Nat) : Except Error (List BoundField) := do
  let aggregation ← entry.1.aggregation
  if flag != aggregation.isAggregate then
    throw (.mixedAggregation entry.1 aggregation.isAggregate)
  resolveAttribute relations entry.2 entry.1 aggregation

theorem Relations.alone_eq_ok_iff {relations : Relations} {entry : Attribute × Nat}
    {aggregation : Aggregation} {group : List BoundField} :
    relations.alone entry = .ok (aggregation, group) ↔
      entry.1.aggregation = .ok aggregation ∧
      resolveAttribute relations entry.2 entry.1 aggregation = .ok group := by
  unfold alone
  constructor
  · intro h
    obtain ⟨_, haggregation, h⟩ := bind_eq_ok_iff.mp h
    obtain ⟨_, hgroup, h⟩ := bind_eq_ok_iff.mp h
    cases h
    exact ⟨haggregation, hgroup⟩
  · rintro ⟨haggregation, hgroup⟩
    rw [haggregation, ok_bind, hgroup]
    rfl

theorem Relations.among_of_aggregation {relations : Relations} {flag : Bool}
    {entry : Attribute × Nat} {aggregation : Aggregation}
    (h : entry.1.aggregation = .ok aggregation) :
    relations.among flag entry =
      if aggregation.isAggregate = flag then (relations.alone entry).map (·.2)
      else .error (.mixedAggregation entry.1 aggregation.isAggregate) := by
  rw [among, alone, h, ok_bind, ok_bind]
  by_cases hflag : aggregation.isAggregate = flag
  · rw [if_pos hflag, if_neg (by simp [hflag])]
    dsimp only
    cases resolveAttribute relations entry.2 entry.1 aggregation <;> rfl
  · rw [if_neg hflag, if_pos (by simpa using Ne.symm hflag)]
    rfl

theorem Relations.among_eq_ok_iff {relations : Relations} {flag : Bool}
    {entry : Attribute × Nat} {group : List BoundField} :
    relations.among flag entry = .ok group ↔ ∃ aggregation,
      relations.alone entry = .ok (aggregation, group) ∧
      aggregation.isAggregate = flag := by
  constructor
  · intro h
    obtain ⟨aggregation, haggregation, -⟩ := bind_eq_ok_iff.mp h
    rw [among_of_aggregation haggregation] at h
    split at h
    · next hflag =>
        obtain ⟨⟨own, _⟩, halone, rfl⟩ := map_eq_ok_iff.mp h
        have hown := (alone_eq_ok_iff.mp halone).1
        rw [haggregation] at hown
        cases hown
        exact ⟨aggregation, halone, hflag⟩
    · cases h
  · rintro ⟨aggregation, halone, hflag⟩
    rw [among_of_aggregation (alone_eq_ok_iff.mp halone).1, if_pos hflag, halone]
    rfl

/-! ## All visits -/

namespace Projection

/-- Behind the first attribute a visit asks only whether attributes go with it. -/
theorem visit_some (relations : Relations) (flag : Bool)
    (as : List (Attribute × Nat)) :
    visit relations (some flag) as = as.mapM (relations.among flag) := by
  induction as with
  | nil => rfl
  | cons a as ih =>
      obtain ⟨a, index⟩ := a
      rw [visit, List.mapM_cons, Relations.among]
      cases a.aggregation with
      | error e => rfl
      | ok aggregation =>
          simp only [ok_bind, Option.any_some]
          cases hsame : flag != aggregation.isAggregate with
          | true => rfl
          | false =>
              have hflag : flag = aggregation.isAggregate := by simpa using hsame
              rw [← hflag, ih]
              rfl

/-- The first attribute tells for all of them whether they are aggregated. -/
theorem visit_none (relations : Relations) (a : Attribute) (index : Nat)
    (as : List (Attribute × Nat)) :
    visit relations none ((a, index) :: as) = (do
      let aggregation ← a.aggregation
      ((a, index) :: as).mapM (relations.among aggregation.isAggregate)) := by
  rw [visit]
  cases haggregation : a.aggregation with
  | error e => rfl
  | ok aggregation =>
      simp only [ok_bind, visit_some, List.mapM_cons, Relations.among, haggregation,
        bne_self_eq_false, Option.any_none]
      rfl

theorem mapM_among_eq_ok_iff {relations : Relations} {flag : Bool}
    {as : List (Attribute × Nat)} {groups : List (List BoundField)} :
    as.mapM (relations.among flag) = .ok groups ↔
      ∃ results, List.Forall₂ (fun a result => relations.alone a = .ok result)
        as results ∧ (∀ r ∈ results, r.1.isAggregate = flag) ∧
        groups = results.map (·.2) := by
  rw [mapM_eq_ok_iff]
  constructor
  · intro h
    induction h with
    | nil => exact ⟨[], .nil, by simp, rfl⟩
    | cons hfirst _ ih =>
        obtain ⟨results, hresults, hflags, rfl⟩ := ih
        obtain ⟨aggregation, halone, hflag⟩ := Relations.among_eq_ok_iff.mp hfirst
        refine ⟨(aggregation, _) :: results, .cons halone hresults, ?_, rfl⟩
        exact List.forall_mem_cons.mpr ⟨hflag, hflags⟩
  · rintro ⟨results, hresults, hflags, rfl⟩
    induction hresults with
    | nil => exact .nil
    | cons halone _ ih =>
        obtain ⟨hflag, hflags⟩ := List.forall_mem_cons.mp hflags
        exact .cons (Relations.among_eq_ok_iff.mpr ⟨_, halone, hflag⟩) (ih hflags)

/-- A list resolves if every attribute does alone and all agree on being
aggregated; then it has the group of each. -/
theorem visit_eq_ok_iff {relations : Relations} {as : List (Attribute × Nat)}
    {groups : List (List BoundField)} :
    visit relations none as = .ok groups ↔
      ∃ results, List.Forall₂ (fun a result => relations.alone a = .ok result)
        as results ∧ (∃ flag, ∀ r ∈ results, r.1.isAggregate = flag) ∧
        groups = results.map (·.2) := by
  cases as with
  | nil =>
      rw [visit, Except.ok.injEq]
      constructor
      · rintro rfl
        exact ⟨[], .nil, ⟨true, by simp⟩, rfl⟩
      · rintro ⟨results, hresults, -, rfl⟩
        cases hresults
        rfl
  | cons a as =>
      obtain ⟨a, index⟩ := a
      rw [visit_none]
      constructor
      · intro h
        obtain ⟨aggregation, -, h⟩ := bind_eq_ok_iff.mp h
        obtain ⟨results, hresults, hflags, hgroups⟩ := mapM_among_eq_ok_iff.mp h
        exact ⟨results, hresults, ⟨_, hflags⟩, hgroups⟩
      · rintro ⟨results, hresults, ⟨flag, hflags⟩, hgroups⟩
        -- The flag that all agree on is that of the first attribute.
        obtain ⟨aggregation, haggregation, hflag⟩ :
            ∃ aggregation, a.aggregation = .ok aggregation ∧
              aggregation.isAggregate = flag := by
          cases hresults with
          | @cons _ result _ _ halone _ =>
              exact ⟨result.1, (Relations.alone_eq_ok_iff.mp halone).1,
                hflags _ List.mem_cons_self⟩
        rw [haggregation, ok_bind, hflag]
        exact mapM_among_eq_ok_iff.mpr ⟨results, hresults, hflags, hgroups⟩

/-- Whether the last attribute is aggregated tells whether all are. -/
theorem aggregates_eq_true_iff {relations : Relations} {attributes : List Attribute}
    {results : List (Aggregation × List BoundField)} {flag : Bool}
    (hresults : List.Forall₂ (fun a result => relations.alone a = .ok result)
      attributes.zipIdx results)
    (hflags : ∀ r ∈ results, r.1.isAggregate = flag) :
    aggregates attributes = true ↔
      attributes ≠ [] ∧ ∀ r ∈ results, r.1.isAggregate = true := by
  rcases attributes.eq_nil_or_concat with rfl | ⟨before, last, rfl⟩
  · simp [aggregates]
  rw [List.concat_eq_append] at hresults ⊢
  have hmem : (last, before.length) ∈ (before ++ [last]).zipIdx := by
    simp [List.zipIdx_append]
  obtain ⟨result, hresult, halone⟩ := exists_of_forall₂_right hresults.flip hmem
  have hplain := isAggregate_of_aggregation (Relations.alone_eq_ok_iff.mp halone).1
  rw [aggregates, List.getLast?_concat]
  dsimp only
  rw [← hplain]
  constructor
  · intro hlast
    refine ⟨by simp, fun r hr => ?_⟩
    rw [hflags r hr, ← hflags result hresult, hlast]
  · rintro ⟨-, hall⟩
    exact hall result hresult

end Projection

/-! ## Attributes at fault -/

/-- An aggregation is in line with the last attribute of a list: that one is
aggregated too, or is not either. -/
def Aggregation.InLine (attributes : List Attribute) (aggregation : Aggregation) :
    Prop :=
  ∀ last ∈ attributes.getLast?, ∀ other, last.aggregation = .ok other →
    aggregation.isAggregate = other.isAggregate

/-- The attribute at an index is at fault: by its shape; or else by not being in
line with the last attribute; or else by what it comes to alone. -/
inductive Faulty (relations : Relations) (attributes : List Attribute) (i : Nat) :
    Error → Prop where
  | shape {a e} : attributes[i]? = some a → a.aggregation = .error e →
      Faulty relations attributes i e
  | mixed {a aggregation} : attributes[i]? = some a →
      a.aggregation = .ok aggregation → ¬ aggregation.InLine attributes →
      Faulty relations attributes i (.mixedAggregation a aggregation.isAggregate)
  | alone {a aggregation e} : attributes[i]? = some a →
      a.aggregation = .ok aggregation → aggregation.InLine attributes →
      relations.alone (a, i) = .error e → Faulty relations attributes i e

theorem Faulty.lt_length {relations : Relations} {attributes : List Attribute}
    {i : Nat} {e : Error} (h : Faulty relations attributes i e) :
    i < attributes.length := by
  cases h with
  | shape ha _ => exact (List.getElem?_eq_some_iff.mp ha).1
  | mixed ha _ _ => exact (List.getElem?_eq_some_iff.mp ha).1
  | alone ha _ _ _ => exact (List.getElem?_eq_some_iff.mp ha).1

/-- With a last attribute of good shape, the attributes at fault are those that
do not go among attributes of its kind. -/
theorem faulty_iff {relations : Relations} {attributes : List Attribute}
    {last : Attribute} {aggregation : Aggregation} {i : Nat} {e : Error}
    (hlast : attributes.getLast? = some last)
    (haggregation : last.aggregation = .ok aggregation) :
    Faulty relations attributes i e ↔ ∃ a, attributes[i]? = some a ∧
      relations.among aggregation.isAggregate (a, i) = .error e := by
  have hline : ∀ own : Aggregation, own.InLine attributes ↔
      own.isAggregate = aggregation.isAggregate := by
    intro own
    simp [Aggregation.InLine, hlast, haggregation]
  constructor
  · rintro (⟨ha, hshape⟩ | ⟨ha, hown, hmixed⟩ | ⟨ha, hown, hsame, halone⟩)
    · refine ⟨_, ha, ?_⟩
      rw [Relations.among, hshape]
      rfl
    · refine ⟨_, ha, ?_⟩
      rw [Relations.among_of_aggregation hown, if_neg (by rwa [← hline])]
    · refine ⟨_, ha, ?_⟩
      rw [Relations.among_of_aggregation hown, if_pos ((hline _).mp hsame), halone]
      rfl
  · rintro ⟨a, ha, h⟩
    cases hown : a.aggregation with
    | error e' =>
        rw [Relations.among, hown] at h
        cases h
        exact .shape ha hown
    | ok own =>
        rw [Relations.among_of_aggregation hown] at h
        split at h
        · next hsame =>
            refine .alone ha hown ((hline own).mpr hsame) ?_
            cases halone : relations.alone (a, i) with
            | error e' =>
                rw [halone] at h
                cases h
                rfl
            | ok result =>
                rw [halone] at h
                cases h
        · next hdiffers =>
            cases h
            exact .mixed ha hown (by rwa [hline])

namespace Projection

/-- A list does not resolve exactly if an attribute is at fault, and its error is
that of the last one. -/
theorem visit_eq_error_iff {relations : Relations} {attributes : List Attribute}
    {e : Error} :
    visit relations none attributes.zipIdx.reverse = .error e ↔
      ∃ i, Faulty relations attributes i e ∧
        ∀ j e', i < j → ¬ Faulty relations attributes j e' := by
  rcases attributes.eq_nil_or_concat with rfl | ⟨before, last, rfl⟩
  · constructor
    · rintro ⟨⟩
    · rintro ⟨i, hfaulty, -⟩
      cases hfaulty.lt_length
  rw [List.concat_eq_append]
  have hreverse : (before ++ [last]).zipIdx.reverse =
      (last, before.length) :: before.zipIdx.reverse := by
    simp [List.zipIdx_append]
  have hget : (before ++ [last])[before.length]? = some last := by simp
  have hlength : (before ++ [last]).length = before.length + 1 := by simp
  cases haggregation : last.aggregation with
  | error shapeError =>
      -- The last attribute is at fault by its shape, and nothing stands behind it.
      have hfault : Faulty relations (before ++ [last]) before.length shapeError :=
        .shape hget haggregation
      rw [hreverse, visit_none, haggregation, error_bind]
      constructor
      · rintro ⟨⟩
        refine ⟨before.length, hfault, fun j e' hj hfaulty => ?_⟩
        have := hfaulty.lt_length
        omega
      · rintro ⟨i, hfaulty, hlater⟩
        have hi : i = before.length := by
          have := hfaulty.lt_length
          have : ¬ i < before.length := fun hlt => hlater _ _ hlt hfault
          omega
        subst hi
        cases hfaulty with
        | shape ha hshape =>
            rw [hget] at ha
            cases ha
            rw [haggregation] at hshape
            cases hshape
            rfl
        | mixed ha hown _ =>
            rw [hget] at ha
            cases ha
            rw [haggregation] at hown
            cases hown
        | alone ha hown _ _ =>
            rw [hget] at ha
            cases ha
            rw [haggregation] at hown
            cases hown
  | ok aggregation =>
      have hlast : (before ++ [last]).getLast? = some last := List.getLast?_concat
      rw [hreverse, visit_none, haggregation, ok_bind, ← hreverse,
        mapM_visited_eq_error_iff]
      simp only [faulty_iff hlast haggregation]
      constructor
      · rintro ⟨i, a, ha, hfails, hlater⟩
        refine ⟨i, ⟨a, ha, hfails⟩, ?_⟩
        rintro j e' hj ⟨b, hb, hfails'⟩
        obtain ⟨r, hr⟩ := hlater j b hj hb
        rw [hr] at hfails'
        cases hfails'
      · rintro ⟨i, ⟨a, ha, hfails⟩, hlater⟩
        refine ⟨i, a, ha, hfails, fun j b hj hb => ?_⟩
        cases hresult : relations.among aggregation.isAggregate (b, j) with
        | ok r => exact ⟨r, rfl⟩
        | error e' => exact absurd ⟨b, hb, hresult⟩ (hlater j e' hj)

/-- What a list that resolves gives: the flag and the fields, in either order. -/
theorem resolve_eq_ok_iff {relations : Relations} {order : ProjectionOrder}
    {attributes : List Attribute} {p : Projection} :
    resolve relations order attributes = .ok p ↔ ∃ results,
      List.Forall₂ (fun entry result => relations.alone entry = .ok result)
        attributes.zipIdx results ∧
      (∃ flag, ∀ r ∈ results, r.1.isAggregate = flag) ∧
      p.isAggregate = aggregates attributes ∧
      p.fields = match order with
        | .visitation => results.reverse.flatMap (·.2)
        | .source => results.flatMap (·.2) := by
  unfold resolve
  constructor
  · intro h
    obtain ⟨groups, hvisit, h⟩ := bind_eq_ok_iff.mp h
    cases h
    obtain ⟨visited, hvisited, ⟨flag, hflags⟩, rfl⟩ := visit_eq_ok_iff.mp hvisit
    refine ⟨visited.reverse, ?_, ⟨flag, by simpa using hflags⟩, rfl, ?_⟩
    · simpa using List.rel_reverse hvisited
    · cases order <;> simp [List.flatMap_def]
  · rintro ⟨results, hresults, ⟨flag, hflags⟩, hflag, hfields⟩
    have hvisit : visit relations none attributes.zipIdx.reverse =
        .ok (results.reverse.map (·.2)) :=
      visit_eq_ok_iff.mpr ⟨results.reverse, List.rel_reverse hresults,
        ⟨flag, by simpa using hflags⟩, rfl⟩
    obtain ⟨fields, isAggregate⟩ := p
    dsimp only at hflag hfields
    subst hflag hfields
    rw [hvisit]
    cases order <;> simp [List.flatMap_def]

/-- **A list of attributes comes to what its attributes come to alone.** It
resolves exactly if each of them does and all are aggregated or none is. Then
the flag tells which, and the fields are the groups of the attributes, from the
last to the first in order of visits and from the first to the last in order of
the source. Otherwise the last attribute at fault decides the error. So no list
with an aggregate and a plain attribute ever resolves. -/
theorem resolve_by_attributes (relations : Relations) (order : ProjectionOrder)
    (attributes : List Attribute) :
    (∀ p, resolve relations order attributes = .ok p ↔ ∃ results,
      List.Forall₂ (fun entry result => relations.alone entry = .ok result)
        attributes.zipIdx results ∧
      (∃ flag, ∀ r ∈ results, r.1.isAggregate = flag) ∧
      (p.isAggregate = true ↔
        attributes ≠ [] ∧ ∀ r ∈ results, r.1.isAggregate = true) ∧
      p.fields = match order with
        | .visitation => results.reverse.flatMap (·.2)
        | .source => results.flatMap (·.2)) ∧
    (∀ e, resolve relations order attributes = .error e ↔
      ∃ i, Faulty relations attributes i e ∧
        ∀ j e', i < j → ¬ Faulty relations attributes j e') ∧
    (∀ a ∈ attributes, ∀ b ∈ attributes, a.shape.isPlain ≠ b.shape.isPlain →
      ∀ p, resolve relations order attributes ≠ .ok p) := by
  refine ⟨fun p => ?_, fun e => ?_, fun a ha b hb hdiffer p h => ?_⟩
  · rw [resolve_eq_ok_iff]
    refine exists_congr fun results => and_congr_right fun hresults => ?_
    refine and_congr_right fun ⟨flag, hflags⟩ => and_congr_left fun _ => ?_
    rw [← aggregates_eq_true_iff hresults hflags, Bool.coe_iff_coe]
  · rw [← visit_eq_error_iff, resolve]
    cases visit relations none attributes.zipIdx.reverse <;> simp
  · obtain ⟨results, hresults, ⟨flag, hflags⟩, -⟩ := resolve_eq_ok_iff.mp h
    have hkind : ∀ a ∈ attributes, flag = !a.shape.isPlain := by
      intro a ha
      obtain ⟨i, hi⟩ := List.getElem?_of_mem ha
      obtain ⟨r, hr, halone⟩ := exists_of_forall₂_right hresults.flip
        (List.mem_zipIdx_iff_getElem?.mpr hi : (a, i) ∈ attributes.zipIdx)
      have hshape := (Relations.alone_eq_ok_iff.mp halone).1
      rw [← hflags r hr, isAggregate_of_aggregation hshape]
    have hsame := (hkind a ha).symm.trans (hkind b hb)
    exact hdiffer (by simpa using hsame)

end Projection

end QueryBind
