import Mathlib.Data.List.Nodup
import QueryBind.Proofs.Binding.Wildcards

/-!
# FROM lists

Which FROM lists resolve, to what, and which entry is to blame if one does not. A
list is admitted if each of its names is that of a table, none of them is blank
and, where that is the rule, none stands twice. An entry is judged by the names
before it, so the first one that is refused decides the error.

The rule against repeated names only takes lists away. A list that it admits
binds as it does without the rule, and so does a list that has no repeated name,
whether it binds or not.
-/

namespace QueryBind

open Sql Text

/-! ## Lists that are admitted -/

/-- The entries of the names that a source has tables under. -/
def TableSource.entriesOf (source : TableSource) (names : List String) :
    List (String × Table) :=
  names.filterMap fun name => (source.find? name).map (name, ·)

/-- No name is blank, each is that of a table, and none stands twice if repeated names
are rejected. -/
structure TableSource.Admits (source : TableSource) (policy : RepeatPolicy)
    (names : List String) : Prop where
  not_blank : ∀ name ∈ names, isBlank name = false
  found : ∀ name ∈ names, (source.find? name).isSome = true
  nodup : policy = .reject → names.Nodup

/-- Why a name is refused that stands behind others. -/
inductive Refusal (source : TableSource) (policy : RepeatPolicy) (before : List String)
    (name : String) : Error → Prop where
  | blank : isBlank name = true →
      Refusal source policy before name (.blankRelation before.length)
  | unknown : isBlank name = false → source.find? name = none →
      Refusal source policy before name (.tableMissing name source.name)
  | repeated : policy = .reject → name ∈ before →
      Refusal source policy before name (.repeatedRelation name before.length)

section FromList

variable {source : TableSource} {policy : RepeatPolicy} {names before : List String}
  {keys : Enumeration} {name : String} {e : Error}

/-- The error of an unknown name is told apart from the others by its kind. -/
theorem Refusal.kind_eq (h : Refusal source policy before name e) :
    e.kind = .tableNotFound ∧ isBlank name = false ∧ source.find? name = none ∨
      e.kind = .invalidArgument ∧ (isBlank name = true ∨ name ∈ before) := by
  cases h with
  | blank hblank => exact .inr ⟨rfl, .inl hblank⟩
  | unknown hblank hnone => exact .inl ⟨rfl, hblank, hnone⟩
  | repeated _ hmem => exact .inr ⟨rfl, .inr hmem⟩

namespace TableSource

@[simp] theorem admits_nil : source.Admits policy [] :=
  ⟨by simp, by simp, fun _ => List.nodup_nil⟩

theorem Admits.of_append {after : List String} (h : source.Admits policy (before ++ after)) :
    source.Admits policy before :=
  ⟨fun n hn => h.not_blank n (List.mem_append_left _ hn),
    fun n hn => h.found n (List.mem_append_left _ hn),
    fun hreject => (List.nodup_append.mp (h.nodup hreject)).1⟩

/-- Under the rule against repeated names a list is admitted exactly if it is without the
rule and has none. -/
theorem admits_reject_iff :
    source.Admits .reject names ↔ source.Admits .lastWins names ∧ names.Nodup := by
  constructor
  · intro h
    exact ⟨⟨h.not_blank, h.found, by simp⟩, h.nodup rfl⟩
  · rintro ⟨h, hnodup⟩
    exact ⟨h.not_blank, h.found, fun _ => hnodup⟩

/-- An admitted list goes on being admitted, or else the next name is refused. -/
theorem Admits.concat_or (h : source.Admits policy before) (name : String) :
    source.Admits policy (before ++ [name]) ∨ ∃ e, Refusal source policy before name e := by
  by_cases hblank : isBlank name = true
  · exact .inr ⟨_, .blank hblank⟩
  rw [Bool.not_eq_true] at hblank
  cases hfind : source.find? name with
  | none => exact .inr ⟨_, .unknown hblank hfind⟩
  | some t =>
      by_cases hrepeated : policy = .reject ∧ name ∈ before
      · exact .inr ⟨_, .repeated hrepeated.1 hrepeated.2⟩
      · refine .inl ⟨?_, ?_, ?_⟩
        · simpa [or_imp, forall_and, hblank] using h.not_blank
        · simpa [or_imp, forall_and, hfind] using h.found
        · intro hreject
          have hfresh : name ∉ before := fun hmem => hrepeated ⟨hreject, hmem⟩
          rw [← List.concat_eq_append]
          exact (h.nodup hreject).concat hfresh

/-- A list that is not admitted has a first name that is refused. -/
theorem exists_refusal (h : ¬ source.Admits policy names) :
    ∃ before name after e, names = before ++ name :: after ∧
      source.Admits policy before ∧ Refusal source policy before name e := by
  induction names using List.reverseRecOn with
  | nil => exact absurd admits_nil h
  | append_singleton names last ih =>
      -- The last name is the first one refused only if all before it are admitted.
      by_cases hnames : source.Admits policy names
      · rcases hnames.concat_or last with hall | ⟨e, hrefusal⟩
        · exact absurd hall h
        · exact ⟨names, last, [], e, rfl, hnames, hrefusal⟩
      · obtain ⟨before, name, after, e, rfl, hbefore, hrefusal⟩ := ih hnames
        exact ⟨before, name, after ++ [last], e, by simp, hbefore, hrefusal⟩

end TableSource

namespace Relations

/-- An entry that is refused ends the list. -/
theorem resolveFrom_of_refusal {listed : List String} (hlisted : source.Admits policy listed)
    (h : Refusal source policy listed name e) (after : List String) :
    resolveFrom source policy listed (name :: after) = .error e := by
  cases h with
  | blank hblank => simp [resolveFrom, hblank]
  | unknown hblank hnone => simp [resolveFrom, hblank, hnone]
  | repeated hreject hmem =>
      have hblank := hlisted.not_blank name hmem
      obtain ⟨t, hfind⟩ := Option.isSome_iff_exists.mp (hlisted.found name hmem)
      simp [resolveFrom, hblank, hfind, hreject, hmem]

/-- A name that is admitted gives its entry. -/
theorem resolveFrom_cons {listed : List String} {t : Table}
    (hadmits : source.Admits policy (listed ++ [name])) (hfind : source.find? name = some t)
    (after : List String) :
    resolveFrom source policy listed (name :: after) =
      (resolveFrom source policy (listed ++ [name]) after).map ((name, t) :: ·) := by
  have hblank := hadmits.not_blank name (by simp)
  have hfresh : ¬ (policy = .reject ∧ name ∈ listed) := by
    rintro ⟨hreject, hmem⟩
    have hdisjoint := (List.nodup_append.mp (hadmits.nodup hreject)).2.2
    exact hdisjoint name hmem name (by simp) rfl
  simp only [resolveFrom, hblank, hfind, if_neg hfresh, Bool.false_eq_true, if_false]

/-- Names that are admitted give their entries, and the list goes on behind them. -/
theorem resolveFrom_append (listed : List String)
    (h : source.Admits policy (listed ++ before)) (after : List String) :
    resolveFrom source policy listed (before ++ after) =
      (resolveFrom source policy (listed ++ before) after).map
        (source.entriesOf before ++ ·) := by
  induction before generalizing listed with
  | nil =>
      rw [List.append_nil, List.nil_append]
      cases resolveFrom source policy listed after <;> rfl
  | cons name before ih =>
      -- What is listed grows by the name, and so does what is admitted.
      rw [List.append_cons] at h ⊢
      obtain ⟨t, hfind⟩ := Option.isSome_iff_exists.mp (h.found name (by simp))
      have hentries : source.entriesOf (name :: before) =
          (name, t) :: source.entriesOf before := by
        simp [TableSource.entriesOf, hfind]
      rw [List.cons_append, resolveFrom_cons h.of_append hfind, ih _ h, hentries]
      cases resolveFrom source policy (listed ++ [name] ++ before) after <;> rfl

theorem resolve_of_admits (h : source.Admits policy names) :
    resolve source policy names keys = .ok ⟨source.entriesOf names, keys⟩ := by
  have hfrom := resolveFrom_append [] h []
  rw [List.append_nil] at hfrom
  rw [resolve, hfrom]
  simp [resolveFrom, Except.map]

/-- The first name that is refused decides the error. -/
theorem resolve_of_refusal (hbefore : source.Admits policy before)
    (h : Refusal source policy before name e) (after : List String) :
    resolve source policy (before ++ name :: after) keys = .error e := by
  rw [resolve, resolveFrom_append [] hbefore, List.nil_append,
    resolveFrom_of_refusal hbefore h]
  rfl

/-- A FROM list resolves exactly if it is admitted, and then to its entries. -/
theorem resolve_eq_ok_iff {r : Relations} :
    resolve source policy names keys = .ok r ↔
      source.Admits policy names ∧ r = ⟨source.entriesOf names, keys⟩ := by
  constructor
  · intro h
    by_cases hadmits : source.Admits policy names
    · rw [resolve_of_admits hadmits] at h
      cases h
      exact ⟨hadmits, rfl⟩
    · obtain ⟨before, name, after, e, rfl, hbefore, hrefusal⟩ :=
        TableSource.exists_refusal hadmits
      rw [resolve_of_refusal hbefore hrefusal] at h
      cases h
  · rintro ⟨hadmits, rfl⟩
    exact resolve_of_admits hadmits

/-! ## The rule against repeated names -/

/-- A list without a repeated name resolves under one rule as under the other. -/
theorem resolve_of_nodup (h : names.Nodup) :
    resolve source .reject names keys = resolve source .lastWins names keys := by
  by_cases hadmits : source.Admits .lastWins names
  · have hreject := TableSource.admits_reject_iff.mpr ⟨hadmits, h⟩
    rw [resolve_of_admits hadmits, resolve_of_admits hreject]
  · obtain ⟨before, name, after, e, rfl, hbefore, hrefusal⟩ :=
      TableSource.exists_refusal hadmits
    have hnodup : before.Nodup := (List.nodup_append.mp h).1
    have hreject := TableSource.admits_reject_iff.mpr ⟨hbefore, hnodup⟩
    rw [resolve_of_refusal hbefore hrefusal]
    cases hrefusal with
    | blank hblank => exact resolve_of_refusal hreject (.blank hblank) after
    | unknown hblank hnone => exact resolve_of_refusal hreject (.unknown hblank hnone) after
    | repeated hnever => cases hnever

theorem resolve_reject_eq_ok_iff {r : Relations} :
    resolve source .reject names keys = .ok r ↔
      resolve source .lastWins names keys = .ok r ∧ names.Nodup := by
  rw [resolve_eq_ok_iff, resolve_eq_ok_iff, TableSource.admits_reject_iff, and_right_comm]

end Relations

end FromList

/-- A SELECT binds exactly if its relations, its projection and its conditions do. -/
theorem Binder.bindSelect_eq_ok_iff {b : Binder} {source : TableSource}
    (hsource : b.source? = some source) {s : Select} {keys : Enumeration}
    {bound : BoundSelect} :
    b.bindSelect s keys = .ok bound ↔
      ∃ r, Relations.resolve source b.settings.repeatedTables s.relations keys = .ok r ∧
      ∃ p, Projection.resolve r b.settings.projectionOrder s.attributes = .ok p ∧
      ∃ f, b.conditions (Scope.ofRelations source r) s.conditions = .ok f ∧
        ⟨r.tables, p.fields, f, p.isAggregate⟩ = bound := by
  rw [bindSelect_eq hsource]
  simp only [bind_eq_ok_iff, Except.ok.injEq]

/-- What binds against a source under a rule for repeated names. -/
def TableSource.binder (source : TableSource) (order : ProjectionOrder)
    (conditions : ConditionBinder) (policy : RepeatPolicy) : Binder :=
  ⟨some source, ⟨order, policy⟩, conditions⟩

/-- A list with a repeated name has a first entry that is refused, and it decides the
error of the whole SELECT. -/
theorem TableSource.binder_reject_error {source : TableSource} {order : ProjectionOrder}
    {conditions : ConditionBinder} {s : Select} (h : ¬ s.relations.Nodup)
    (keys : Enumeration) :
    ∃ before name after e, s.relations = before ++ name :: after ∧
      source.Admits .reject before ∧ Refusal source .reject before name e ∧
      (source.binder order conditions .reject).bindSelect s keys = .error e := by
  have hadmits : ¬ source.Admits .reject s.relations := by
    intro hall
    exact h (hall.nodup rfl)
  obtain ⟨before, name, after, e, hnames, hbefore, hrefusal⟩ :=
    TableSource.exists_refusal hadmits
  refine ⟨before, name, after, e, hnames, hbefore, hrefusal, ?_⟩
  rw [Binder.bindSelect_eq rfl, hnames]
  show Relations.resolve source .reject (before ++ name :: after) keys >>= _ = _
  rw [Relations.resolve_of_refusal hbefore hrefusal]
  rfl

/-- The same source without a repeated name, in one order of enumeration. -/
theorem TableSource.binder_reject_eq {source : TableSource} {order : ProjectionOrder}
    {conditions : ConditionBinder} {s : Select} (h : s.relations.Nodup)
    (keys : Enumeration) :
    (source.binder order conditions .reject).bindSelect s keys =
      (source.binder order conditions .lastWins).bindSelect s keys := by
  rw [Binder.bindSelect_eq rfl, Binder.bindSelect_eq rfl]
  show Relations.resolve source .reject s.relations keys >>= _ =
    Relations.resolve source .lastWins s.relations keys >>= _
  rw [Relations.resolve_of_nodup h]
  rfl

/-- **Rejecting repeated names only takes bindings away.** Whatever the tables, the
order and the conditions are, and in whatever orders the names are enumerated, a
SELECT binds where repeated names are rejected exactly if it binds to the same where
the last one wins and no name is repeated. Without a repeated name the outcome is the
same, errors included, but for the name that is suggested for a qualifier that is not
listed: this is the nearest one in the order of each binding, and the same if the
orders are. With a repeated name, the first entry that is blank, unknown or a
repetition decides the error; the error of an unknown name is of a kind of its own. -/
theorem Binder.bindSelect_reject (source : TableSource) (order : ProjectionOrder)
    (conditions : ConditionBinder) (s : Select) (keys keys' : Enumeration) :
    (∀ bound, (source.binder order conditions .reject).bindSelect s keys = .ok bound ↔
      (source.binder order conditions .lastWins).bindSelect s keys' = .ok bound ∧
        s.relations.Nodup) ∧
    (s.relations.Nodup →
      UpToSuggestion (keys.order s.relations) (keys'.order s.relations)
        ((source.binder order conditions .reject).bindSelect s keys)
        ((source.binder order conditions .lastWins).bindSelect s keys') ∧
      (keys.order s.relations = keys'.order s.relations →
        (source.binder order conditions .reject).bindSelect s keys =
          (source.binder order conditions .lastWins).bindSelect s keys')) ∧
    (¬ s.relations.Nodup → ∃ before name after e, s.relations = before ++ name :: after ∧
      source.Admits .reject before ∧ Refusal source .reject before name e ∧
      (e.kind = .tableNotFound ∧ isBlank name = false ∧ source.find? name = none ∨
        e.kind = .invalidArgument ∧ (isBlank name = true ∨ name ∈ before)) ∧
      (source.binder order conditions .reject).bindSelect s keys = .error e) := by
  have horders : UpToSuggestion (keys.order s.relations) (keys'.order s.relations)
      ((source.binder order conditions .lastWins).bindSelect s keys)
      ((source.binder order conditions .lastWins).bindSelect s keys') :=
    bindSelect_upToSuggestion _ s keys keys'
  refine ⟨?_, ?_, ?_⟩
  · intro bound
    rw [← horders.eq_ok_iff, bindSelect_eq_ok_iff rfl, bindSelect_eq_ok_iff rfl]
    constructor
    · rintro ⟨r, hresolve, hrest⟩
      obtain ⟨hlast, hnodup⟩ := Relations.resolve_reject_eq_ok_iff.mp hresolve
      exact ⟨⟨r, hlast, hrest⟩, hnodup⟩
    · rintro ⟨⟨r, hlast, hrest⟩, hnodup⟩
      exact ⟨r, Relations.resolve_reject_eq_ok_iff.mpr ⟨hlast, hnodup⟩, hrest⟩
  · intro hnodup
    rw [TableSource.binder_reject_eq hnodup]
    refine ⟨horders, fun hsame => ?_⟩
    rw [hsame] at horders
    exact horders.eq_of_eq
  · intro hrepeated
    obtain ⟨before, name, after, e, hnames, hbefore, hrefusal, herror⟩ :=
      TableSource.binder_reject_error hrepeated keys
    exact ⟨before, name, after, e, hnames, hbefore, hrefusal, hrefusal.kind_eq, herror⟩

/-- The names against the order in which they are listed. -/
def Enumeration.backwards : Enumeration where
  order := fun names => (listed.order names).reverse
  nodup := fun names => List.nodup_reverse.mpr (listed.nodup names)
  mem_order := fun names name => by rw [List.mem_reverse, listed.mem_order]

/-- `SELECT b.x FROM a`, whose one name has one order only, and `SELECT * FROM a, b, a`,
where no table is called `b`: the unknown name comes before the repeated one. -/
theorem Binder.bindSelect_reject_unknown :
    ∃ source : TableSource, ["a"].Nodup ∧ ¬ ["a", "b", "a"].Nodup ∧
      Enumeration.listed.order ["a"] = Enumeration.backwards.order ["a"] ∧
      (source.binder .visitation Scope.bindConditions .reject).bindSelect
          ⟨["a"], [⟨some "b", "x", .plain⟩], []⟩ .listed =
        (source.binder .visitation Scope.bindConditions .lastWins).bindSelect
          ⟨["a"], [⟨some "b", "x", .plain⟩], []⟩ .backwards ∧
      (source.binder .visitation Scope.bindConditions .reject).bindSelect
        ⟨["a", "b", "a"], [⟨none, "*", .plain⟩], []⟩ .listed =
          .error (.tableMissing "b" "main") ∧
      ∃ before name after e, ["a", "b", "a"] = before ++ name :: after ∧
        source.Admits .reject before ∧ Refusal source .reject before name e ∧
        (e.kind = .tableNotFound ∧ isBlank name = false ∧ source.find? name = none ∨
          e.kind = .invalidArgument ∧ (isBlank name = true ∨ name ∈ before)) ∧
        (source.binder .visitation Scope.bindConditions .reject).bindSelect
          ⟨["a", "b", "a"], [⟨none, "*", .plain⟩], []⟩ .listed = .error e := by
  let t : Table := ⟨⟨"a", [⟨"x", .integer, true⟩]⟩,
    ⟨by decide, by decide, by decide, by decide⟩⟩
  let source : TableSource := ⟨"main", fun name => [t].find? (·.name == name)⟩
  have hnodup : ["a"].Nodup := by decide
  have hrepeated : ¬ ["a", "b", "a"].Nodup := by decide
  have hone : Enumeration.listed.order ["a"] = Enumeration.backwards.order ["a"] := rfl
  have hsame := (bindSelect_reject source .visitation Scope.bindConditions
    ⟨["a"], [⟨some "b", "x", .plain⟩], []⟩ .listed .backwards).2.1 hnodup
  have hfirst := (bindSelect_reject source .visitation Scope.bindConditions
    ⟨["a", "b", "a"], [⟨none, "*", .plain⟩], []⟩ .listed .listed).2.2 hrepeated
  exact ⟨source, hnodup, hrepeated, hone, hsame.2 hone, rfl, hfirst⟩

/-- **The order of enumeration shows in the error.** `SELECT ab.x FROM "Ab", "AB"`, with
no repeated name: both names are equally near to the qualifier, and the rules suggest
different ones if their bindings enumerate the names in different orders. -/
theorem Binder.bindSelect_reject_suggestion :
    let t : Table := ⟨⟨"Ab", [⟨"x", .integer, true⟩]⟩,
      ⟨by decide, by decide, by decide, by decide⟩⟩
    let u : Table := ⟨⟨"AB", [⟨"x", .integer, true⟩]⟩,
      ⟨by decide, by decide, by decide, by decide⟩⟩
    let source : TableSource := ⟨"main", fun name => [t, u].find? (·.name == name)⟩
    let s : Select := ⟨["Ab", "AB"], [⟨some "ab", "x", .plain⟩], []⟩
    let rejecting := source.binder .visitation Scope.bindConditions .reject
    let lastWins := source.binder .visitation Scope.bindConditions .lastWins
    s.relations.Nodup ∧
      rejecting.bindSelect s .listed ≠ lastWins.bindSelect s .backwards ∧
      ∃ e e', rejecting.bindSelect s .listed = .error e ∧
        lastWins.bindSelect s .backwards = .error e' ∧
        e.message =
          "Field missing: table 'ab' is not in the FROM list (did you mean 'Ab'?)" ∧
        e'.message =
          "Field missing: table 'ab' is not in the FROM list (did you mean 'AB'?)" := by
  intro t u source s rejecting lastWins
  have hlisted : nearest? "ab" (Enumeration.listed.order ["Ab", "AB"]) = some "Ab" := by
    decide +kernel
  have hbackwards : nearest? "ab" (Enumeration.backwards.order ["Ab", "AB"]) =
      some "AB" := by
    decide +kernel
  have hrejecting : rejecting.bindSelect s .listed =
      .error (.relationNotListed "ab" (some "Ab")) := by
    rw [← hlisted]
    rfl
  have hlastWins : lastWins.bindSelect s .backwards =
      .error (.relationNotListed "ab" (some "AB")) := by
    rw [← hbackwards]
    rfl
  refine ⟨by decide, ?_, _, _, hrejecting, hlastWins, by decide, by decide⟩
  rw [hrejecting, hlastWins]
  simp

end QueryBind
