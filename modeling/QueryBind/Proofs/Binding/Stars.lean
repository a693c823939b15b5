import QueryBind.Proofs.Binding.Calls
import QueryBind.Proofs.Binding.Relations
import QueryBind.Proofs.Schema.Changes
import QueryBind.Proofs.Sql.WrittenOut
import QueryBind.Session

/-!
# Names and stars

What an attribute of a SELECT stands for once it is bound: the one field that it
names, or all fields of a table or of all tables, if it is called like the
wildcard. An attribute that is read from a text gets this name from a star, or
from the same character between double quotes, and once it is read the two are
not told apart. A text without a star and without that quoted name therefore binds
to one field for each attribute, and one without a star can only differ from this
where the quoted name stands.
-/

namespace QueryBind

open Sql Text

/-! ## What is read from a text without a star -/

namespace Sql

/-- No keyword is spelled like the wildcard, though some stand for names. -/
theorem Divides.text_ne_wildcard {cs : List Char} {ls : List Lexeme}
    (h : Divides cs ls) {t : Token} {k : Keyword} (ht : t ∈ tokensOf ls)
    (hk : t.kind = .keyword k) : t.text ≠ wildcard := by
  obtain ⟨l, hl, rfl⟩ := List.mem_map.mp ht
  have hformed := h.isFormed l hl
  cases l with
  | word letters =>
      intro htext
      have hletters : letters = ['*'] := by
        have hlist := congrArg String.toList htext
        simpa [Lexeme.token, Lexeme.tokenText, wildcard] using hlist
      rw [hletters] at hformed
      rcases hformed with ⟨hstart, -⟩
      cases hstart
  | numeral digits => cases hk
  | string content => cases hk
  | name content => cases hk
  | mark m spelling => cases hk

/-- A name or a star is called like the wildcard by one of its tokens. -/
theorem PartOf.mem_of_wildcard {cs : List Char} {ls : List Lexeme} {ts : List Token}
    {name : String} (h : PartOf ts name) (hdivides : Divides cs ls)
    (hts : ts ⊆ tokensOf ls) (hname : name = wildcard) :
    .mark .star ∈ ls.map Lexeme.kind ∨ .identifier wildcard ∈ ls.map Lexeme.kind := by
  have hmem : ∀ {t : Token}, [t] ⊆ tokensOf ls → t.kind ∈ ls.map Lexeme.kind := by
    intro t ht
    rw [← map_kind_tokensOf]
    exact List.mem_map_of_mem (ht (List.mem_singleton.mpr rfl))
  rcases h with hstar | ⟨hk⟩ | ⟨hk, -⟩
  · exact .inl (hstar ▸ hmem hts)
  · right
    rw [← hname, ← hk]
    exact hmem hts
  · exact absurd hname (hdivides.text_ne_wildcard (hts (List.mem_singleton.mpr rfl)) hk)

theorem ReferenceOf.exists_part {ts : List Token} {relation : Option String}
    {name : String} (h : ReferenceOf ts (relation, name)) : ∃ us ⊆ ts, PartOf us name := by
  cases h with
  | alone hpart => exact ⟨ts, List.Subset.refl _, hpart⟩
  | qualified _ _ hpart =>
      exact ⟨_, fun t ht => List.mem_append_right _ (List.mem_cons_of_mem _ ht), hpart⟩

/-- An entry with an aggregation is a column, or a call of one: in either case its
attribute has the name that a reference gives it. -/
theorem ItemOf.exists_reference {ts : List Token} {item : Item} (h : ItemOf ts item)
    (haggregation : ∃ aggregation, item.toAttribute.aggregation = .ok aggregation) :
    ∃ us ⊆ ts, ∃ relation, ReferenceOf us (relation, item.toAttribute.name) := by
  rcases item.judged_toAttribute.accepted_iff.mp haggregation with
    ⟨relation, name, rfl⟩ | ⟨f, relation, name, rfl⟩
  · cases h with
    | column href => exact ⟨ts, List.Subset.refl _, relation, href⟩
  · cases h with
    | call _ hinside _ =>
        obtain ⟨us, hus, hitem⟩ := hinside.exists_of_mem (List.mem_singleton.mpr rfl)
        cases hitem with
        | column href =>
            refine ⟨us, fun t ht => ?_, relation, href⟩
            exact List.mem_append_right _ (List.mem_append_left _ (hus ht))

theorem mem_kinds_of_wildcard {text : String} {select : Select} {kinds : List TokenKind}
    {a : Attribute} (hkinds : kindsOf text = .ok kinds)
    (h : Statement.ofText text = .ok (.select select)) (ha : a ∈ select.attributes)
    (haggregation : ∃ aggregation, a.aggregation = .ok aggregation)
    (hname : a.name = wildcard) :
    .mark .star ∈ kinds ∨ .identifier wildcard ∈ kinds := by
  obtain ⟨ls, body, rest, hdivides, hsplit, hbody, -⟩ := ofText_eq_ok_iff.mp h
  obtain rfl : kinds = ls.map Lexeme.kind ++ [.finish] := by
    have hsame := (kindsOf_eq_ok_iff.mpr ⟨ls, hdivides, rfl⟩).symm.trans hkinds
    cases hsame
    rfl
  obtain ⟨⟨-, hentries, -, -, -⟩⟩ := hbody
  obtain ⟨us, hus, hentry⟩ := hentries.exists_of_mem ha
  obtain ⟨item, hof, rfl⟩ := entryOf_iff.mp hentry
  obtain ⟨vs, hvs, relation, href⟩ := hof.exists_reference haggregation
  obtain ⟨ws, hws, hpart⟩ := href.exists_part
  have hsub : ws ⊆ tokensOf ls := by
    intro t ht
    have hin := hus (hvs (hws ht))
    rw [hsplit]
    simp [hin]
  rcases hpart.mem_of_wildcard hdivides hsub hname with hstar | hquoted
  · exact .inl (List.mem_append_left _ hstar)
  · exact .inr (List.mem_append_left _ hquoted)

end Sql

/-! ## What an attribute stands for -/

/-- A field is the one that an attribute names: it has this name, and its table is
the one that goes by the qualifier, or the only one if there is none. -/
structure Sql.Attribute.Names (a : Attribute) (tables : List Table) (f : BoundField) :
    Prop where
  field_name : f.ref.field.name = a.name
  table_mem : f.ref.table ∈ tables
  qualified : ∀ relation ∈ a.qualifier?, f.ref.table.name = relation
  unqualified : a.qualifier? = none → tables = [f.ref.table]
  aggregation : a.aggregation = .ok f.aggregation

/-- What an attribute stands for among the tables of a FROM list: the field that it
names, or, if it is called like the wildcard, what a star stands for. -/
inductive StandsFor (tables : List Table) (a : Attribute) : List BoundField → Prop where
  | field {f} : a.name ≠ wildcard → a.Names tables f → StandsFor tables a [f]
  | allTables {aggregation} : a.name = wildcard → a.qualifier?.all isWildcard = true →
      a.aggregation = .ok aggregation →
      StandsFor tables a (tables.flatMap (·.expand aggregation))
  | oneTable {t aggregation} : a.name = wildcard → t ∈ tables →
      a.qualifier? = some t.name → t.name ≠ wildcard → a.aggregation = .ok aggregation →
      StandsFor tables a (t.expand aggregation)

/-- The table of an attribute goes by its qualifier, or is the only one. -/
theorem Relations.tableOf_resolved {c : Catalog} {policy : RepeatPolicy}
    {names : List String} {keys : Enumeration} {r : Relations} {a : Attribute} {t : Table}
    (hresolve : Relations.resolve c.source policy names keys = .ok r)
    (h : r.tableOf a = .ok t) :
    (∀ relation ∈ a.qualifier?, t.name = relation) ∧
      (a.qualifier? = none → r.tables = [t]) := by
  unfold tableOf at h
  split at h
  · next hnone =>
      rw [hnone]
      refine ⟨by simp, fun _ => ?_⟩
      split at h
      · cases h
      · next hdefault =>
          cases h
          obtain ⟨name, hentries⟩ := default?_eq_some_iff.mp hdefault
          rw [tables, hentries]
          rfl
  · next relation hsome =>
      rw [hsome]
      refine ⟨?_, by simp⟩
      split at h
      · cases h
      · next hfind =>
          cases h
          rintro _ ⟨⟩
          have hlisted : relation ∈ names := by
            rw [← names_of_resolve hresolve]
            by_contra hnot
            rw [find?_eq_none_iff.mpr hnot] at hfind
            cases hfind
          rw [find?_of_resolve hresolve hlisted] at hfind
          exact (Catalog.find?_eq_some_iff.mp hfind).2

theorem Denotes.standsFor {c : Catalog} {policy : RepeatPolicy} {names : List String}
    {keys : Enumeration} {r : Relations} {a : Attribute} {aggregation : Aggregation}
    {group : List BoundField} (h : Denotes r a aggregation group)
    (hresolve : Relations.resolve c.source policy names keys = .ok r)
    (haggregation : a.aggregation = .ok aggregation) : StandsFor r.tables a group := by
  rcases h with ⟨hname, hqualifier, -⟩ | ⟨hname, hqualifier, ht, -⟩ | ⟨hname, -, ht, hr⟩
  · exact .allTables (by simpa [isWildcard] using hname) hqualifier haggregation
  · obtain ⟨hqualified, -⟩ := Relations.tableOf_resolved hresolve ht
    cases hrelation : a.qualifier? with
    | none =>
        rw [hrelation] at hqualifier
        cases hqualifier
    | some relation =>
        obtain rfl := hqualified relation hrelation
        rw [hrelation, Option.all_some] at hqualifier
        exact .oneTable (by simpa [isWildcard] using hname)
          (Relations.mem_tables_of_tableOf ht) hrelation
          (by simpa [isWildcard] using hqualifier) haggregation
  · obtain ⟨hqualified, hunqualified⟩ := Relations.tableOf_resolved hresolve ht
    obtain ⟨htable, -⟩ := Table.ref?_eq_some_iff.mp hr
    refine .field (by simpa [isWildcard] using hname) ?_
    subst htable
    exact {
      field_name := Table.field_name_of_ref? hr
      table_mem := Relations.mem_tables_of_tableOf ht
      qualified := hqualified
      unqualified := hunqualified
      aggregation := haggregation }

/-! ## What a list of attributes stands for -/

theorem ProjectionOrder.flatten_arrange {α β : Type} (order : ProjectionOrder)
    (f : α → List β) (xs : List α) :
    (order.arrange (xs.map f)).flatten = (order.arrange xs).flatMap f := by
  cases order <;> simp [arrange, List.flatMap_def]

theorem exists_groups_of_bindSelect {s : Session} {select : Select} {keys : Enumeration}
    {b : BoundSelect} (h : s.binder.bindSelect select keys = .ok b) :
    ∃ groups, List.Forall₂ (StandsFor b.tables) select.attributes groups ∧
      b.fields = (s.settings.projectionOrder.arrange groups).flatten := by
  obtain ⟨r, hresolve, p, hprojection, f, -, rfl⟩ := (Binder.bindSelect_eq_ok_iff rfl).mp h
  obtain ⟨results, hresults, -, -, hfields⟩ := Projection.resolve_eq_ok_iff.mp hprojection
  refine ⟨results.map (·.2), ?_, ?_⟩
  · rw [← List.zipIdx_map_fst 0 select.attributes, List.forall₂_map_left_iff,
      List.forall₂_map_right_iff]
    apply hresults.imp
    rintro entry ⟨aggregation, group⟩ halone
    obtain ⟨haggregation, hgroup⟩ := Relations.alone_eq_ok_iff.mp halone
    exact (resolveAttribute_eq_ok_iff.mp hgroup).2.standsFor hresolve haggregation
  · rw [ProjectionOrder.flatten_arrange]
    show p.fields = (s.binder.settings.projectionOrder.arrange results).flatMap (·.2)
    rw [hfields]
    cases s.binder.settings.projectionOrder <;> rfl

/-- Attributes that are not called like the wildcard stand for one field each. -/
theorem exists_fields_of_standsFor {tables : List Table} {as : List Attribute}
    {groups : List (List BoundField)} (h : List.Forall₂ (StandsFor tables) as groups)
    (hnames : ∀ a ∈ as, a.name ≠ wildcard) :
    ∃ fields, groups = fields.map ([·]) ∧
      List.Forall₂ (fun a f => a.Names tables f) as fields := by
  induction h with
  | nil => exact ⟨[], rfl, .nil⟩
  | cons hgroup _ ih =>
      obtain ⟨hname, hnames⟩ := List.forall_mem_cons.mp hnames
      obtain ⟨fields, rfl, hfields⟩ := ih hnames
      cases hgroup with
      | @field f _ hf => exact ⟨f :: fields, rfl, .cons hf hfields⟩
      | allTables hwildcard _ _ => exact absurd hwildcard hname
      | oneTable hwildcard _ _ _ _ => exact absurd hwildcard hname

theorem StandsFor.exists_aggregation {tables : List Table} {a : Attribute}
    {group : List BoundField} (h : StandsFor tables a group) :
    ∃ aggregation, a.aggregation = .ok aggregation := by
  cases h with
  | field _ hf => exact ⟨_, hf.aggregation⟩
  | allTables _ _ haggregation => exact ⟨_, haggregation⟩
  | oneTable _ _ _ _ haggregation => exact ⟨_, haggregation⟩

namespace Session

/-- **Without a star a name is a name.** Take a text that has no star among its
tokens and binds, in any session. What its attributes stand for makes up the fields,
in the order of the settings, and an attribute can be called like the wildcard only
if an identifier of the text is. If none is, the statement has one field for each
attribute, the one that the attribute names. -/
theorem bind_without_star {s : Session} {text : String} {kinds : List TokenKind}
    {keys : Enumeration} {b : BoundSelect} (hkinds : kindsOf text = .ok kinds)
    (hstar : .mark .star ∉ kinds) (h : s.bind text keys = .ok b) :
    ∃ select groups, Statement.ofText text = .ok (.select select) ∧
      List.Forall₂ (StandsFor b.tables) select.attributes groups ∧
      b.fields = (s.settings.projectionOrder.arrange groups).flatten ∧
      (∀ a ∈ select.attributes, a.name = wildcard → .identifier wildcard ∈ kinds) ∧
      (.identifier wildcard ∉ kinds → ∃ fields,
        List.Forall₂ (fun a f => a.Names b.tables f) select.attributes fields ∧
        b.fields = s.settings.projectionOrder.arrange fields) := by
  unfold bind at h
  split at h
  · cases h
  · next select hread =>
      obtain ⟨groups, hgroups, hfields⟩ := exists_groups_of_bindSelect h
      have hquoted : ∀ a ∈ select.attributes, a.name = wildcard →
          .identifier wildcard ∈ kinds := by
        intro a ha hname
        obtain ⟨group, -, hgroup⟩ := exists_of_forall₂_right hgroups.flip ha
        exact (mem_kinds_of_wildcard hkinds hread ha hgroup.exists_aggregation
          hname).resolve_left hstar
      refine ⟨select, groups, hread, hgroups, hfields, hquoted, fun hnone => ?_⟩
      obtain ⟨fields, rfl, hnamed⟩ := exists_fields_of_standsFor hgroups
        fun a ha hname => hnone (hquoted a ha hname)
      refine ⟨fields, hnamed, ?_⟩
      rw [hfields, ProjectionOrder.flatten_arrange]
      simp
  · cases h

/-- Quoted names that hold a star, or a word with a meaning of its own. -/
theorem bind_without_star_quoted :
    let text := "SELECT SUM(\"c*\"), COUNT(\"a.*\".\"FROM\") FROM \"a.*\""
    ∃ (c : Catalog) (b : BoundSelect) (select : Select) (kinds : List TokenKind)
        (fields : List BoundField),
      Catalog.ofDefinition ⟨"main", [⟨"a.*", [⟨"c*", .integer, true⟩,
        ⟨"FROM", .varchar, true⟩]⟩]⟩ = .ok c ∧
      kindsOf text = .ok kinds ∧ .mark .star ∉ kinds ∧
      bind { catalog := c } text = .ok b ∧ Statement.ofText text = .ok (.select select) ∧
      List.Forall₂ (fun a f => a.Names b.tables f) select.attributes fields ∧
      b.fields = fields.reverse ∧
      b.fields.map (·.text) = ["COUNT(a.*.FROM)", "SUM(a.*.c*)"] := by
  intro text
  let t : Table := ⟨⟨"a.*", [⟨"c*", .integer, true⟩, ⟨"FROM", .varchar, true⟩]⟩,
    ⟨by decide, by decide, by decide, by decide⟩⟩
  let c : Catalog := ⟨"main", [t], 2, List.pairwise_singleton _ _⟩
  let b : BoundSelect := ⟨[t], [⟨⟨t, 2, by decide⟩, .function .count⟩,
    ⟨⟨t, 1, by decide⟩, .function .sum⟩], ⟨[]⟩, true⟩
  let kinds : List TokenKind := [.keyword .SELECT, .keyword .SUM, .mark .leftParen,
    .identifier "c*", .mark .rightParen, .mark .comma, .keyword .COUNT, .mark .leftParen,
    .identifier "a.*", .mark .dot, .identifier "FROM", .mark .rightParen, .keyword .FROM,
    .identifier "a.*", .finish]
  have hc : Catalog.ofDefinition ⟨"main", [t.definition]⟩ = .ok c := by cbv
  have hkinds : kindsOf text = .ok kinds := by cbv
  have hb : bind { catalog := c } text = .ok b := by cbv
  have hstar : .mark .star ∉ kinds := by decide
  obtain ⟨select, groups, hselect, -, -, -, hnamed⟩ := bind_without_star hkinds hstar hb
  obtain ⟨fields, hfields, harranged⟩ := hnamed (by decide)
  have htexts : b.fields.map (·.text) = ["COUNT(a.*.FROM)", "SUM(a.*.c*)"] := by cbv
  exact ⟨c, b, select, kinds, fields, hc, hkinds, hstar, hb, hselect, hfields, harranged,
    htexts⟩

/-- **A quoted name called like the wildcard stands for all columns.** No star is
among the tokens, and the table has a column of this very name. -/
theorem bind_quoted_wildcard :
    ∃ (c : Catalog) (b : BoundSelect),
      execute { catalog := .empty } "CREATE TABLE t (\"*\" INT, b TEXT)" =
        .ok (.created "t", { catalog := c }) ∧
      kindsOf "SELECT \"*\" FROM t" =
        .ok [.keyword .SELECT, .identifier "*", .keyword .FROM, .identifier "t", .finish] ∧
      bind { catalog := c } "SELECT \"*\" FROM t" = .ok b ∧
      b.fields.map (·.text) = ["t.*", "t.b"] := by
  let t : Table := ⟨⟨"t", [⟨"*", .integer, true⟩, ⟨"b", .varchar, true⟩]⟩,
    ⟨by decide, by decide, by decide, by decide⟩⟩
  let c : Catalog := ⟨"main", [t], 2, List.pairwise_singleton _ _⟩
  let b : BoundSelect := ⟨[t], [⟨⟨t, 1, by decide⟩, .none⟩, ⟨⟨t, 2, by decide⟩, .none⟩],
    ⟨[]⟩, false⟩
  refine ⟨c, b, ?_, ?_, ?_, ?_⟩
  · cbv
  · cbv
  · cbv
  · cbv

end Session

end QueryBind
