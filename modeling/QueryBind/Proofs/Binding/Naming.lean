import QueryBind.Proofs.Binding.Locality
import QueryBind.Proofs.Binding.Projection
import QueryBind.Proofs.Schema.Changes
import QueryBind.Proofs.Sql.Writing

/-!
# Every column can be named

A name between double quotes, with the quotes in it doubled, is a name whatever
characters it holds: it is scanned as one lexeme, is never a keyword and never
ends early. So each field of each table has a SELECT that projects it and
nothing else, unless the table or the field is called like the wildcard. What
makes a name of a catalog is what the binder asks of a name: that it is not
blank.
-/

namespace QueryBind

open Sql Text

/-! ## Quoted names in a SELECT -/

/-- A name between double quotes, its own double quotes doubled. -/
def quotedName (name : String) : String :=
  String.ofList (writeQuoted '"' name.toList)

@[simp] theorem quotedName_toList (name : String) :
    (quotedName name).toList = writeQuoted '"' name.toList :=
  String.toList_ofList

namespace Sql

/-- The word for an aggregate function. -/
theorem exists_aggregateWord (f : AggregateFunction) :
    ∃ k : Keyword, k.spelling = f.text ∧ AggregateWord k f := by
  cases f with
  | count => exact ⟨.COUNT, rfl, .count⟩
  | sum => exact ⟨.SUM, rfl, .sum⟩
  | avg => exact ⟨.AVG, rfl, .avg⟩
  | min => exact ⟨.MIN, rfl, .min⟩
  | max => exact ⟨.MAX, rfl, .max⟩

theorem nameOf_quoted (name : String) :
    NameOf (tokensOf [.name name.toList]) name := by
  refine .identifier ?_
  show TokenKind.identifier (String.ofList name.toList) = .identifier name
  rw [String.ofList_toList]

theorem writes_quoted (name : String) :
    Writes NameOf (quotedName name).toList name := by
  rw [quotedName_toList]
  exact ⟨_, .name name.toList, nameOf_quoted name⟩

/-- A column by its quoted name. -/
theorem writes_column (name : String) :
    Writes ItemOf (quotedName name).toList (.column none name) := by
  obtain ⟨ls, hyields, hname⟩ := writes_quoted name
  exact ⟨ls, hyields, .column (.alone (.name hname))⟩

/-- A column by its quoted name behind the quoted name of its table. -/
theorem writes_qualified (relation name : String) :
    Writes ItemOf (quotedName relation ++ "." ++ quotedName name).toList
      (.column (some relation) name) := by
  obtain ⟨ls, hyields, hname⟩ := writes_quoted name
  refine ⟨_, by simpa using hyields.qualified relation.toList, .column ?_⟩
  have hof := ReferenceOf.qualified (.name (nameOf_quoted relation))
    (kind_mark .dot ['.']) (.name hname)
  simpa using hof

/-- The call of a function on an entry. -/
theorem writes_call {entry : String} {item : Item} (f : AggregateFunction)
    (hentry : Writes ItemOf entry.toList item) :
    Writes ItemOf (f.text ++ "(" ++ entry ++ ")").toList (.call f [item]) := by
  obtain ⟨ls, hyields, hitem⟩ := hentry
  obtain ⟨k, hspelling, hk⟩ := exists_aggregateWord f
  have hclose : Yields (entry.toList ++ [')']) (ls ++ [.mark .rightParen [')']]) :=
    hyields.append (by decide) (.mark rfl (by decide) .nil)
  have hcall := (Yields.keyword k).append (by decide)
    (Yields.mark (c := '(') rfl (by decide) hclose)
  refine ⟨_, by simpa [← hspelling] using hcall, ?_⟩
  have hhead : HeadOf [(Lexeme.word k.spelling.toList).token Position.start,
      (Lexeme.mark .leftParen ['(']).token Position.start] f :=
    .of (kind_spelling k) hk (kind_mark _ _)
  have hof := ItemOf.call hhead (.single hitem) (kind_mark .rightParen [')'])
  simpa using hof

/-- A SELECT of one entry from one relation, which is quoted. -/
theorem ofText_selectFrom {entry : String} {item : Item} (relation : String)
    (hentry : Writes ItemOf entry.toList item) :
    Statement.ofText ("SELECT " ++ entry ++ " FROM " ++ quotedName relation) =
      .ok (.select ⟨[relation], [item.toAttribute], []⟩) := by
  obtain ⟨ls, hyields, hitem⟩ := hentry
  obtain ⟨ls', hyields', hname⟩ := writes_quoted relation
  have hfrom : Yields (' ' :: (Keyword.FROM.spelling.toList ++
      ' ' :: (quotedName relation).toList))
      ([.word Keyword.FROM.spelling.toList] ++ ls') :=
    .blank (by decide) ((Yields.keyword .FROM).append (by decide)
      (.blank (by decide) hyields'))
  have hselect := (Yields.keyword .SELECT).append (by decide)
    (Yields.blank (c := ' ') (by decide) (hyields.append (by decide) hfrom))
  have htext : ("SELECT " ++ entry ++ " FROM " ++ quotedName relation).toList =
      Keyword.SELECT.spelling.toList ++ (' ' :: (entry.toList ++
        (' ' :: (Keyword.FROM.spelling.toList ++
          ' ' :: (quotedName relation).toList)))) := by
    simp [Keyword.spelling]
  have hdivides := hselect.divides
  rw [← htext] at hdivides
  refine ofText_eq_ok_iff.mpr ⟨_, _, [], hdivides, (List.append_nil _).symm,
    .select ?_, by simp [Semicolons]⟩
  have hof := SelectOf.of (kind_spelling .SELECT)
    (.single (entryOf_iff.mpr ⟨item, hitem, rfl⟩))
    (kind_spelling .FROM) (.single hname) .none
  simpa using hof

end Sql

/-! ## Binding one attribute of one table -/

theorem Relations.resolve_single {source : TableSource} {t : Table}
    (policy : RepeatPolicy) (keys : Enumeration) (h : source.find? t.name = some t) :
    resolve source policy [t.name] keys = .ok ⟨[(t.name, t)], keys⟩ := by
  have hblank : isBlank t.name = false := t.valid.name_not_blank
  simp [resolve, resolveFrom, hblank, h, Except.map]

theorem Projection.resolve_single {relations : Relations} {a : Attribute}
    {aggregation : Aggregation} {group : List BoundField}
    (order : ProjectionOrder) (haggregation : a.aggregation = .ok aggregation)
    (hgroup : resolveAttribute relations 0 a aggregation = .ok group) :
    resolve relations order [a] = .ok ⟨group, aggregation.isAggregate⟩ := by
  have hvisit : visit relations none [a].zipIdx.reverse = .ok [group] := by
    show visit relations none [(a, 0)] = .ok [group]
    rw [visit, haggregation, ok_bind, Option.any_none, if_neg (by decide)]
    rw [hgroup]
    rfl
  rw [isAggregate_of_aggregation haggregation, resolve, hvisit]
  cases order <;> simp [aggregates]

/-- A column of the only table of a FROM list, with or without the name of the
table in front. -/
theorem bindSelect_column {c : Catalog} {t : Table} {r : FieldRef}
    {a : Attribute} {aggregation : Aggregation} (settings : Settings)
    (ht : t ∈ c.tables) (hwildcard : isWildcard t.name = false)
    (hrelation : a.relation = none ∨ a.relation = some t.name)
    (hblank : isBlank a.name = false) (hname : isWildcard a.name = false)
    (haggregation : a.aggregation = .ok aggregation)
    (hr : t.ref? a.name = some r) (keys : Enumeration) :
    ({ source? := some c.source, settings } : Binder).bindSelect
        ⟨[t.name], [a], []⟩ keys =
      .ok ⟨[t], [⟨r, aggregation⟩], ⟨[]⟩, aggregation.isAggregate⟩ := by
  have hfind : c.source.find? t.name = some t :=
    Catalog.find?_eq_some_iff.mpr ⟨ht, rfl⟩
  let relations : Relations := ⟨[(t.name, t)], keys⟩
  have hqualifier : a.qualifier? = a.relation := by
    have hnot : isBlank t.name = false := t.valid.name_not_blank
    rcases hrelation with h | h <;> simp [Attribute.qualifier?, h, hnot]
  have htable : relations.tableOf a = .ok t := by
    rcases hrelation with h | h <;>
      simp [relations, Relations.tableOf, hqualifier, h, Relations.default?,
        Relations.find?, lastNamed?]
  have hdenotes : Denotes relations a aggregation [⟨r, aggregation⟩] := by
    refine .column hname ?_ htable hr
    rw [hqualifier]
    rcases hrelation with h | h <;> simp [h, hwildcard]
  have hprojection := Projection.resolve_single settings.projectionOrder
    haggregation (hdenotes.resolveAttribute_eq hblank 0)
  show (do
    let relations ← Relations.resolve c.source settings.repeatedTables [t.name] keys
    let projection ← Projection.resolve relations settings.projectionOrder [a]
    let filter ← Scope.bindConditions (Scope.ofRelations c.source relations) []
    return (⟨relations.tables, projection.fields, filter,
      projection.isAggregate⟩ : BoundSelect)) = _
  rw [Relations.resolve_single _ _ hfind, ok_bind, hprojection]
  rfl

/-! ## The fields of a table -/

theorem Table.exists_ref? {t : Table} {f : Field} (h : f ∈ t.fields) :
    ∃ r : FieldRef, r.table = t ∧ r.index = f.index ∧ r.field = f ∧
      t.ref? f.name = some r := by
  have hat : t.fieldAt? f.index = some f := fieldAt?_index_of_mem h
  obtain ⟨hlt, hget⟩ := List.getElem?_eq_some_iff.mp hat
  refine ⟨⟨t, f.index, hlt⟩, rfl, rfl, hget, ref?_eq_some_iff.mpr ⟨rfl, ?_⟩⟩
  exact fieldIndex?_eq_some_iff.mpr ⟨f, hat, rfl⟩

namespace Session

/-- **Every column can be named.** Take any field of any table of a catalog, the
hidden one too, neither of them called like the wildcard. Whatever the settings,
its quoted name after the quoted name of the table, and its quoted name alone,
bind to that one field; and so does each function applied to it. -/
theorem bind_quoted_column {c : Catalog} {t : Table} {f : Field}
    (ht : t ∈ c.tables) (hf : f ∈ t.fields) (htable : t.name ≠ wildcard)
    (hfield : f.name ≠ wildcard) (settings : Settings) (keys : Enumeration) :
    let s : Session := { catalog := c, settings }
    let qualified := quotedName t.name ++ "." ++ quotedName f.name
    ∃ r : FieldRef, r.table = t ∧ r.index = f.index ∧ r.field = f ∧
      s.bind ("SELECT " ++ qualified ++ " FROM " ++ quotedName t.name) keys =
        .ok ⟨[t], [⟨r, .none⟩], ⟨[]⟩, false⟩ ∧
      s.bind ("SELECT " ++ quotedName f.name ++ " FROM " ++ quotedName t.name) keys =
        .ok ⟨[t], [⟨r, .none⟩], ⟨[]⟩, false⟩ ∧
      ∀ g : AggregateFunction,
        s.bind ("SELECT " ++ (g.text ++ "(" ++ qualified ++ ")") ++ " FROM " ++
            quotedName t.name) keys =
          .ok ⟨[t], [⟨r, .function g⟩], ⟨[]⟩, true⟩ := by
  intro s qualified
  obtain ⟨r, hrt, hri, hrf, hr⟩ := Table.exists_ref? hf
  have hblank : isBlank f.name = false := Table.field_name_not_blank hf
  have htable' : isWildcard t.name = false := by simpa [isWildcard] using htable
  have hfield' : isWildcard f.name = false := by simpa [isWildcard] using hfield
  have hqualified := writes_qualified t.name f.name
  refine ⟨r, hrt, hri, hrf, ?_, ?_, fun g => ?_⟩
  · rw [bind_of_ofText (ofText_selectFrom t.name hqualified)]
    exact bindSelect_column settings ht htable' (.inr rfl) hblank hfield' rfl hr keys
  · rw [bind_of_ofText (ofText_selectFrom t.name (writes_column f.name))]
    exact bindSelect_column settings ht htable' (.inl rfl) hblank hfield' rfl hr keys
  · rw [bind_of_ofText (ofText_selectFrom t.name (writes_call g hqualified))]
    refine bindSelect_column (a := ⟨some t.name, f.name, .call g⟩) settings ht
      htable' (.inr rfl) hblank hfield' ?_ hr keys
    simp [Attribute.aggregation, hfield']

/-- A table whose name holds a quote and a comment, and its field called by a
keyword and a point. -/
theorem bind_quoted_column_keyword :
    let d : TableDefinition := ⟨"a\"--b", [⟨"FROM.", .integer, true⟩]⟩
    let table := "\"a\"\"--b\""
    ∃ (c : Catalog) (t : Table) (r : FieldRef),
      Catalog.ofDefinition ⟨"main", [d]⟩ = .ok c ∧ t.definition = d ∧
      r.table = t ∧ r.index = 1 ∧ quotedName d.name = table ∧
      bind { catalog := c } ("SELECT " ++ "\"FROM.\"" ++ " FROM " ++ table) =
        .ok ⟨[t], [⟨r, .none⟩], ⟨[]⟩, false⟩ ∧
      bind { catalog := c } ("SELECT " ++ ("SUM" ++ "(" ++
          (table ++ "." ++ "\"FROM.\"") ++ ")") ++ " FROM " ++ table) =
        .ok ⟨[t], [⟨r, .function .sum⟩], ⟨[]⟩, true⟩ := by
  intro d table
  have hd : d.IsValid := ⟨by decide, by decide, by decide, by decide⟩
  let t : Table := ⟨d, hd⟩
  let c : Catalog := ⟨"main", [t], 2, List.pairwise_singleton _ _⟩
  have hc : Catalog.ofDefinition ⟨"main", [d]⟩ = .ok c := by cbv
  have ht : t ∈ c.tables := List.mem_singleton.mpr rfl
  have hf : (⟨"FROM.", .integer, true, 1, true⟩ : Field) ∈ t.fields :=
    List.mem_cons_of_mem _ (List.mem_singleton.mpr rfl)
  have htable : t.name ≠ wildcard := by
    show ("a\"--b" : String) ≠ "*"
    decide
  have hquoted : quotedName t.name = table := by
    show quotedName "a\"--b" = "\"a\"\"--b\""
    decide
  have hcolumn : quotedName "FROM." = "\"FROM.\"" := by decide
  obtain ⟨r, hrt, hri, -, -, hplain, hcall⟩ :=
    bind_quoted_column ht hf htable (by decide : "FROM." ≠ "*") {} .listed
  rw [hquoted, hcolumn] at hplain hcall
  exact ⟨c, t, r, hc, rfl, hrt, hri, hquoted, hplain, hcall .sum⟩

end Session

end QueryBind
