import QueryBind.Binding.Summary
import QueryBind.Proofs.Binding.Locality
import QueryBind.Proofs.Binding.Validity
import QueryBind.Proofs.Session.History

/-!
# What equal statements show

Bound statements are compared by the names of their tables, the indices of their
fields and the numbers of their literals, but they show the names and types of
fields and the texts of literals. So statements that were bound at two moments of
a session may be equal and show different fields, if a table of theirs has got
other columns in between; and a zero is shown with its sign, which does not
count. Nothing else comes between equality and what is shown.
-/

namespace QueryBind

open Sql

/-! ## Signs of zeros -/

/-- The number without its sign, if it is a zero. -/
def Number.Double.unsignedZero : Double → Double
  | .finite _ 0 => .finite false 0
  | x => x

theorem Number.Double.unsignedZero_eq_of_beq {x y : Double} (h : (x == y) = true) :
    x.unsignedZero = y.unsignedZero := by
  cases x with
  | nan => simp [BEq.beq] at h
  | infinite s =>
      cases y with
      | infinite t => simpa [BEq.beq, unsignedZero] using h
      | nan => simp [BEq.beq] at h
      | finite t n => simp [BEq.beq] at h
  | finite s m =>
      cases y with
      | finite t n =>
          obtain ⟨rfl, hsign⟩ : m = n ∧ (m = 0 ∨ s = t) := by simpa [BEq.beq] using h
          rcases hsign with rfl | rfl <;> rfl
      | nan => simp [BEq.beq] at h
      | infinite t => simp [BEq.beq] at h

def Literal.unsignedZero : Literal → Literal
  | .double x => .double x.unsignedZero
  | v => v

theorem Literal.unsignedZero_eq_of_beq {v w : Literal} (h : (v == w) = true) :
    v.unsignedZero = w.unsignedZero := by
  cases v <;> cases w
  case double.double x y =>
      exact congrArg Literal.double (Number.Double.unsignedZero_eq_of_beq h)
  all_goals simp_all [BEq.beq, instBEqLiteral.beq]

def FilterOperand.unsignedZero : FilterOperand → FilterOperand
  | .literal v => .literal v.unsignedZero
  | .field r => .field r

def FilterUnit.unsignedZeros (u : FilterUnit) : FilterUnit :=
  ⟨u.left.unsignedZero, u.comparison, u.right.unsignedZero⟩

/-- The statement with no sign before a zero. -/
def BoundSelect.unsignedZeros (b : BoundSelect) : BoundSelect :=
  { b with filter := ⟨b.filter.units.map (·.unsignedZeros)⟩ }

/-! ## Equality taken apart -/

theorem FieldRef.beq_eq_true_iff {r r' : FieldRef} :
    (r == r') = true ↔ r.table.name = r'.table.name ∧ r.index = r'.index := by
  show (r.table.name == r'.table.name && r.index == r'.index) = true ↔ _
  rw [Bool.and_eq_true, beq_iff_eq, beq_iff_eq]

theorem BoundField.beq_eq_true_iff {f f' : BoundField} :
    (f == f') = true ↔ (f.ref == f'.ref) = true ∧ f.aggregation = f'.aggregation := by
  show (f.ref == f'.ref && f.aggregation == f'.aggregation) = true ↔ _
  rw [Bool.and_eq_true, beq_iff_eq (a := f.aggregation)]

theorem FilterUnit.beq_eq_true_iff {u u' : FilterUnit} :
    (u == u') = true ↔ (u.left == u'.left) = true ∧ u.comparison = u'.comparison ∧
      (u.right == u'.right) = true := by
  show (u.left == u'.left && (u.comparison == u'.comparison && u.right == u'.right)) =
    true ↔ _
  rw [Bool.and_eq_true, Bool.and_eq_true, beq_iff_eq (a := u.comparison)]

theorem BoundSelect.beq_eq_true_iff {b b' : BoundSelect} :
    (b == b') = true ↔ b.tables.map (·.name) = b'.tables.map (·.name) ∧
      (b.fields == b'.fields) = true ∧ (b.filter.units == b'.filter.units) = true ∧
      b.isAggregate = b'.isAggregate := by
  show (b.tables.map (·.name) == b'.tables.map (·.name) && b.fields == b'.fields &&
    b.filter.units == b'.filter.units && b.isAggregate == b'.isAggregate) = true ↔ _
  rw [Bool.and_eq_true, Bool.and_eq_true, Bool.and_eq_true,
    beq_iff_eq (a := b.tables.map _), beq_iff_eq (a := b.isAggregate), and_assoc,
    and_assoc]

/-- Equal lists show the same if equal entries do. -/
theorem map_eq_map_of_beq {α β : Type} [BEq α] {g : α → β} {as as' : List α}
    (h : (as == as') = true)
    (hg : ∀ a ∈ as, ∀ a' ∈ as', (a == a') = true → g a = g a') :
    as.map g = as'.map g := by
  induction as generalizing as' with
  | nil =>
      cases as' with
      | nil => rfl
      | cons a' as' => cases h
  | cons a as ih =>
      cases as' with
      | nil => cases h
      | cons a' as' =>
          rw [List.cons_beq_cons, Bool.and_eq_true] at h
          have hrest : as.map g = as'.map g := ih h.2 fun b hb b' hb' =>
            hg b (List.mem_cons_of_mem _ hb) b' (List.mem_cons_of_mem _ hb')
          rw [List.map_cons, List.map_cons, hrest,
            hg a List.mem_cons_self a' List.mem_cons_self h.1]

/-! ## Equal references -/

/-- What a table shows of the field at an index. -/
def Table.shown? (t : Table) (index : Nat) : Option (String × ColumnType) :=
  (t.fieldAt? index).map fun f => (f.name, f.type)

theorem FieldRef.shown?_index (r : FieldRef) :
    r.table.shown? r.index = some (r.field.name, r.field.type) := by
  rw [Table.shown?, r.fieldAt?_index]
  rfl

/-- Both tables show the same field at the index of a reference. -/
def FieldRef.ShownAlike (r r' : FieldRef) : Prop :=
  r'.table.shown? r.index = r.table.shown? r.index

theorem FieldRef.ShownAlike.eq_of_beq {r r' : FieldRef} (halike : r.ShownAlike r')
    (h : (r == r') = true) : r.table.name = r'.table.name ∧
      r.field.name = r'.field.name ∧ r.field.type = r'.field.type := by
  obtain ⟨hname, hindex⟩ := FieldRef.beq_eq_true_iff.mp h
  rw [ShownAlike, r.shown?_index, hindex, r'.shown?_index, Option.some_inj,
    Prod.mk.injEq] at halike
  exact ⟨hname, halike.1.symm, halike.2.symm⟩

theorem BoundField.summary_eq_of_beq {f f' : BoundField}
    (halike : f.ref.ShownAlike f'.ref) (h : (f == f') = true) :
    f.summary = f'.summary := by
  obtain ⟨href, haggregation⟩ := BoundField.beq_eq_true_iff.mp h
  obtain ⟨htable, hname, htype⟩ := halike.eq_of_beq href
  rw [summary, summary, htable, hname, htype, haggregation]

theorem FilterOperand.text_eq_of_beq {o o' : FilterOperand}
    (halike : ∀ r r', o = .field r → o' = .field r' → (r == r') = true →
      r.ShownAlike r') (h : (o == o') = true) :
    o.unsignedZero.text = o'.unsignedZero.text := by
  cases o with
  | field r =>
      cases o' with
      | field r' =>
          obtain ⟨htable, hname, -⟩ := (halike r r' rfl rfl h).eq_of_beq h
          show r.text = r'.text
          rw [FieldRef.text, FieldRef.text, htable, hname]
      | literal w => cases h
  | literal v =>
      cases o' with
      | field r' => cases h
      | literal w => exact congrArg Literal.text (Literal.unsignedZero_eq_of_beq h)

theorem Filter.text_eq_of_units {f f' : Filter}
    (h : f.units.map (·.text) = f'.units.map (·.text)) : f.text = f'.text := by
  have hempty : f.units.isEmpty = f'.units.isEmpty := by
    rw [← List.isEmpty_map (f := FilterUnit.text), h, List.isEmpty_map]
  rw [text, text, hempty, h]

/-! ## Equal statements -/

/-- A field that a statement projects or compares. -/
def BoundSelect.Uses (b : BoundSelect) (r : FieldRef) : Prop :=
  (∃ f ∈ b.fields, f.ref = r) ∨
    ∃ u ∈ b.filter.units, u.left = .field r ∨ u.right = .field r

/-- Whatever field a statement uses, a table of the other statement by the same
name shows the same name and type at its index. -/
def BoundSelect.ShowsAlike (b b' : BoundSelect) : Prop :=
  ∀ r, b.Uses r → ∀ t ∈ b'.tables, t.name = r.table.name →
    t.shown? r.index = r.table.shown? r.index

theorem BoundSelect.IsValid.mem_tables_of_uses {b : BoundSelect} {c : Catalog}
    {s : Select} {r : FieldRef} (h : b.IsValid c s) (hr : b.Uses r) :
    r.table ∈ b.tables := by
  rcases hr with ⟨f, hf, rfl⟩ | ⟨u, hu, hr⟩
  · exact (h.fields_in f hf).table_mem
  · exact (h.units_in u hu r hr).table_mem

/-- The catalog holds the tables of a statement under their names. -/
theorem BoundSelect.IsValid.find?_eq_some {b : BoundSelect} {c : Catalog}
    {s : Select} {t : Table} (h : b.IsValid c s) (ht : t ∈ b.tables) :
    c.find? t.name = some t := by
  obtain ⟨name, -, hfind, hname⟩ := exists_of_forall₂_right h.tables_listed ht
  rw [hname]
  exact hfind

theorem BoundSelect.summary_eq_of_beq {b b' : BoundSelect}
    (hb' : ∀ r, b'.Uses r → r.table ∈ b'.tables) (halike : b.ShowsAlike b')
    (h : (b == b') = true) : b.unsignedZeros.summary = b'.unsignedZeros.summary := by
  obtain ⟨htables, hfields, hunits, hflag⟩ := BoundSelect.beq_eq_true_iff.mp h
  have hrefs : ∀ r r', b.Uses r → b'.Uses r' → (r == r') = true → r.ShownAlike r' :=
    fun r r' hr hr' heq =>
      halike r hr r'.table (hb' r' hr') (FieldRef.beq_eq_true_iff.mp heq).1.symm
  have hshown : b.fields.map (·.summary) = b'.fields.map (·.summary) := by
    refine map_eq_map_of_beq hfields fun f hf f' hf' heq => ?_
    exact BoundField.summary_eq_of_beq (hrefs _ _ (.inl ⟨f, hf, rfl⟩)
      (.inl ⟨f', hf', rfl⟩) (BoundField.beq_eq_true_iff.mp heq).1) heq
  have htexts : b.filter.units.map (·.unsignedZeros.text) =
      b'.filter.units.map (·.unsignedZeros.text) := by
    refine map_eq_map_of_beq hunits fun u hu u' hu' heq => ?_
    obtain ⟨hleft, hcomparison, hright⟩ := FilterUnit.beq_eq_true_iff.mp heq
    have hl := FilterOperand.text_eq_of_beq (fun r r' hr hr' =>
      hrefs r r' (.inr ⟨u, hu, .inl hr⟩) (.inr ⟨u', hu', .inl hr'⟩)) hleft
    have hr := FilterOperand.text_eq_of_beq (fun r r' hr hr' =>
      hrefs r r' (.inr ⟨u, hu, .inr hr⟩) (.inr ⟨u', hu', .inr hr'⟩)) hright
    simp only [FilterUnit.text, FilterUnit.unsignedZeros, hl, hr, hcomparison]
  have hfilter : b.unsignedZeros.filter.text = b'.unsignedZeros.filter.text := by
    refine Filter.text_eq_of_units ?_
    simpa [unsignedZeros, Function.comp_def] using htexts
  show Summary.mk (b.tables.map (·.name)) (b.fields.map (·.summary)) b.isAggregate
      b.unsignedZeros.filter.text =
    Summary.mk (b'.tables.map (·.name)) (b'.fields.map (·.summary)) b'.isAggregate
      b'.unsignedZeros.filter.text
  rw [htables, hshown, hflag, hfilter]

namespace Session

/-- What a text binds to is a valid form of the SELECT that the text is. -/
theorem exists_select_of_bind {s : Session} {text : String} {keys : Enumeration}
    {b : BoundSelect} (h : s.bind text keys = .ok b) : ∃ select, b.IsValid s.catalog select := by
  unfold bind at h
  split at h
  · cases h
  · next select hread =>
      obtain ⟨hattributes, hrelations⟩ := ne_nil_of_ofText hread
      exact ⟨select, bindSelect_isValid h hattributes hrelations⟩
  · cases h

/-- **What equal statements show.** Bind a text in a session, and any text after
any requests. If the two statements are equal, they have the same names of
tables, the same flag and, entry for entry, the same table, index and
aggregation. Where the fields that the first one uses have the same names and
types in the tables of the second, the summaries are the same with the signs of
zeros left out, and the same as they stand if neither statement compares with a
negative zero. Fields can differ in this only if a request in between changed a
table of the first statement. -/
theorem summary_of_beq {s : Session} {text text' : String} {requests : List Request}
    {keys keys' : Enumeration} {b b' : BoundSelect} (hb : s.bind text keys = .ok b)
    (hb' : (s.serveAll requests).bind text' keys' = .ok b') (heq : (b == b') = true) :
    b.tables.map (·.name) = b'.tables.map (·.name) ∧
    b.isAggregate = b'.isAggregate ∧
    b.fields.map (fun f => (f.ref.table.name, f.ref.index, f.aggregation)) =
      b'.fields.map (fun f => (f.ref.table.name, f.ref.index, f.aggregation)) ∧
    (b.ShowsAlike b' →
      b.unsignedZeros.summary = b'.unsignedZeros.summary ∧
      (b.unsignedZeros = b → b'.unsignedZeros = b' → b.summary = b'.summary)) ∧
    ((∀ ch ∈ successes (s.log requests), ch.name ∉ b.tables.map (·.name)) →
      b.ShowsAlike b') := by
  obtain ⟨select, hvalid⟩ := exists_select_of_bind hb
  obtain ⟨select', hvalid'⟩ := exists_select_of_bind hb'
  obtain ⟨htables, hfields, -, hflag⟩ := BoundSelect.beq_eq_true_iff.mp heq
  refine ⟨htables, hflag, ?_, fun halike => ?_, fun hothers => ?_⟩
  · refine map_eq_map_of_beq hfields fun f _ f' _ hff' => ?_
    obtain ⟨href, haggregation⟩ := BoundField.beq_eq_true_iff.mp hff'
    obtain ⟨hname, hindex⟩ := FieldRef.beq_eq_true_iff.mp href
    rw [hname, hindex, haggregation]
  · have hsame := BoundSelect.summary_eq_of_beq
      (fun r => hvalid'.mem_tables_of_uses) halike heq
    refine ⟨hsame, fun hplain hplain' => ?_⟩
    rw [hplain, hplain'] at hsame
    exact hsame
  · intro r hr t ht hname
    -- Both are the table that the catalog holds by this name, before and after.
    have hmem : r.table ∈ b.tables := hvalid.mem_tables_of_uses hr
    have hfind : s.catalog.find? r.table.name = some r.table := hvalid.find?_eq_some hmem
    have hfind' : (s.serveAll requests).catalog.find? t.name = some t :=
      hvalid'.find?_eq_some ht
    have hkept : (s.serveAll requests).catalog.find? r.table.name =
        s.catalog.find? r.table.name :=
      (s.linked_log requests).find?_eq fun ch hch hch' =>
        hothers ch hch (List.mem_map.mpr ⟨r.table, hmem, hch'.symm⟩)
    rw [hname, hkept, hfind, Option.some_inj] at hfind'
    rw [hfind']

/-- The table has become stricter in between, and the zero is negative. -/
theorem summary_of_beq_created_anew :
    let t : TableDefinition := ⟨"t", [⟨"a", .double, true⟩]⟩
    let requests := [.execute "DROP TABLE t",
      .execute "CREATE TABLE t (a DOUBLE NOT NULL)"]
    ∃ (c : Catalog) (b b' : BoundSelect), Catalog.ofDefinition ⟨"main", [t]⟩ = .ok c ∧
      bind { catalog := c } "SELECT a FROM t WHERE a > 0.0" = .ok b ∧
      (serveAll { catalog := c } requests).bind "SELECT t.* FROM t WHERE t.a > -0.0" =
        .ok b' ∧ (b == b') = true ∧
      b.filter.text = "t.a > 0" ∧ b'.filter.text = "t.a > -0" ∧
      b.unsignedZeros.summary = b'.unsignedZeros.summary := by
  intro t requests
  let t' : TableDefinition := ⟨"t", [⟨"a", .double, false⟩]⟩
  let u : Table := ⟨t, by decide, by decide, by decide, by decide⟩
  let u' : Table := ⟨t', by decide, by decide, by decide, by decide⟩
  let c : Catalog := ⟨"main", [u], 2, List.pairwise_singleton _ _⟩
  let c' : Catalog := ⟨"main", [u'], 4, List.pairwise_singleton _ _⟩
  let r : FieldRef := ⟨u, 1, Nat.lt_add_one 1⟩
  let r' : FieldRef := ⟨u', 1, Nat.lt_add_one 1⟩
  let b : BoundSelect := ⟨[u], [⟨r, .none⟩],
    ⟨[⟨.field r, .greaterThan, .literal (.double (.finite false 0))⟩]⟩, false⟩
  let b' : BoundSelect := ⟨[u'], [⟨r', .none⟩],
    ⟨[⟨.field r', .greaterThan, .literal (.double (.finite true 0))⟩]⟩, false⟩
  have hc : Catalog.ofDefinition ⟨"main", [t]⟩ = .ok c := by cbv
  have hlater : serveAll { catalog := c } requests = { catalog := c' } := by cbv
  have hb : bind { catalog := c } "SELECT a FROM t WHERE a > 0.0" = .ok b := by cbv
  have hb' : (serveAll { catalog := c } requests).bind
      "SELECT t.* FROM t WHERE t.a > -0.0" = .ok b' := by
    rw [hlater]
    cbv
  have heq : (b == b') = true := by cbv
  have halike : b.ShowsAlike b' := by
    intro q hq t ht _
    have hqr : q = r := by simpa [BoundSelect.Uses, b, eq_comm] using hq
    rw [List.mem_singleton.mp ht, hqr]
    rfl
  obtain ⟨-, -, -, hsummary, -⟩ := summary_of_beq hb hb' heq
  exact ⟨c, b, b', hc, hb, hb', heq, by cbv, by cbv, (hsummary halike).1⟩

/-- **Equality does not decide what is shown.** The zeros of two conditions are
equal, one of them with a sign. And the column of a table is equal to the column
of the next table by that name, whatever either is called. -/
theorem summary_ne_of_beq :
    let t : TableDefinition := ⟨"t", [⟨"a", .double, true⟩]⟩
    let requests := [.execute "DROP TABLE t", .execute "CREATE TABLE t (b TEXT)"]
    ∃ c : Catalog, Catalog.ofDefinition ⟨"main", [t]⟩ = .ok c ∧
      (∃ b b', bind { catalog := c } "SELECT a FROM t WHERE a = 0.0" = .ok b ∧
        bind { catalog := c } "SELECT a FROM t WHERE a = -0.0" = .ok b' ∧
        (b == b') = true ∧ b.summary ≠ b'.summary) ∧
      (∃ b b', bind { catalog := c } "SELECT a FROM t" = .ok b ∧
        (serveAll { catalog := c } requests).bind "SELECT b FROM t" = .ok b' ∧
        (b == b') = true ∧ b.summary ≠ b'.summary) := by
  intro t requests
  let t' : TableDefinition := ⟨"t", [⟨"b", .varchar, true⟩]⟩
  let u : Table := ⟨t, by decide, by decide, by decide, by decide⟩
  let u' : Table := ⟨t', by decide, by decide, by decide, by decide⟩
  let c : Catalog := ⟨"main", [u], 2, List.pairwise_singleton _ _⟩
  let c' : Catalog := ⟨"main", [u'], 4, List.pairwise_singleton _ _⟩
  let r : FieldRef := ⟨u, 1, Nat.lt_add_one 1⟩
  let r' : FieldRef := ⟨u', 1, Nat.lt_add_one 1⟩
  have hc : Catalog.ofDefinition ⟨"main", [t]⟩ = .ok c := by cbv
  have hlater : serveAll { catalog := c } requests = { catalog := c' } := by cbv
  refine ⟨c, hc, ?zeros, ?tables⟩
  case zeros =>
      let compared : Bool → BoundSelect := fun negative => ⟨[u], [⟨r, .none⟩],
        ⟨[⟨.field r, .equal, .literal (.double (.finite negative 0))⟩]⟩, false⟩
      refine ⟨compared false, compared true, by cbv, by cbv, by cbv, fun h => ?_⟩
      have hshown : "t.a = 0" = "t.a = -0" := congrArg Summary.filter h
      exact absurd hshown (by decide)
  case tables =>
      refine ⟨⟨[u], [⟨r, .none⟩], ⟨[]⟩, false⟩, ⟨[u'], [⟨r', .none⟩], ⟨[]⟩, false⟩,
        by cbv, ?_, by cbv, fun h => ?_⟩
      · rw [hlater]
        cbv
      · have hshown : [(⟨"t", "a", "DOUBLE", "none"⟩ : FieldSummary)] =
            [⟨"t", "b", "VARCHAR", "none"⟩] := congrArg Summary.fields h
        exact absurd hshown (by decide)

end Session

end QueryBind
