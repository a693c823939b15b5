import Mathlib.Data.List.Forall2
import QueryBind.Binding.Reference
import QueryBind.Binding.Relations
import QueryBind.Proofs.Results

/-!
# Looking names up

What a name stands for when a SELECT is bound: a field of a table, a table of
the FROM list. A name that is found is found where it belongs, and no field that
a table has is ever out of its reach.
-/

namespace QueryBind

open Text

/-! ## Fields of a table -/

namespace FieldRef

theorem of?_eq_some_iff {t : Table} {i : Nat} {r : FieldRef} :
    of? t i = some r ↔ r.table = t ∧ r.index = i := by
  unfold of?
  constructor
  · intro h
    split at h
    · cases h
      exact ⟨rfl, rfl⟩
    · cases h
  · rintro ⟨rfl, rfl⟩
    rw [dif_pos r.index_lt]

/-- The field of a reference is the one that its table has at its index. -/
theorem fieldAt?_index (r : FieldRef) :
    r.table.fieldAt? r.index = some r.field :=
  List.getElem?_eq_getElem r.index_lt

end FieldRef

namespace Table

/-- A name refers to the field at its index. The index of a name is an index of
the table, so nothing is lost on the way. -/
theorem ref?_eq_some_iff {t : Table} {name : String} {r : FieldRef} :
    t.ref? name = some r ↔ r.table = t ∧ t.fieldIndex? name = some r.index := by
  unfold ref?
  rw [Option.bind_eq_some_iff]
  constructor
  · rintro ⟨i, hi, hr⟩
    obtain ⟨htable, rfl⟩ := FieldRef.of?_eq_some_iff.mp hr
    exact ⟨htable, hi⟩
  · rintro ⟨htable, hi⟩
    exact ⟨r.index, hi, FieldRef.of?_eq_some_iff.mpr ⟨htable, rfl⟩⟩

theorem field_name_of_ref? {t : Table} {name : String} {r : FieldRef}
    (h : t.ref? name = some r) : r.field.name = name := by
  obtain ⟨rfl, hi⟩ := ref?_eq_some_iff.mp h
  obtain ⟨hlt, hname, -⟩ := List.findIdx?_eq_some_iff_getElem.mp hi
  simpa [FieldRef.field] using hname

theorem table_of_mem_userRefs {t : Table} {r : FieldRef} (h : r ∈ t.userRefs) :
    r.table = t := by
  obtain ⟨i, -, rfl⟩ := List.mem_map.mp h
  rfl

/-- Every table has a field to show. -/
theorem userRefs_ne_nil (t : Table) : t.userRefs ≠ [] := by
  intro h
  have hlength := congrArg List.length h
  simp [userRefs, fields_length, systemFieldCount] at hlength
  exact t.valid.columns_ne_nil hlength

end Table

/-! ## Tables of a FROM list -/

namespace Relations

theorem mem_of_lastNamed? {entries : List (String × Table)} {name : String}
    {t : Table} (h : lastNamed? entries name = some t) : (name, t) ∈ entries := by
  obtain ⟨⟨name', t'⟩, hfound, rfl⟩ := Option.map_eq_some_iff.mp h
  have hname : name' = name := by simpa using List.find?_some hfound
  rw [← hname]
  exact List.mem_reverse.mp (List.mem_of_find?_eq_some hfound)

theorem mem_tables_of_find? {r : Relations} {name : String} {t : Table}
    (h : r.find? name = some t) : t ∈ r.tables :=
  List.mem_map_of_mem (mem_of_lastNamed? h)

theorem default?_eq_some_iff {r : Relations} {t : Table} :
    r.default? = some t ↔ ∃ name, r.entries = [(name, t)] := by
  unfold default?
  constructor
  · intro h
    split at h
    · next name t' hentries =>
        cases h
        exact ⟨name, hentries⟩
    · cases h
  · rintro ⟨name, hentries⟩
    rw [hentries]

theorem mem_tables_of_default? {r : Relations} {t : Table}
    (h : r.default? = some t) : t ∈ r.tables := by
  obtain ⟨name, hentries⟩ := default?_eq_some_iff.mp h
  rw [tables, hentries]
  exact List.mem_singleton.mpr rfl

/-- A FROM list that resolves has one entry for each of its names, in order:
the name, which is not blank, and the table that the source has under it. -/
theorem resolveFrom_sound {source : TableSource} {policy : RepeatPolicy}
    {listed names : List String} {entries : List (String × Table)}
    (h : resolveFrom source policy listed names = .ok entries) :
    List.Forall₂ (fun name entry => entry.1 = name ∧ isBlank name = false ∧
      source.find? name = some entry.2) names entries := by
  induction names generalizing listed entries with
  | nil =>
      cases h
      exact .nil
  | cons name names ih =>
      unfold resolveFrom at h
      split at h
      · cases h
      next hblank =>
      split at h
      · cases h
      next t ht =>
      split at h
      · cases h
      · obtain ⟨rest, hrest, rfl⟩ := map_eq_ok_iff.mp h
        exact .cons ⟨rfl, by simpa using hblank, ht⟩ (ih hrest)

section Resolved

variable {source : TableSource} {policy : RepeatPolicy} {names : List String}
  {keys : Enumeration} {name : String} {r : Relations}

theorem resolve_sound (h : resolve source policy names keys = .ok r) :
    List.Forall₂ (fun name t => source.find? name = some t) names r.tables := by
  obtain ⟨entries, hentries, rfl⟩ := map_eq_ok_iff.mp h
  refine List.forall₂_map_right_iff.mpr ((resolveFrom_sound hentries).imp ?_)
  rintro name entry ⟨-, -, hfind⟩
  exact hfind

/-- Nothing is lost and nothing is added of the names that are listed. -/
theorem names_of_resolve (h : resolve source policy names keys = .ok r) :
    r.names = names := by
  obtain ⟨entries, hentries, rfl⟩ := map_eq_ok_iff.mp h
  have hnames : List.Forall₂ (· = ·) names (entries.map (·.1)) := by
    apply List.forall₂_map_right_iff.mpr
    exact (resolveFrom_sound hentries).imp fun _ _ hentry => hentry.1.symm
  exact (List.forall₂_eq_eq_eq ▸ hnames).symm

theorem isBlank_of_resolve (h : resolve source policy names keys = .ok r)
    (hname : name ∈ names) : isBlank name = false := by
  obtain ⟨entries, hentries, rfl⟩ := map_eq_ok_iff.mp h
  obtain ⟨_, -, -, hblank, -⟩ :=
    exists_of_forall₂_right (resolveFrom_sound hentries).flip hname
  exact hblank

theorem find?_eq_none_iff : r.find? name = none ↔ name ∉ r.names := by
  simp only [find?, lastNamed?, names, Option.map_eq_none_iff, List.find?_eq_none,
    List.mem_reverse, List.mem_map, beq_iff_eq, not_exists, not_and]

/-- Every listed name stands for the table that the source has under it, however
often it is listed. -/
theorem find?_of_resolve (h : resolve source policy names keys = .ok r)
    (hname : name ∈ names) : r.find? name = source.find? name := by
  cases hfind : r.find? name with
  | none =>
      rw [find?_eq_none_iff, names_of_resolve h] at hfind
      exact absurd hname hfind
  | some t =>
      obtain ⟨entries, hentries, rfl⟩ := map_eq_ok_iff.mp h
      obtain ⟨_, -, rfl, -, hsource⟩ :=
        exists_of_forall₂_right (resolveFrom_sound hentries) (mem_of_lastNamed? hfind)
      exact hsource.symm

end Resolved

end Relations

end QueryBind
