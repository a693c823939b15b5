import Mathlib.Data.List.Nodup
import QueryBind.Schema.Catalog
import QueryBind.Proofs.Schema.Tables

/-!
# Changes of a catalog

A catalog changes by creations and drops. What a change may do is said once, by
what it makes of the look-up of names: it decides about its own name and leaves
every other name alone. As a catalog is determined by its look-up, that is all
there is to know of a change.
-/

namespace QueryBind

/-! ## Look-up -/

namespace Catalog

theorem tableNames_ascending (c : Catalog) : c.tableNames.Pairwise (· < ·) :=
  List.pairwise_map.mpr c.sorted

theorem tableNames_nodup (c : Catalog) : c.tableNames.Nodup := by
  refine c.tableNames_ascending.imp ?_
  rintro a _ hlt rfl
  exact String.lt_irrefl _ hlt

/-- A table is found under its name and under no other. -/
theorem find?_eq_some_iff {c : Catalog} {name : String} {t : Table} :
    c.find? name = some t ↔ t ∈ c.tables ∧ t.name = name := by
  unfold find?
  constructor
  · intro h
    exact ⟨List.mem_of_find?_eq_some h, by simpa using List.find?_some h⟩
  · rintro ⟨hmem, rfl⟩
    cases hfound : c.tables.find? (·.name == t.name) with
    | none =>
        have hne := List.find?_eq_none.mp hfound t hmem
        simp at hne
    | some u =>
        have hu : u.name = t.name := by simpa using List.find?_some hfound
        have huc : u ∈ c.tables := List.mem_of_find?_eq_some hfound
        rw [List.inj_on_of_nodup_map c.tableNames_nodup huc hmem hu]

/-- Two catalogs of one name and one version that look up every name alike are
the same catalog. -/
theorem ext_find? {c c' : Catalog} (hname : c.name = c'.name)
    (hversion : c.version = c'.version)
    (hfind : ∀ name, c.find? name = c'.find? name) : c = c' := by
  have hmem : ∀ t, t ∈ c.tables ↔ t ∈ c'.tables := by
    intro t
    have h := hfind t.name
    constructor
    · intro ht
      rw [find?_eq_some_iff.mpr ⟨ht, rfl⟩] at h
      exact (find?_eq_some_iff.mp h.symm).1
    · intro ht
      rw [find?_eq_some_iff.mpr ⟨ht, rfl⟩] at h
      exact (find?_eq_some_iff.mp h).1
  have hnodup : ∀ c : Catalog, c.tables.Nodup :=
    fun c => c.tableNames_nodup.of_map
  have hperm : c.tables.Perm c'.tables :=
    (List.perm_ext_iff_of_nodup (hnodup c) (hnodup c')).mpr hmem
  -- Both lists stand in the strict order of names, which leaves no choice.
  have htables : c.tables = c'.tables := by
    refine hperm.eq_of_pairwise ?_ c.sorted c'.sorted
    intro t u _ _ htu hut
    exact absurd (String.lt_trans htu hut) (String.lt_irrefl _)
  obtain ⟨name, tables, version, sorted⟩ := c
  obtain ⟨name', tables', version', sorted'⟩ := c'
  simp only at hname hversion htables
  subst hname hversion htables
  rfl

theorem contains_eq_true_iff {c : Catalog} {name : String} :
    c.contains name = true ↔ ∃ t, c.find? name = some t :=
  Option.isSome_iff_exists

theorem contains_eq_false_iff {c : Catalog} {name : String} :
    c.contains name = false ↔ c.find? name = none :=
  Option.isSome_eq_false_iff.trans Option.isNone_iff_eq_none

end Catalog

/-! ## Changes -/

/-- A change of the schema. -/
inductive Change where
  | create (d : TableDefinition)
  | drop (name : String)

namespace Change

/-- The one name that a change is about. -/
def name : Change → String
  | create d => d.name
  | drop name => name

/-- The table that stands under the name of a change after it. -/
def leaves? : Change → Option Table
  | create d => (Table.ofDefinition d).toOption
  | drop _ => none

/-- What has to hold in a catalog for a change to succeed there. -/
def Admissible (c : Catalog) : Change → Prop
  | create d => d.IsValid ∧ c.contains d.name = false
  | drop name => c.contains name = true

end Change

namespace Catalog

/-- The catalog that a change makes. -/
def change (c : Catalog) : Change → Except Error Catalog
  | .create d => c.createTable d
  | .drop name => c.dropTable name

/-! ## What a change does -/

theorem find?_of_mem_insert {c c' : Catalog} {t : Table}
    (htables : c'.tables = insertByName t c.tables)
    (hfree : c.find? t.name = none) (name : String) :
    c'.find? name = if name = t.name then some t else c.find? name := by
  ext u
  rw [find?_eq_some_iff, htables, mem_insertByName]
  by_cases hname : name = t.name
  · subst hname
    rw [if_pos rfl, Option.some_inj]
    constructor
    · rintro ⟨rfl | hu, hu_name⟩
      · rfl
      · exact absurd hu_name (name_ne_of_find?_eq_none hfree u hu)
    · rintro rfl
      exact ⟨.inl rfl, rfl⟩
  · rw [if_neg hname, find?_eq_some_iff]
    constructor
    · rintro ⟨rfl | hu, rfl⟩
      · exact absurd rfl hname
      · exact ⟨hu, rfl⟩
    · rintro ⟨hu, hu_name⟩
      exact ⟨.inr hu, hu_name⟩

theorem find?_of_filter {c c' : Catalog} {dropped : String}
    (htables : c'.tables = c.tables.filter (·.name != dropped))
    (name : String) :
    c'.find? name = if name = dropped then none else c.find? name := by
  ext u
  rw [find?_eq_some_iff, htables, List.mem_filter, bne_iff_ne]
  by_cases hname : name = dropped
  · rw [if_pos hname]
    subst hname
    constructor
    · rintro ⟨⟨-, hne⟩, hu_name⟩
      exact absurd hu_name hne
    · rintro ⟨⟩
  · rw [if_neg hname, find?_eq_some_iff]
    constructor
    · rintro ⟨⟨hu, -⟩, hu_name⟩
      exact ⟨hu, hu_name⟩
    · rintro ⟨hu, rfl⟩
      exact ⟨⟨hu, hname⟩, rfl⟩

/-- What a change that succeeds makes of a catalog. -/
structure ChangesTo (c : Catalog) (ch : Change) (c' : Catalog) : Prop where
  admissible : ch.Admissible c
  name_eq : c'.name = c.name
  version_eq : c'.version = c.version + 1
  find?_eq : ∀ name, c'.find? name =
    if name = ch.name then ch.leaves? else c.find? name

theorem changesTo_of_change {c c' : Catalog} {ch : Change}
    (h : c.change ch = .ok c') : c.ChangesTo ch c' := by
  cases ch with
  | create d =>
      change c.createTable d = .ok c' at h
      unfold createTable at h
      split at h
      · cases h
      next t ht =>
      split at h
      · cases h
      next hfree =>
      have hname : t.name = d.name := Table.name_of_ofDefinition ht
      cases h
      refine ⟨⟨Table.exists_ofDefinition_iff.mp ⟨t, ht⟩, ?_⟩, rfl, rfl, ?_⟩
      · rw [← hname]
        exact contains_eq_false_iff.mpr hfree
      · intro name
        rw [find?_of_mem_insert rfl hfree name, hname]
        simp [Change.leaves?, Change.name, ht, Except.toOption]
  | drop name =>
      change c.dropTable name = .ok c' at h
      unfold dropTable at h
      split at h
      · cases h
      next t ht =>
      cases h
      refine ⟨contains_eq_true_iff.mpr ⟨t, ht⟩, rfl, rfl, ?_⟩
      exact find?_of_filter rfl

theorem exists_change {c : Catalog} {ch : Change} (h : ch.Admissible c) :
    ∃ c', c.change ch = .ok c' := by
  cases ch with
  | create d =>
      obtain ⟨hvalid, hfree⟩ := h
      obtain ⟨t, ht⟩ := Table.exists_ofDefinition_iff.mpr hvalid
      show ∃ c', c.createTable d = .ok c'
      unfold createTable
      rw [ht]
      split
      · next heq => cases heq
      next t' heq =>
      cases heq
      rw [← Table.name_of_ofDefinition ht, contains_eq_false_iff] at hfree
      split
      · next u hu =>
          rw [hfree] at hu
          cases hu
      · exact ⟨_, rfl⟩
  | drop name =>
      obtain ⟨t, ht⟩ := contains_eq_true_iff.mp h
      show ∃ c', c.dropTable name = .ok c'
      unfold dropTable
      rw [ht]
      exact ⟨_, rfl⟩

/-- **A change decides about its own name only.** It succeeds exactly in the
catalogs that admit it, and gives the one catalog that differs from the old one
in the table of its name and in a version that is one higher. -/
theorem change_eq_ok_iff {c c' : Catalog} {ch : Change} :
    c.change ch = .ok c' ↔ c.ChangesTo ch c' := by
  constructor
  · exact changesTo_of_change
  · intro h
    -- Some catalog comes out, and it looks up every name as `c'` does.
    obtain ⟨c'', hc''⟩ := exists_change h.admissible
    have h' := changesTo_of_change hc''
    rw [hc'']
    refine congrArg Except.ok (ext_find? ?_ ?_ ?_)
    · rw [h'.name_eq, h.name_eq]
    · rw [h'.version_eq, h.version_eq]
    · intro name
      rw [h'.find?_eq, h.find?_eq]

theorem isOk_change_iff {c : Catalog} {ch : Change} :
    (c.change ch).isOk = true ↔ ch.Admissible c := by
  constructor
  · intro h
    cases hrun : c.change ch with
    | error e =>
        rw [hrun] at h
        cases h
    | ok c' => exact (changesTo_of_change hrun).admissible
  · intro h
    obtain ⟨c', hc'⟩ := exists_change h
    rw [hc']
    rfl

/-- A table that is there after a change was there before, or was created. -/
theorem ChangesTo.mem_tables {c c' : Catalog} {ch : Change} {t : Table}
    (h : c.ChangesTo ch c') (ht : t ∈ c'.tables) :
    t ∈ c.tables ∨ ch = .create t.definition := by
  have hfind : c'.find? t.name = some t := find?_eq_some_iff.mpr ⟨ht, rfl⟩
  rw [h.find?_eq] at hfind
  split at hfind
  · cases ch with
    | create d =>
        have hmakes : Table.ofDefinition d = .ok t := by
          change (Table.ofDefinition d).toOption = some t at hfind
          cases hd : Table.ofDefinition d with
          | error e =>
              rw [hd] at hfind
              cases hfind
          | ok u =>
              rw [hd] at hfind
              cases hfind
              rfl
        exact .inr (congrArg Change.create (Table.ofDefinition_eq_ok_iff.mp hmakes).symm)
    | drop name => cases hfind
  · exact .inl (find?_eq_some_iff.mp hfind).1

/-! ## Trying a change -/

/-- The error of a change, if it fails. -/
def fault? (c : Catalog) (ch : Change) : Option Error :=
  match c.change ch with
  | .ok _ => none
  | .error e => some e

/-- The catalog after a change was tried; one that fails leaves the catalog as
it was. -/
def after (c : Catalog) (ch : Change) : Catalog := (c.change ch).toOption.getD c

/-- Either a change fails and nothing is different, or it succeeds. -/
theorem tried (c : Catalog) (ch : Change) :
    (∃ e, c.change ch = .error e ∧ c.fault? ch = some e ∧ c.after ch = c) ∨
      c.change ch = .ok (c.after ch) ∧ c.fault? ch = none := by
  unfold fault? after
  cases c.change ch with
  | error e => exact .inl ⟨e, rfl, rfl, rfl⟩
  | ok c' => exact .inr ⟨rfl, rfl⟩

@[simp] theorem name_after (c : Catalog) (ch : Change) :
    (c.after ch).name = c.name := by
  rcases c.tried ch with ⟨e, -, -, hsame⟩ | ⟨hok, -⟩
  · rw [hsame]
  · exact (change_eq_ok_iff.mp hok).name_eq

theorem version_after (c : Catalog) (ch : Change) :
    (c.after ch).version =
      if (c.fault? ch).isNone then c.version + 1 else c.version := by
  rcases c.tried ch with ⟨e, -, he, hsame⟩ | ⟨hok, hnone⟩
  · rw [hsame, he]
    rfl
  · rw [hnone]
    exact (change_eq_ok_iff.mp hok).version_eq

theorem find?_after (c : Catalog) (ch : Change) (name : String) :
    (c.after ch).find? name =
      if name = ch.name ∧ (c.fault? ch).isNone then ch.leaves?
      else c.find? name := by
  rcases c.tried ch with ⟨e, -, he, hsame⟩ | ⟨hok, hnone⟩
  · rw [hsame, he]
    simp
  · rw [(change_eq_ok_iff.mp hok).find?_eq, hnone]
    simp

theorem fault?_create (c : Catalog) (d : TableDefinition) :
    c.fault? (.create d) =
      match Table.ofDefinition d with
      | .error e => some e
      | .ok t => (c.find? t.name).map fun _ => .tableExists t.name c.name := by
  simp only [fault?, change, createTable]
  cases Table.ofDefinition d with
  | error e => rfl
  | ok t =>
      simp only
      split
      · next c' hok =>
          split at hok
          · cases hok
          · next hfree => rw [hfree, Option.map_none]
      · next e herror =>
          split at herror
          · next u hu =>
              cases herror
              rw [hu, Option.map_some]
          · cases herror

theorem fault?_drop (c : Catalog) (name : String) :
    c.fault? (.drop name) =
      match c.find? name with
      | none => some (.tableMissing name c.name)
      | some _ => none := by
  simp only [fault?, change, dropTable]
  cases c.find? name <;> rfl

/-- Whether and how a change fails is settled by what stands under its name. -/
theorem fault?_congr {c c' : Catalog} {ch : Change} (hname : c'.name = c.name)
    (hfind : c'.find? ch.name = c.find? ch.name) : c'.fault? ch = c.fault? ch := by
  cases ch with
  | create d =>
      rw [fault?_create, fault?_create, hname]
      cases ht : Table.ofDefinition d with
      | error e => rfl
      | ok t =>
          have htd : t.name = d.name := Table.name_of_ofDefinition ht
          change c'.find? d.name = c.find? d.name at hfind
          rw [← htd] at hfind
          simp only [hfind]
  | drop name =>
      change c'.find? name = c.find? name at hfind
      rw [fault?_drop, fault?_drop, hname, hfind]

theorem fault?_after {c : Catalog} {a b : Change} (h : a.name ≠ b.name) :
    (c.after a).fault? b = c.fault? b := by
  refine fault?_congr (c.name_after a) ?_
  rw [find?_after, if_neg]
  rintro ⟨heq, -⟩
  exact h heq.symm

/-- **Changes on different names commute.** Neither influences whether and how
the other fails, and the catalog after both does not tell their order. -/
theorem after_comm {c : Catalog} {a b : Change} (h : a.name ≠ b.name) :
    (c.after a).after b = (c.after b).after a := by
  refine ext_find? (by simp) ?_ ?_
  · simp only [version_after, fault?_after h, fault?_after h.symm]
    split <;> split <;> rfl
  · intro name
    simp only [find?_after, fault?_after h, fault?_after h.symm]
    by_cases ha : name = a.name
    · have hb : name ≠ b.name := fun hb => h (ha.symm.trans hb)
      simp [hb]
    · simp [ha]

end Catalog

end QueryBind
