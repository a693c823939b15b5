import QueryBind.Proofs.Sql.Grammar

/-!
# What an entry is flattened to

An entry of a SELECT list is a tree of calls over columns and is kept as one
attribute: the column that is written first, with a shape. The grammar says apart
from each other which column that is, by following the first arguments down, and
which shape an entry has, by looking at its direct arguments only. The attribute
that is computed from an item is the one that the two determine.
-/

namespace QueryBind.Sql

/-! ## Shapes -/

namespace Item

theorem function?_eq_some_iff {item : Item} {f : AggregateFunction} :
    item.function? = some f ↔ ∃ arguments, item = .call f arguments := by
  cases item <;> simp [function?]

theorem function?_eq_none_iff {item : Item} : item.function? = none ↔ ¬ item.IsCall := by
  cases item <;> simp [function?, IsCall]

theorem exists_column {item : Item} (h : ¬ item.IsCall) :
    ∃ relation name, item = .column relation name := by
  cases item with
  | column relation name => exact ⟨relation, name, rfl⟩
  | call f arguments => exact absurd ⟨f, arguments, rfl⟩ h

/-- Some argument is a call exactly if one is the first such. -/
theorem exists_isCall_iff {arguments : List Item} :
    (∃ x ∈ arguments, x.IsCall) ↔ ∃ before inner others after,
      arguments = before ++ .call inner others :: after ∧ ∀ x ∈ before, ¬ x.IsCall := by
  constructor
  · rintro ⟨x, hx, hcall⟩
    cases hfirst : arguments.findSome? function? with
    | none =>
        exact absurd hcall (function?_eq_none_iff.mp (List.findSome?_eq_none_iff.mp hfirst x hx))
    | some inner =>
        obtain ⟨before, y, after, rfl, hy, hbefore⟩ := List.findSome?_eq_some_iff.mp hfirst
        obtain ⟨others, rfl⟩ := function?_eq_some_iff.mp hy
        exact ⟨before, inner, others, after, rfl,
          fun x hx => function?_eq_none_iff.mp (hbefore x hx)⟩
  · rintro ⟨before, inner, others, after, rfl, -⟩
    exact ⟨_, by simp, inner, others, rfl⟩

theorem callShape_of_first {f inner : AggregateFunction} {before others after : List Item}
    (h : ∀ x ∈ before, ¬ x.IsCall) :
    callShape f (before ++ .call inner others :: after) = .nested f inner := by
  have hfirst : (before ++ .call inner others :: after).findSome? function? = some inner :=
    List.findSome?_eq_some_iff.mpr ⟨before, _, after, rfl, rfl,
      fun x hx => function?_eq_none_iff.mpr (h x hx)⟩
  simp only [callShape, hfirst]

theorem callShape_of_none {f : AggregateFunction} {arguments : List Item}
    (h : ∀ x ∈ arguments, ¬ x.IsCall) :
    callShape f arguments =
      if arguments.length > 1 then .multiple f arguments.length else .call f := by
  have hnone : arguments.findSome? function? = none :=
    List.findSome?_eq_none_iff.mpr fun x hx => function?_eq_none_iff.mpr (h x hx)
  simp only [callShape, hnone]

/-- The shape of a call with arguments is the one they give it. -/
theorem toAttribute_shape {f : AggregateFunction} {arguments : List Item}
    (h : arguments ≠ []) :
    (call f arguments).toAttribute.shape = callShape f arguments := by
  obtain ⟨first, others, rfl⟩ := List.exists_cons_of_ne_nil h
  rfl

theorem Shaped.toAttribute_shape_eq {item : Item} {s : AggregateShape} (h : item.Shaped s) :
    item.toAttribute.shape = s := by
  cases h with
  | column => rfl
  | empty => rfl
  | single => rfl
  | multiple hlength hnone =>
      have hne := List.ne_nil_of_length_pos (Nat.lt_of_lt_of_le Nat.two_pos hlength)
      rw [toAttribute_shape hne, callShape_of_none hnone]
      exact if_pos hlength
  | nested hbefore =>
      rw [toAttribute_shape (by simp), callShape_of_first hbefore]

theorem shaped_toAttribute (item : Item) : item.Shaped item.toAttribute.shape := by
  -- Every item has some shape, and a shape that it has is that of its attribute.
  have hshaped : ∃ s, item.Shaped s := by
    cases item with
    | column relation name => exact ⟨_, .column⟩
    | call f arguments =>
        by_cases hcall : ∃ x ∈ arguments, x.IsCall
        · obtain ⟨before, inner, others, after, rfl, hbefore⟩ := exists_isCall_iff.mp hcall
          exact ⟨_, .nested hbefore⟩
        · have hnone : ∀ x ∈ arguments, ¬ x.IsCall := fun x hx hx' => hcall ⟨x, hx, hx'⟩
          match arguments, hnone with
          | [], _ => exact ⟨_, .empty⟩
          | [x], hnone =>
              obtain ⟨relation, name, rfl⟩ := exists_column (hnone x (by simp))
              exact ⟨_, .single⟩
          | x :: y :: others, hnone => exact ⟨_, .multiple (by simp) hnone⟩
  obtain ⟨s, hs⟩ := hshaped
  rw [hs.toAttribute_shape_eq]
  exact hs

theorem shaped_iff {item : Item} {s : AggregateShape} :
    item.Shaped s ↔ item.toAttribute.shape = s :=
  ⟨Shaped.toAttribute_shape_eq, fun h => h ▸ shaped_toAttribute item⟩

/-! ## Columns -/

theorem leads_toAttribute : (item : Item) →
    item.Leads item.toAttribute.relation item.toAttribute.name
  | .column _ _ => .column
  | .call _ [] => .empty
  | .call _ (first :: _) => .call (leads_toAttribute first)

/-- The column of an attribute is the one that leads its item, whatever the shapes on
the way down are. -/
theorem leads_iff {item : Item} {relation : Option String} {name : String} :
    item.Leads relation name ↔
      item.toAttribute.relation = relation ∧ item.toAttribute.name = name := by
  constructor
  · intro h
    induction h with
    | column => exact ⟨rfl, rfl⟩
    | empty => exact ⟨rfl, rfl⟩
    | call _ ih => exact ih
  · rintro ⟨rfl, rfl⟩
    exact leads_toAttribute item

end Item

/-! ## Entries -/

/-- What an entry derives is the attribute of its item. -/
theorem entryOf_iff {ts : List Token} {a : Attribute} :
    EntryOf ts a ↔ ∃ item, ItemOf ts item ∧ item.toAttribute = a := by
  constructor
  · rintro ⟨hitem, hleads, hshaped⟩
    obtain ⟨rfl, rfl⟩ := Item.leads_iff.mp hleads
    obtain rfl := Item.shaped_iff.mp hshaped
    exact ⟨_, hitem, rfl⟩
  · rintro ⟨item, hitem, rfl⟩
    exact .of hitem (Item.leads_iff.mpr ⟨rfl, rfl⟩) (Item.shaped_iff.mpr rfl)

/-- A list of entries derives the attributes of the items that it is a list of. -/
theorem listed_entryOf_iff {ts : List Token} {attributes : List Attribute} :
    Listed EntryOf ts attributes ↔
      ∃ items, Listed ItemOf ts items ∧ items.map Item.toAttribute = attributes := by
  constructor
  · intro h
    induction h with
    | single hentry =>
        obtain ⟨item, hitem, rfl⟩ := entryOf_iff.mp hentry
        exact ⟨[item], .single hitem, rfl⟩
    | more hentry hcomma _ ih =>
        obtain ⟨item, hitem, rfl⟩ := entryOf_iff.mp hentry
        obtain ⟨items, hitems, rfl⟩ := ih
        exact ⟨item :: items, .more hitem hcomma hitems, rfl⟩
  · rintro ⟨items, h, rfl⟩
    induction h with
    | single hitem => exact .single (entryOf_iff.mpr ⟨_, hitem, rfl⟩)
    | more hitem hcomma _ ih => exact .more (entryOf_iff.mpr ⟨_, hitem, rfl⟩) hcomma ih

end QueryBind.Sql
