import Mathlib.Data.List.Forall2
import Mathlib.Data.List.Induction

/-!
# Results of steps in a row

A computation in `Except` succeeds with a value exactly when each of its steps
succeeds in turn. These facts take such a computation apart.
-/

namespace QueryBind

variable {ε α β : Type}

theorem bind_eq_ok_iff {x : Except ε α} {f : α → Except ε β} {b : β} :
    (x >>= f) = .ok b ↔ ∃ a, x = .ok a ∧ f a = .ok b := by
  cases x <;> simp [bind, Except.bind]

theorem map_eq_ok_iff {x : Except ε α} {f : α → β} {b : β} :
    x.map f = .ok b ↔ ∃ a, x = .ok a ∧ f a = b := by
  cases x <;> simp [Except.map]

@[simp] theorem ok_bind (a : α) (f : α → Except ε β) :
    ((Except.ok a : Except ε α) >>= f) = f a := rfl

@[simp] theorem error_bind (e : ε) (f : α → Except ε β) :
    ((Except.error e : Except ε α) >>= f) = .error e := rfl

@[simp] theorem throw_eq_error (e : ε) : (throw e : Except ε α) = .error e := rfl

@[simp] theorem pure_eq_ok (a : α) : (pure a : Except ε α) = .ok a := rfl

/-- Every element of a list succeeds, with the results in the same order. -/
theorem mapM_eq_ok_iff {f : α → Except ε β} {as : List α} {bs : List β} :
    as.mapM f = .ok bs ↔ List.Forall₂ (fun a b => f a = .ok b) as bs := by
  induction as generalizing bs with
  | nil =>
      rw [List.mapM_nil, List.forall₂_nil_left_iff]
      simp [eq_comm]
  | cons a as ih =>
      rw [List.mapM_cons, bind_eq_ok_iff, List.forall₂_cons_left_iff]
      constructor
      · rintro ⟨b, hb, h⟩
        obtain ⟨rest, hrest, h⟩ := bind_eq_ok_iff.mp h
        cases h
        exact ⟨b, rest, hb, ih.mp hrest, rfl⟩
      · rintro ⟨b, rest, hb, hrest, rfl⟩
        exact ⟨b, hb, bind_eq_ok_iff.mpr ⟨rest, ih.mpr hrest, rfl⟩⟩

/-- In a list that is visited from its end, the last entry that fails decides the
error. -/
theorem mapM_visited_eq_error_iff {f : α × Nat → Except ε β} {as : List α}
    {e : ε} :
    as.zipIdx.reverse.mapM f = .error e ↔ ∃ i a, as[i]? = some a ∧
      f (a, i) = .error e ∧ ∀ j b, i < j → as[j]? = some b → ∃ r, f (b, j) = .ok r := by
  induction as using List.reverseRecOn with
  | nil => simp
  | append_singleton as a ih =>
      have hget : ∀ i b, (as ++ [a])[i]? = some b ↔
          as[i]? = some b ∨ (i = as.length ∧ a = b) := by
        grind
      have hlt : ∀ i b, as[i]? = some b → i < as.length :=
        fun i b hb => (List.getElem?_eq_some_iff.mp hb).1
      rw [List.zipIdx_append, List.reverse_append]
      simp only [List.zipIdx_singleton, List.reverse_singleton, List.singleton_append,
        Nat.zero_add, List.mapM_cons]
      cases hfirst : f (a, as.length) with
      | error e' =>
          rw [error_bind]
          constructor
          · rintro ⟨⟩
            refine ⟨as.length, a, by simp, hfirst, fun j b hj hb => ?_⟩
            rcases (hget j b).mp hb with hb | ⟨rfl, -⟩
            · exact absurd (hlt j b hb) (by omega)
            · exact absurd hj (by omega)
          · rintro ⟨i, b, hb, hfails, hlater⟩
            rcases (hget i b).mp hb with hb | ⟨rfl, rfl⟩
            · obtain ⟨r, hr⟩ := hlater _ a (hlt i b hb) (by simp)
              rw [hfirst] at hr
              cases hr
            · rw [hfirst] at hfails
              cases hfails
              rfl
      | ok r =>
          have hrest : ((as.zipIdx.reverse.mapM f) >>= fun rs => pure (r :: rs)) =
              .error e ↔ as.zipIdx.reverse.mapM f = .error e := by
            cases as.zipIdx.reverse.mapM f <;> simp
          rw [ok_bind, hrest, ih]
          constructor
          · rintro ⟨i, b, hb, hfails, hlater⟩
            refine ⟨i, b, (hget i b).mpr (.inl hb), hfails, fun j c hj hc => ?_⟩
            rcases (hget j c).mp hc with hc | ⟨rfl, rfl⟩
            · exact hlater j c hj hc
            · exact ⟨r, hfirst⟩
          · rintro ⟨i, b, hb, hfails, hlater⟩
            rcases (hget i b).mp hb with hb | ⟨rfl, rfl⟩
            · exact ⟨i, b, hb, hfails,
                fun j c hj hc => hlater j c hj ((hget j c).mpr (.inl hc))⟩
            · rw [hfirst] at hfails
              cases hfails

theorem exists_of_forall₂_right {R : α → β → Prop} {as : List α} {bs : List β}
    (h : List.Forall₂ R as bs) {b : β} (hb : b ∈ bs) : ∃ a ∈ as, R a b := by
  induction h with
  | nil => cases hb
  | cons hab _ ih =>
      rcases List.mem_cons.mp hb with rfl | hb
      · exact ⟨_, List.mem_cons_self, hab⟩
      · obtain ⟨a, ha, hr⟩ := ih hb
        exact ⟨a, List.mem_cons_of_mem _ ha, hr⟩

/-- Something for each element of a list is a list of them. -/
theorem exists_forall₂ {R : α → β → Prop} {as : List α}
    (h : ∀ a ∈ as, ∃ b, R a b) : ∃ bs, List.Forall₂ R as bs := by
  induction as with
  | nil => exact ⟨[], .nil⟩
  | cons a as ih =>
      obtain ⟨⟨b, hb⟩, has⟩ := List.forall_mem_cons.mp h
      obtain ⟨bs, hbs⟩ := ih has
      exact ⟨b :: bs, .cons hb hbs⟩

end QueryBind
