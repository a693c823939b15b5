import Mathlib.Data.List.Induction
import QueryBind.Proofs.Number.Comparison
import QueryBind.Proofs.Text.Scores

/-!
# Suggestions and the order of candidates

`nearest?` goes through the candidates once and keeps the best one so far. A later
candidate replaces it only if its score is greater, so that what is kept is the first of
the candidates that no other one exceeds. Which of them that is depends on the order
exactly if there is more than one.

## Main definitions

- `Reaches`: a candidate that may be suggested for a name.
- `IsBest`: a candidate that may be suggested, and none that may has a greater score.
- `FirstBest`: the candidate is best, and stands before all others that are.

## Main results

- `nearest?_eq_some_iff`, `nearest?_eq_none_iff`: what the search finds.
- `nearest?_orders`: what it finds in the other orders of the candidates.
-/

namespace QueryBind.Text

open Floats

/-! ## The best candidates -/

/-- How alike a candidate is to a name when the case of letters is left aside. -/
def score (name c : String) : Float :=
  resemblance (lowercase name).toList (lowercase c).toList

/-- The candidate is not the name itself, and alike enough. -/
def Reaches (name c : String) : Prop := c ≠ name ∧ resemblanceFloor ≤ score name c

instance (name c : String) : Decidable (Reaches name c) := inferInstanceAs (Decidable (_ ∧ _))

/-- The candidate reaches the floor, and no candidate that does has a greater score. -/
structure IsBest (name : String) (cs : List String) (s : String) : Prop where
  mem : s ∈ cs
  reaches : Reaches name s
  greatest : ∀ c ∈ cs, Reaches name c → score name c ≤ score name s

/-- The candidate is best, and none that stands before it is. -/
def FirstBest (name : String) (cs : List String) (s : String) : Prop :=
  ∃ before after, cs = before ++ s :: after ∧ IsBest name cs s ∧ ∀ c ∈ before, ¬ IsBest name cs c

/-- In lower case, the text is short enough for each of its characters to have an address. -/
def IsAddressable (s : String) : Prop := (lowercase s).length < 2 ^ 63

instance (s : String) : Decidable (IsAddressable s) := inferInstanceAs (Decidable (_ < _))

section Best

variable {name s s' : String} {cs cs' : List String}

theorem FirstBest.isBest (h : FirstBest name cs s) : IsBest name cs s := by
  obtain ⟨_, _, -, hbest, -⟩ := h
  exact hbest

theorem IsBest.perm (h : IsBest name cs s) (hperm : cs.Perm cs') : IsBest name cs' s where
  mem := hperm.mem_iff.mp h.mem
  reaches := h.reaches
  greatest c hc := h.greatest c (hperm.mem_iff.mpr hc)

theorem IsBest.of_append {rest : List String} (h : IsBest name (cs ++ rest) s) (hs : s ∈ cs) :
    IsBest name cs s where
  mem := hs
  reaches := h.reaches
  greatest c hc := h.greatest c (List.mem_append_left rest hc)

/-- Of two places in a list, one is before the other or they are the same. -/
theorem eq_or_mem_of_append_eq {before after before' after' : List String}
    (h : before ++ s :: after = before' ++ s' :: after') : s = s' ∨ s ∈ before' ∨ s' ∈ before := by
  obtain ⟨mid, heq, hrest⟩ | ⟨mid, heq, hrest⟩ := List.append_eq_append_iff.mp h
  · cases mid with
    | nil => exact .inl (List.cons.inj hrest).1
    | cons c mid =>
        obtain rfl : s = c := (List.cons.inj hrest).1
        exact .inr (.inl (by simp [heq]))
  · cases mid with
    | nil => exact .inl (List.cons.inj hrest).1.symm
    | cons c mid =>
        obtain rfl : s' = c := (List.cons.inj hrest).1
        exact .inr (.inr (by simp [heq]))

theorem FirstBest.unique (h : FirstBest name cs s) (h' : FirstBest name cs s') : s = s' := by
  obtain ⟨before, after, hcs, hbest, hnone⟩ := h
  obtain ⟨before', after', hcs', hbest', hnone'⟩ := h'
  rcases eq_or_mem_of_append_eq (hcs.symm.trans hcs') with heq | hmem | hmem
  · exact heq
  · exact absurd hbest (hnone' s hmem)
  · exact absurd hbest' (hnone s' hmem)

/-- Each of the best candidates is the first of them in some order. -/
theorem IsBest.exists_firstBest (h : IsBest name cs s) :
    ∃ cs', cs.Perm cs' ∧ FirstBest name cs' s := by
  have hperm : cs.Perm (s :: cs.erase s) := List.perm_cons_erase h.mem
  exact ⟨_, hperm, [], _, rfl, h.perm hperm, fun c hc => nomatch hc⟩

end Best

/-! ## Scores of addressable names -/

theorem resemblanceFloor_finite : resemblanceFloor.isFinite := by
  have hunpack : (0.8 : Float).toModel.unpack =
      .finite .positive 7205759403792794 (-53) (by decide) := rfl
  change (0.8 : Float).toModel.unpack.isFinite = true
  rw [hunpack]
  rfl

section Scores

variable {name c s : String} {cs : List String}

theorem score_finite (hname : IsAddressable name) (hc : IsAddressable c) :
    (score name c).isFinite := by
  have hlen : ∀ {s : String}, IsAddressable s → (lowercase s).toList.length < 2 ^ 63 := fun h => by
    rw [String.length_toList]
    exact h
  exact (resemblance_below (hlen hname) (hlen hc)).isFinite

/-! ## One step of the search -/

theorem betterOf_of_not_reaches (hname : IsAddressable name) (hc : IsAddressable c)
    (h : ¬ Reaches name c) (best : Option (String × Float)) : betterOf name best c = best := by
  unfold betterOf
  split
  · rfl
  · next hne =>
      have hlt : score name c < resemblanceFloor :=
        (lt_iff_not_le (score_finite hname hc) resemblanceFloor_finite).mpr fun hle => h ⟨hne, hle⟩
      exact if_pos hlt

theorem betterOf_of_reaches (hname : IsAddressable name) (hc : IsAddressable c) (h : Reaches name c)
    (best : Option (String × Float)) :
    betterOf name best c = match best with
      | some (held, top) =>
          if score name c ≤ top then some (held, top) else some (c, score name c)
      | none => some (c, score name c) := by
  have hge : ¬ score name c < resemblanceFloor := fun hlt =>
    (lt_iff_not_le (score_finite hname hc) resemblanceFloor_finite).mp hlt h.2
  unfold betterOf
  rw [if_neg h.1]
  exact if_neg hge

/-- What is kept when these candidates have been seen: the first of the best with its
score, or nothing if none of them reaches the floor. -/
def Kept (name : String) (seen : List String) : Option (String × Float) → Prop
  | none => ∀ c ∈ seen, ¬ Reaches name c
  | some (s, top) => top = score name s ∧ FirstBest name seen s

theorem FirstBest.append (h : FirstBest name cs s)
    (hle : Reaches name c → score name c ≤ score name s) : FirstBest name (cs ++ [c]) s := by
  obtain ⟨before, after, hcs, hbest, hnone⟩ := h
  refine ⟨before, after ++ [c], by simp [hcs], ?_, fun c' hc' hbest' => ?_⟩
  · refine ⟨List.mem_append_left _ hbest.mem, hbest.reaches, fun c' hc' hreaches => ?_⟩
    rcases List.mem_append.mp hc' with hold | hnew
    · exact hbest.greatest c' hold hreaches
    · obtain rfl := List.mem_singleton.mp hnew
      exact hle hreaches
  · exact hnone c' hc' (hbest'.of_append (hcs ▸ List.mem_append_left _ hc'))

theorem firstBest_append_self (hname : IsAddressable name) (hc : IsAddressable c)
    (h : Reaches name c) (hcs : ∀ c' ∈ cs, IsAddressable c')
    (hlt : ∀ c' ∈ cs, Reaches name c' → score name c' < score name c) :
    FirstBest name (cs ++ [c]) c := by
  have hfin := score_finite hname hc
  refine ⟨cs, [], rfl, ⟨by simp, h, fun c' hc' hreaches => ?_⟩, fun c' hc' hbest => ?_⟩
  · rcases List.mem_append.mp hc' with hold | hnew
    · exact le_of_lt_of_finite (score_finite hname (hcs c' hold)) hfin (hlt c' hold hreaches)
    · obtain rfl := List.mem_singleton.mp hnew
      exact le_refl_of_finite hfin
  · have hle : score name c ≤ score name c' := hbest.greatest c (by simp) h
    exact (lt_iff_not_le (score_finite hname (hcs c' hc')) hfin).mp (hlt c' hc' hbest.reaches) hle

/-- One more candidate keeps what is kept the first of the best. -/
theorem Kept.step {best : Option (String × Float)} (hname : IsAddressable name)
    (hcs : ∀ c' ∈ cs, IsAddressable c') (hc : IsAddressable c) (h : Kept name cs best) :
    Kept name (cs ++ [c]) (betterOf name best c) := by
  have hfin := score_finite hname hc
  by_cases hreaches : Reaches name c
  · rw [betterOf_of_reaches hname hc hreaches]
    cases best with
    | none => exact ⟨rfl, firstBest_append_self hname hc hreaches hcs
        fun c' hc' hr => absurd hr (h c' hc')⟩
    | some held =>
        obtain ⟨s, top⟩ := held
        obtain ⟨rfl, hfirst⟩ := h
        have hs := score_finite hname (hcs s hfirst.isBest.mem)
        dsimp only
        split
        · next hle => exact ⟨rfl, hfirst.append fun _ => hle⟩
        · next hgt =>
            have hlt : score name s < score name c := (lt_iff_not_le hs hfin).mpr hgt
            refine ⟨rfl, firstBest_append_self hname hc hreaches hcs fun c' hc' hr => ?_⟩
            have hc'fin := score_finite hname (hcs c' hc')
            refine (lt_iff_not_le hc'fin hfin).mpr fun hle => hgt ?_
            exact le_of_finite_trans hfin hc'fin hs hle (hfirst.isBest.greatest c' hc' hr)
  · rw [betterOf_of_not_reaches hname hc hreaches]
    cases best with
    | none =>
        intro c' hc'
        rcases List.mem_append.mp hc' with hold | hnew
        · exact h c' hold
        · exact List.mem_singleton.mp hnew ▸ hreaches
    | some held => exact ⟨h.1, h.2.append fun hr => absurd hr hreaches⟩

/-! ## The whole search -/

theorem kept_foldl (hname : IsAddressable name) (hcs : ∀ c ∈ cs, IsAddressable c) :
    Kept name cs (cs.foldl (betterOf name) none) := by
  induction cs using List.reverseRecOn with
  | nil => exact fun c hc => nomatch hc
  | append_singleton cs c ih =>
      have hseen : ∀ c' ∈ cs, IsAddressable c' := fun c' hc' => hcs c' (List.mem_append_left _ hc')
      rw [List.foldl_append]
      exact (ih hseen).step hname hseen (hcs c (by simp))

theorem nearest?_eq_some_iff (hname : IsAddressable name) (hcs : ∀ c ∈ cs, IsAddressable c) :
    nearest? name cs = some s ↔ FirstBest name cs s := by
  have hkept := kept_foldl hname hcs
  unfold nearest?
  cases hbest : cs.foldl (betterOf name) none with
  | none =>
      rw [hbest] at hkept
      refine iff_of_false nofun fun hfirst => ?_
      exact hkept s hfirst.isBest.mem hfirst.isBest.reaches
  | some held =>
      rw [hbest] at hkept
      constructor
      · rintro ⟨rfl⟩
        exact hkept.2
      · intro hfirst
        exact congrArg some (hkept.2.unique hfirst)

theorem nearest?_eq_none_iff (hname : IsAddressable name) (hcs : ∀ c ∈ cs, IsAddressable c) :
    nearest? name cs = none ↔ ∀ c ∈ cs, ¬ Reaches name c := by
  have hkept := kept_foldl hname hcs
  unfold nearest?
  cases hbest : cs.foldl (betterOf name) none with
  | none =>
      rw [hbest] at hkept
      exact iff_of_true rfl hkept
  | some held =>
      rw [hbest] at hkept
      refine iff_of_false nofun fun hnone => ?_
      exact hnone held.1 hkept.2.isBest.mem hkept.2.isBest.reaches

end Scores

/-! ## Other orders -/

section Orders

variable {name s : String} {cs cs' : List String}

theorem nearest?_perm_eq_some (hname : IsAddressable name) (hcs : ∀ c ∈ cs, IsAddressable c)
    (hperm : cs.Perm cs') : nearest? name cs' = some s ↔ FirstBest name cs' s :=
  nearest?_eq_some_iff hname fun c hc => hcs c (hperm.mem_iff.mpr hc)

theorem nearest?_perm_eq_none (hname : IsAddressable name) (hcs : ∀ c ∈ cs, IsAddressable c)
    (hperm : cs.Perm cs') : nearest? name cs' = none ↔ nearest? name cs = none := by
  have hcs' : ∀ c ∈ cs', IsAddressable c := fun c hc => hcs c (hperm.mem_iff.mpr hc)
  rw [nearest?_eq_none_iff hname hcs, nearest?_eq_none_iff hname hcs']
  exact ⟨fun h c hc => h c (hperm.mem_iff.mp hc), fun h c hc => h c (hperm.mem_iff.mpr hc)⟩

theorem nearest?_perm_eq_iff (hname : IsAddressable name) (hcs : ∀ c ∈ cs, IsAddressable c) :
    (∀ cs', cs.Perm cs' → nearest? name cs' = nearest? name cs) ↔
      ∀ s s', IsBest name cs s → IsBest name cs s' → s = s' := by
  constructor
  · intro hsame s s' hbest hbest'
    have hfound : ∀ {s}, IsBest name cs s → nearest? name cs = some s := fun hs => by
      obtain ⟨cs', hperm, hfirst⟩ := hs.exists_firstBest
      rw [← hsame cs' hperm]
      exact (nearest?_perm_eq_some hname hcs hperm).mpr hfirst
    exact Option.some.inj ((hfound hbest).symm.trans (hfound hbest'))
  · intro hone cs' hperm
    cases h : nearest? name cs with
    | none => exact (nearest?_perm_eq_none hname hcs hperm).mpr h
    | some s =>
        cases h' : nearest? name cs' with
        | none =>
            rw [(nearest?_perm_eq_none hname hcs hperm).mp h'] at h
            cases h
        | some s' =>
            have hbest := ((nearest?_eq_some_iff hname hcs).mp h).isBest
            have hbest' := ((nearest?_perm_eq_some hname hcs hperm).mp h').isBest
            rw [hone s s' hbest (hbest'.perm hperm.symm)]

end Orders

/-- **The first of the best is suggested.** A name is suggested in every order of the
candidates or in none of them, and it is the first, in that order, of those with the
greatest score. It is the same in all orders exactly if no two different candidates are
best. -/
theorem nearest?_orders (name : String) (cs : List String) (hname : IsAddressable name)
    (hcs : ∀ c ∈ cs, IsAddressable c) :
    (∀ cs', cs.Perm cs' → (nearest? name cs' = none ↔ nearest? name cs = none) ∧
      ∀ s, nearest? name cs' = some s ↔ FirstBest name cs' s) ∧
    (nearest? name cs = none ↔ ∀ c ∈ cs, ¬ Reaches name c) ∧
    ((∀ cs', cs.Perm cs' → nearest? name cs' = nearest? name cs) ↔
      ∀ s s', IsBest name cs s → IsBest name cs s' → s = s') := by
  refine ⟨fun cs' hperm => ⟨?_, fun s => ?_⟩, ?_, ?_⟩
  · exact nearest?_perm_eq_none hname hcs hperm
  · exact nearest?_perm_eq_some hname hcs hperm
  · exact nearest?_eq_none_iff hname hcs
  · exact nearest?_perm_eq_iff hname hcs

/-- Only one of these names is alike enough, so that their order does not matter. -/
theorem nearest?_orders_only_one :
    nearest? "nmae" ["id", "name", "age"] = some "name" ∧
      ∀ cs', ["id", "name", "age"].Perm cs' →
        nearest? "nmae" cs' = nearest? "nmae" ["id", "name", "age"] := by
  have honly : ∀ c ∈ ["id", "name", "age"], Reaches "nmae" c → c = "name" := by decide +kernel
  obtain ⟨-, -, horders⟩ := nearest?_orders "nmae" ["id", "name", "age"] (by decide) (by decide)
  refine ⟨by decide +kernel, horders.mpr fun s s' hs hs' => ?_⟩
  rw [honly s hs.mem hs.reaches, honly s' hs'.mem hs'.reaches]

/-- Two candidates that differ only in the case of a letter are equally good: the one that
stands first is suggested. -/
theorem nearest?_depends_on_order :
    ["Ab", "AB"].Perm ["AB", "Ab"] ∧
      nearest? "ab" ["Ab", "AB"] = some "Ab" ∧ nearest? "ab" ["AB", "Ab"] = some "AB" :=
  ⟨List.Perm.swap _ _ _, by decide +kernel, by decide +kernel⟩

end QueryBind.Text
