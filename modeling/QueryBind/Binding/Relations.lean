import QueryBind.Schema.Catalog
import QueryBind.Settings

/-!
# Relations

The tables of a FROM list, in its order, each with the name it was listed by. A name stands for
the *last* entry listed by it. A list of exactly one entry has a default table, which names
without a qualifier belong to.

The names are also the keys of a hash map, which is made anew for every binding. It gives each of
them out once, in an order of its own that nothing says anything about, so this order is taken
as a parameter of the binding.
-/

namespace QueryBind

open Text

/-! ## Enumerations -/

/-- The order in which a map gives out the names that were put in: each of them once. -/
structure Enumeration where
  order : List String → List String
  nodup : ∀ names, (order names).Nodup
  mem_order : ∀ names name, name ∈ order names ↔ name ∈ names

theorem nodup_eraseDups (names : List String) : names.eraseDups.Nodup := by
  match names with
  | [] => simp
  | name :: rest =>
    rw [List.eraseDups_cons, List.nodup_cons]
    refine ⟨by simp [List.mem_eraseDups], ?_⟩
    have hshorter := List.length_filter_le (fun other => !(other == name)) rest
    exact nodup_eraseDups _
  termination_by names.length
  decreasing_by
    rw [List.length_cons]
    omega

/-- The names as they were put in. -/
def Enumeration.listed : Enumeration :=
  ⟨List.eraseDups, nodup_eraseDups, fun _ _ => List.mem_eraseDups⟩

/-- The enumerations of the maps that statements make in turn. -/
abbrev Enumerations := Nat → Enumeration

namespace Enumerations

def listed : Enumerations := fun _ => .listed

/-- What is left for the statements after the first. -/
def tail (keys : Enumerations) : Enumerations := fun i => keys (i + 1)

end Enumerations

/-! ## Relations -/

/-- The table of the last entry with a name. -/
def lastNamed? (entries : List (String × Table)) (name : String) : Option Table :=
  (entries.reverse.find? (·.1 == name)).map (·.2)

structure Relations where
  entries : List (String × Table)
  enumeration : Enumeration

namespace Relations

/-- The tables in the order of the list, repeated ones as often as they are listed. -/
def tables (r : Relations) : List Table := r.entries.map (·.2)

def names (r : Relations) : List String := r.entries.map (·.1)

/-- The names in the order in which they are enumerated. -/
def keys (r : Relations) : List String := r.enumeration.order r.names

/-- The table that a name stands for. -/
def find? (r : Relations) (name : String) : Option Table := lastNamed? r.entries name

/-- The only table of the list. -/
def default? (r : Relations) : Option Table :=
  match r.entries with
  | [(_, t)] => some t
  | _ => none

/-- The entries of a list of names that follow those of `listed`. A blank name is refused before
an unknown one, and an unknown one before a repeated one. -/
def resolveFrom (source : TableSource) (policy : RepeatPolicy) (listed : List String) :
    List String → Except Error (List (String × Table))
  | [] => .ok []
  | name :: rest =>
    if isBlank name then .error (.blankRelation listed.length)
    else
      match source.find? name with
      | none => .error (.tableMissing name source.name)
      | some t =>
        if policy = .reject ∧ name ∈ listed then .error (.repeatedRelation name listed.length)
        else (resolveFrom source policy (listed ++ [name]) rest).map ((name, t) :: ·)

/-- The relations of a FROM list. -/
def resolve (source : TableSource) (policy : RepeatPolicy) (names : List String)
    (keys : Enumeration) : Except Error Relations :=
  (resolveFrom source policy [] names).map (⟨·, keys⟩)

end Relations

end QueryBind
