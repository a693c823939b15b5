import QueryBind.Text.Lowercase

/-!
# Resemblance of names

How alike two names are, on the scale of Jaro and Winkler, and the name of a list that is most
like a given one. The scale counts characters that occur in both names close to each other,
takes off for those that changed places, and favours a common beginning. `nearest?` compares in
lower case and gives the *first* of the best candidates, if one reaches `resemblanceFloor`.
-/

namespace QueryBind.Text

/-! ## The Jaro scale -/

/-- Marks the first unmarked `c` of `bs` whose place is from `lo` up to but not including `hi`;
`j` is the place of the head of `bs`. Gives nothing if there is none. -/
def markFirst (c : Char) (lo hi : Nat) : Nat → List (Char × Bool) → Option (List (Char × Bool))
  | _, [] => none
  | j, (b, marked) :: bs =>
    if hi ≤ j then none
    else if lo ≤ j && b == c && !marked then some ((b, true) :: bs)
    else (markFirst c lo hi (j + 1) bs).map ((b, marked) :: ·)

/-- Pairs the characters of a first name, from left to right, each with the first free equal one
of the second name at most `reach` places away. Gives the paired characters of the first name
and the second name with its paired characters marked. -/
def pairUp (reach : Nat) :
    Nat → List Char → List (Char × Bool) → List Char × List (Char × Bool)
  | _, [], bs => ([], bs)
  | i, a :: as, bs =>
    match markFirst a (i - reach) (i + reach + 1) 0 bs with
    | none => pairUp reach (i + 1) as bs
    | some bs' =>
      let (found, marked) := pairUp reach (i + 1) as bs'
      (a :: found, marked)

/-- Number of places at which two lists of paired characters differ. -/
def misplaced (as bs : List Char) : Nat :=
  (as.zip bs).countP fun (a, b) => a != b

/-- The Jaro scale: 1 for equal names, 0 for names without a common character. -/
def jaro (as bs : List Char) : Float :=
  if as.isEmpty && bs.isEmpty then 1.0
  else if as.isEmpty || bs.isEmpty then 0.0
  else
    let reach := max as.length bs.length / 2 - 1
    let (found, marked) := pairUp reach 0 as (bs.map fun b => (b, false))
    let swaps := misplaced found ((marked.filter (·.2)).map (·.1)) / 2
    if found.isEmpty then 0.0
    else
      let m := Float.ofNat found.length
      (m / Float.ofNat as.length + m / Float.ofNat bs.length +
        Float.ofNat (found.length - swaps) / m) / 3.0

/-! ## The common beginning -/

/-- Length of the common beginning of two lists. -/
def commonStart : List Char → List Char → Nat
  | a :: as, b :: bs => if a = b then commonStart as bs + 1 else 0
  | _, _ => 0

/-- The Jaro scale with a bonus of a tenth of what is missing for each of the first four
characters, if they agree and the names are alike at all. -/
def resemblance (as bs : List Char) : Float :=
  let scale := jaro as bs
  if scale > 0.7 then
    scale + 0.1 * Float.ofNat (commonStart (as.take 4) (bs.take 4)) * (1.0 - scale)
  else scale

/-! ## The nearest name -/

/-- The least resemblance at which a name is worth suggesting. -/
def resemblanceFloor : Float := 0.8

/-- One step of the search: a candidate replaces the best one so far only if it is more alike. -/
def betterOf (name : String) (best : Option (String × Float)) (candidate : String) :
    Option (String × Float) :=
  if candidate = name then best
  else
    let score := resemblance (lowercase name).toList (lowercase candidate).toList
    if score < resemblanceFloor then best
    else
      match best with
      | some (held, top) => if top ≥ score then some (held, top) else some (candidate, score)
      | none => some (candidate, score)

/-- The candidate most like `name`, other than `name` itself, if one is alike enough. Of equally
good candidates the first is taken. -/
def nearest? (name : String) (candidates : List String) : Option String :=
  (candidates.foldl (betterOf name) none).map (·.1)

end QueryBind.Text
