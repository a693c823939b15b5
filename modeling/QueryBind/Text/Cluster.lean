import QueryBind.Text.ClusterData
import QueryBind.Text.Lowercase

/-!
# Clusters

What a reader takes for one character may be several: a letter with its accents, a flag, a family
of joined pictographs, a syllable. `clusters` divides a text into such extended grapheme clusters
by the default rules of Unicode. Whether a character belongs to the cluster before it depends on
that cluster alone, which `joins` is given with its last character first.
-/

namespace QueryBind.Text

/-! ## Classes -/

/-- How a character behaves at the boundary of a cluster. The five classes from `leading` on make
up Hangul syllables. -/
inductive ClusterClass where
  | control | extend | joiner | spacing | prepend | regional | pictograph | consonant
  | leading | vowel | trailing | openSyllable | closedSyllable
  | plain
  deriving DecidableEq, Repr

/-- The class of a character. A Hangul syllable is open, without a trailing consonant, where it
begins a group of 28. -/
def clusterClass (c : Char) : ClusterClass :=
  let n := c.toNat
  if 0x20 ≤ n ∧ n < 0x7F then .plain
  else if c = '\r' ∨ c = '\n' ∨ inRuns controlRuns c then .control
  else if n = 0x200D then .joiner
  else if inRuns extendRuns c then .extend
  else if inRuns spacingRuns c then .spacing
  else if inRuns prependRuns c then .prepend
  else if 0x1F1E6 ≤ n ∧ n ≤ 0x1F1FF then .regional
  else if (0x1100 ≤ n ∧ n ≤ 0x115F) ∨ (0xA960 ≤ n ∧ n ≤ 0xA97C) then .leading
  else if inRuns vowelRuns c then .vowel
  else if (0x11A8 ≤ n ∧ n ≤ 0x11FF) ∨ (0xD7CB ≤ n ∧ n ≤ 0xD7FB) then .trailing
  else if 0xAC00 ≤ n ∧ n ≤ 0xD7A3 then
    if (n - 0xAC00) % 28 = 0 then .openSyllable else .closedSyllable
  else if inRuns pictographRuns c then .pictograph
  else if inRuns consonantRuns c then .consonant
  else .plain

def isLinker (c : Char) : Bool := inRuns linkerRuns c

/-- Characters that may stand between a consonant, its linker and the next consonant. The zero
width non-joiner is none of them. -/
def isConjunctFiller (c : Char) : Bool :=
  (clusterClass c == .extend || clusterClass c == .joiner) && c.toNat != 0x200C

/-! ## Boundaries -/

/-- A pictograph stands before a joiner, with nothing but extending characters in between. -/
def endsInPictograph (before : List Char) : Bool :=
  match before.dropWhile (clusterClass · == .extend) with
  | [] => false
  | c :: _ => clusterClass c == .pictograph

/-- A consonant stands before fillers one of which at least is a linker. -/
def endsInConjunct (before : List Char) : Bool :=
  (before.takeWhile isConjunctFiller).any isLinker &&
    match before.dropWhile isConjunctFiller with
    | [] => false
    | c :: _ => clusterClass c == .consonant

/-- An odd number of regional indicators stands at the end; two of them make a flag. -/
def endsInHalfFlag (before : List Char) : Bool :=
  (before.takeWhile (clusterClass · == .regional)).length % 2 == 1

/-- The character `c` belongs to the cluster whose characters so far are `before`, the last one
first. -/
def joins (before : List Char) (c : Char) : Bool :=
  match before with
  | [] => false
  | last :: earlier =>
    match clusterClass last, clusterClass c with
    | .control, _ => last == '\r' && c == '\n'
    | _, .control => false
    | .leading, .leading | .leading, .vowel | .leading, .openSyllable
    | .leading, .closedSyllable => true
    | .openSyllable, .vowel | .openSyllable, .trailing | .vowel, .vowel
    | .vowel, .trailing => true
    | .closedSyllable, .trailing | .trailing, .trailing => true
    | _, .extend | _, .joiner | _, .spacing => true
    | .prepend, _ => true
    | .joiner, .pictograph => endsInPictograph earlier
    | .regional, .regional => endsInHalfFlag before
    | _, .consonant => endsInConjunct before
    | _, _ => false

/-! ## Clusters -/

/-- The clusters of a text, the first of which begins with the characters `before`, the last one
first. -/
def clustersFrom (before : List Char) : List Char → List (List Char)
  | [] => [before.reverse]
  | c :: cs =>
    if joins before c then clustersFrom (c :: before) cs
    else before.reverse :: clustersFrom [c] cs

/-- The clusters of a text, in order. -/
def clusters : List Char → List (List Char)
  | [] => []
  | c :: cs => clustersFrom [c] cs

end QueryBind.Text
