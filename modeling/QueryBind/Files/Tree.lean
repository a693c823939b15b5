import QueryBind.Text.Pieces

/-!
# The tree of files

Folders, files and links, and the walk that a path describes. A place is the list of the names that
lead to it from the root. A walk goes from folder to folder, part by part; it passes through
nothing but folders, goes up with two points, and stays at the root if it goes up there. Where it
meets a link it starts anew from the root towards the place the link names. It follows no more
than `maxLinks` links, so it ends even where links lead in circles.

A name that is not known is written as the empty name, which no path contains.
-/

namespace QueryBind.Files

/-! ## Places -/

/-- The names that lead to a place from the root. -/
abbrev Place := List String

/-- What there can be at a place. -/
inductive Node where
  | folder
  | text (content : String)
  /-- The standard input, read like a file. -/
  | input
  | link (place : Place)
  deriving DecidableEq, Repr

/-- What there is at places. The folders on the way to a place need no entry. -/
abbrev Tree := List (Place × Node)

namespace Tree

def node? (t : Tree) (place : Place) : Option Node :=
  match List.lookup place t with
  | some node => some node
  | none => if t.any fun entry => place.isPrefixOf entry.1 then some .folder else none

/-! ## Walks -/

/-- The place that the parts of a path lead to. What follows the first link is left to `follow`. -/
def walkWith (t : Tree) (follow : List String → Option Place) (place : Place) :
    List String → Option Place
  | [] => some place
  | part :: rest =>
    if t.node? place ≠ some .folder then none
    else if part = "." then t.walkWith follow place rest
    else if part = ".." then t.walkWith follow place.dropLast rest
    else
      match t.node? (place ++ [part]) with
      | none => none
      | some (.link target) => follow (target ++ rest)
      | some _ => t.walkWith follow (place ++ [part]) rest

/-- The place that the parts of a path lead to past a number of links at most. -/
def walk (t : Tree) : Nat → Place → List String → Option Place
  | 0, place, parts => t.walkWith (fun _ => none) place parts
  | links + 1, place, parts => t.walkWith (t.walk links []) place parts

end Tree

/-! ## Paths -/

/-- The most links that are followed for one path. -/
def maxLinks : Nat := 40

/-- The most bytes of a path. -/
def maxPathSize : Nat := 4095

/-- The parts of a path between its slashes. An empty part means the folder itself, like a
point. -/
def pathParts (path : String) : List String :=
  (Text.pieces '/' path.toList).map fun part => if part.isEmpty then "." else String.ofList part

/-- What a path leads to, from a folder or from the root where it begins with a slash. -/
def Tree.find? (t : Tree) (place : Place) (path : String) : Option Node :=
  if path.isEmpty || path.utf8ByteSize > maxPathSize then none
  else
    let start := if path.startsWith "/" then [] else place
    (t.walk maxLinks start (pathParts path)).bind t.node?

end QueryBind.Files
