import QueryBind.Files.Tree
import QueryBind.Shell.Arguments

/-!
# Surroundings

What a run finds around it: the files of its working folder, its standard input and the common part
of the system's own tree of files. The standard input can be read like a file, but once only: what
is read there is gone.
-/

namespace QueryBind.Shell

open Files

/-! ## The system -/

/-- The working folder lies in the folder for temporary files, under a name that is not known. -/
def workingFolder : Place := ["tmp", ""]

/-- What the system shows of a run at one of its places: its name, its working folder, the root and
its standard input. The input itself has a name that is not known. -/
def runTree (place : Place) : Tree :=
  [(place ++ ["comm"], .text (programName ++ "\n")),
    (place ++ ["cwd"], .link workingFolder), (place ++ ["root"], .link []),
    (place ++ ["fd", "0"], .link (place ++ ["fd", ""])), (place ++ ["fd", ""], .input),
    (place ++ ["fdinfo"], .folder), (place ++ ["ns"], .folder), (place ++ ["attr"], .folder),
    (place ++ ["net"], .folder)]

/-- What is found on a system whatever else is there. Devices without an end are left out. -/
def systemTree : Tree :=
  [(workingFolder, .folder),
    (["dev", "null"], .text ""), (["dev", "stdin"], .link ["proc", "self", "fd", "0"]),
    (["dev", "fd"], .link ["proc", "self", "fd"]), (["dev", "shm"], .folder),
    (["dev", "pts"], .folder),
    (["proc", "self"], .link ["proc", ""]),
    (["proc", "thread-self"], .link ["proc", "", "task", ""]),
    (["proc", "net"], .link ["proc", "self", "net"]), (["proc", "sys"], .folder),
    (["bin"], .link ["usr", "bin"]), (["sbin"], .link ["usr", "sbin"]),
    (["lib"], .link ["usr", "lib"]), (["lib64"], .link ["usr", "lib64"]),
    (["usr", "bin"], .folder), (["usr", "sbin"], .folder), (["usr", "lib"], .folder),
    (["usr", "lib64"], .folder),
    (["usr", "local", "bin"], .folder), (["usr", "share"], .folder),
    (["var", "run"], .link ["run"]), (["var", "lock"], .link ["run", "lock"]),
    (["var", "tmp"], .folder), (["var", "lib"], .folder), (["var", "log"], .folder),
    (["var", "cache"], .folder), (["run", "lock"], .folder),
    (["boot"], .folder), (["etc"], .folder), (["home"], .folder), (["media"], .folder),
    (["mnt"], .folder), (["opt"], .folder), (["root"], .folder), (["srv"], .folder),
    (["sys"], .folder)] ++ runTree ["proc", ""] ++ runTree ["proc", "", "task", ""]

/-! ## Reading -/

/-- The texts of the files in the working folder, by their paths from there, and the text of the
standard input that has not been read. -/
structure Surroundings where
  files : List (String × String)
  input : String

namespace Surroundings

def tree (s : Surroundings) : Tree :=
  (s.files.map fun (path, text) =>
    (workingFolder ++ (pathParts path).filter (· != "."), .text text)) ++ systemTree

/-- The text that a path leads to, and what is left to read. -/
def read (s : Surroundings) (path : String) : Option String × Surroundings :=
  match s.tree.find? workingFolder path with
  | some (.text text) => (some text, s)
  | some .input => (some s.input, { s with input := "" })
  | _ => (none, s)

/-- The text of a file, if a path is given. -/
def readGiven (s : Surroundings) (path : Option String) : Option String × Surroundings :=
  match path with
  | none => (none, s)
  | some path => s.read path

end Surroundings

/-- The texts of the files that options name, where they can be read. -/
structure FileTexts where
  config : Option String := none
  schema : Option String := none
  init : Option String := none

/-- Reads the files that options name, and says what is left to read. -/
def Options.readFiles (o : Options) (s : Surroundings) : FileTexts × Surroundings :=
  let (config, s) := s.readGiven o.config
  let (schema, s) := s.readGiven o.schema
  let (init, s) := s.readGiven o.init
  (⟨config, schema, init⟩, s)

end QueryBind.Shell
