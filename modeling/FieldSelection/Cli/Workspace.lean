import FieldSelection.Cli.Program
/-!
# Running the program in memory

A `Workspace` is a working directory of plain files held in memory, with the text of standard
input. Paths are read as a file system would read them from inside that directory: `.` and
`..` lead to directories, a name leads to the file of that name, a path through a file fails
as not leading through a directory, and anything else is missing. Writing a name creates the
file or replaces its text.

`runIn` runs the program on a workspace and returns how it ended with the workspace after it.
-/

namespace FieldSelection.Cli

/-- A working directory of plain files, and standard input. -/
structure Workspace where
  files : List (String × String)
  input : String
  deriving DecidableEq, Repr

/-- Where a path leads in a workspace. -/
inductive Place where
  /-- the file of this name -/
  | file (name : String)
  /-- a directory -/
  | directory
  /-- nothing, where a file of this name could be made -/
  | free (name : String)
  /-- through a file, as if it were a directory -/
  | throughFile
  /-- nothing -/
  | missing
  deriving DecidableEq, Repr

/-- Where path `p` leads in workspace `w`. -/
def Workspace.locate (w : Workspace) (p : String) : Place :=
  let parts := (p.splitOn "/").filter fun c => c != "" && c != "."
  let known := fun n => (w.files.lookup n).isSome
  if p.isEmpty then .missing
  else if p.startsWith "/" then (if parts.isEmpty then .directory else .missing)
  else if parts.all (· == "..") then .directory
  else if parts.contains ".." then .missing
  else match parts with
    | [n] =>
      if known n then (if p.endsWith "/" then .throughFile else .file n)
      else if p.endsWith "/" then .directory
      else .free n
    | n :: _ => if known n then .throughFile else .missing
    | [] => .directory

/-- Reads the file at path `p`. -/
def Workspace.read (w : Workspace) (p : String) : Except FileFault String :=
  match w.locate p with
  | .file n => .ok ((w.files.lookup n).getD "")
  | .directory => .error .isDirectory
  | .throughFile => .error .notDirectory
  | .free _ | .missing => .error .notFound

/-- Writes `content` to the file at path `p`. -/
def Workspace.write (w : Workspace) (p content : String) : Except FileFault Workspace :=
  match w.locate p with
  | .file n =>
    .ok { w with files := w.files.map fun (k, v) => if k == n then (k, content) else (k, v) }
  | .free n => .ok { w with files := w.files ++ [(n, content)] }
  | .directory => .error .isDirectory
  | .throughFile => .error .notDirectory
  | .missing => .error .notFound

instance : Host (StateM Workspace) where
  readFile p := do return (← get).read p
  writeFile p content := do
    match (← get).write p content with
    | .ok w => set w; return .ok ()
    | .error e => return .error e
  readInput := do return (← get).input

/-- Runs the program on `args` in workspace `w`. -/
def runIn (env : Environment) (args : List String) (w : Workspace) : Outcome × Workspace :=
  (run env args : StateM Workspace Outcome).run w

end FieldSelection.Cli
