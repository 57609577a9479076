import FieldSelection.Cli.CommandLine
import FieldSelection.Cli.Logging
import FieldSelection.Cli.Table
import FieldSelection.Session
import FieldSelection.Toml.Decode
import FieldSelection.Json.Reader
import FieldSelection.Json.Writer
import FieldSelection.Selection.Render
/-!
# The program

`run` is the whole program: it reads the command line, then carries out `apply` or `parse`,
and ends with an exit status and what it printed on standard output and standard error. The
files it reads and writes and its standard input come from a `Host`, so the same program runs
on the real file system and on a workspace held in memory.

`apply` loads the settings file when one is named, then the schema, picks the root type,
compiles the expression, reads the document (standard input for `-`), writes the part the
expression selects as compact or indented JSON, and on request prints the cache counters as a
table. `parse` compiles an expression and prints its nodes as a tree or as JSON. Notes are
printed on standard error as they are made, when the log filter shows them; a fault ends the
program with status 1 and `Error: ` and its message, each cause after a colon.
-/

namespace FieldSelection.Cli

/-- Why a file could not be read or written. -/
inductive FileFault where
  | notFound
  | isDirectory
  | notDirectory
  /-- any other fault, by the system's description and number -/
  | other (description : String) (code : Nat)
  deriving DecidableEq, Repr

/-- The system's wording of a file fault. -/
def FileFault.message : FileFault → String
  | .notFound => "No such file or directory (os error 2)"
  | .isDirectory => "Is a directory (os error 21)"
  | .notDirectory => "Not a directory (os error 20)"
  | .other d c => d ++ " (os error " ++ toString c ++ ")"

/-- What the program needs from where it runs: files and standard input. -/
class Host (m : Type → Type) where
  readFile : String → m (Except FileFault String)
  writeFile : String → String → m (Except FileFault Unit)
  readInput : m String

/-- The environment variables the program reads. -/
structure Environment where
  /-- the settings file, when no option names one -/
  configFile : Option String := none
  /-- the log filter text -/
  logFilter : Option String := none
  noColor : Option String := none
  colorForce : Option String := none
  deriving DecidableEq, Repr

/-- How the program ended: its exit status and what it printed. -/
structure Outcome where
  status : Nat
  stdout : String
  stderr : String
  deriving DecidableEq, Repr

/-- What has been printed so far, and the filter notes pass through. -/
structure Printed where
  stdout : String := ""
  stderr : String := ""
  filter : LogFilter

/-- The program's steps: they print, and may end with a fault message. -/
abbrev Running (m : Type → Type) := ExceptT String (StateT Printed m)

section Steps

variable {m : Type → Type} [Monad m] [Host m]

/-- Prints on standard output. -/
def emit (s : String) : Running m Unit :=
  modify fun p => { p with stdout := p.stdout ++ s }

/-- Prints on standard error. -/
def emitError (s : String) : Running m Unit :=
  modify fun p => { p with stderr := p.stderr ++ s }

/-- Prints a note, when the filter shows it. -/
def emitNote (n : Note) : Running m Unit :=
  modify fun p => if p.filter.shows n then { p with stderr := p.stderr ++ n.text ++ "\n" } else p

/-- Prints notes in order. -/
def emitNotes (ns : List Note) : Running m Unit := ns.forM emitNote

/-- Reads a file; a fault becomes `what` with the fault's wording, `twice` repeating it. -/
def readOrFail (path what : String) (twice : Bool) : Running m String := do
  match ← liftM (Host.readFile path : m _) with
  | .ok s => pure s
  | .error e =>
    throw (what ++ ": " ++ e.message ++ if twice then ": " ++ e.message else "")

/-- A TOML document read as `α`, or the fault `what` followed by the rendered TOML fault
twice. -/
def tomlOrFail {α : Type} (raw what : String) (decode : Toml.Node → Except Toml.TomlError α) :
    Running m α :=
  match Toml.read raw >>= decode with
  | .ok a => pure a
  | .error e =>
    let shown := e.render raw
    throw (what ++ ": " ++ shown ++ ": " ++ shown)

/-- The settings: from the file at `path`, or the defaults. -/
def loadSettings : Option String → Running m FilterConfig
  | none => pure {}
  | some path => do
    let raw ← readOrFail path
      ("Failed to load config: Failed to read config file '" ++ path ++ "'") true
    let cfg ← tomlOrFail raw
      ("Failed to load config: Failed to parse config file '" ++ path ++ "'") Toml.configOf
    emitNote ⟨.debug, "field_filter::config", "loaded filter config",
      [("path", path), ("config", cfg.debugText)]⟩
    pure cfg

/-- The validated registry of the schema file at `path`. -/
def loadSchema (path : String) (cfg : FilterConfig) : Running m Registry := do
  let raw ← readOrFail path ("Failed to read schema file '" ++ path ++ "'") true
  let s ← tomlOrFail raw ("Failed to parse schema file '" ++ path ++ "'") Toml.schemaOf
  emitNote ⟨.debug, "field_filter::schema", "loaded schema",
    [("path", path), ("types", toString s.types.length)]⟩
  match Registry.ofSchema s cfg with
  | .ok r => pure r
  | .error e => throw e.message

/-- The JSON document at `path`, or standard input for `-`. -/
def readDocument (path : String) : Running m Json.Value := do
  let raw ← if path == "-" then liftM (Host.readInput : m String)
    else readOrFail path ("Failed to read input file '" ++ path ++ "'") false
  match Json.read raw with
  | .ok v => pure v
  | .error e => throw ("Invalid JSON in '" ++ path ++ "': " ++ e.describe raw)

/-- Writes `content` to the file at `path`. -/
def writeOutput (path content : String) : Running m Unit := do
  match ← liftM (Host.writeFile path content : m _) with
  | .ok () => pure ()
  | .error e => throw ("Failed to write output file '" ++ path ++ "': " ++ e.message)

end Steps

/-- A compile fault with the trimmed expression and a caret under the place of the fault. -/
def describeSelectionError (filter : String) (e : SelectionError) : String :=
  let text := Text.trim filter
  let bytes := text.toUTF8
  let column := if e.position ≤ bytes.size then
      match String.fromUTF8? (bytes.extract 0 e.position) with
      | some before => before.length
      | none => 0
    else 0
  e.message ++ "\n  " ++ text ++ "\n  " ++ String.ofList (List.replicate column ' ') ++ "^"

/-- Whether the node tree is coloured. -/
def colorOn (env : Environment) : ColorMode → Bool
  | .always => true
  | .never => false
  | .auto =>
    match env.colorForce with
    | some v => v != "0"
    | none => false

section Commands

variable {m : Type → Type} [Monad m] [Host m]

/-- Carries out `apply` with settings `cfg`. -/
def runApply (cfg : FilterConfig) (a : ApplyArgs) : Running m Unit := do
  let reg ← loadSchema a.schema cfg
  let root ← match a.root <|> reg.root with
    | some r => pure r
    | none => throw "No root type: pass --root or set `root` in the schema"
  let session := Session.new reg cfg
  let (built, parser) := Context.build session.parser a.filter root
  emitNotes parser.notes.toList
  let x ← match built with
    | .ok x => pure x
    | .error e => throw (describeSelectionError (a.filter.getD "") e)
  let doc ← readDocument a.input
  let (res, engine) := ((filterValue reg x doc).run).run session.engine
  emitNotes engine.notes.toList
  let v ← match res with
    | .ok v => pure v
    | .error e => throw ("Failed to filter document as '" ++ root ++ "': " ++ e.message)
  emitNote ⟨.info, "field_filter", "filtered document",
    [("root", root), ("filtering", toString x.filteringEnabled)]⟩
  let rendered := (if a.pretty then Json.Value.pretty v else Json.Value.compact v) ++ "\n"
  match a.output with
  | some path => writeOutput path rendered
  | none => emit rendered
  if a.metrics then
    emitError (metricsTable ({ session with parser := parser, engine := engine }.metrics) ++ "\n")

/-- Carries out `parse`. -/
def runParse (color : Bool) (expression : String) (format : TreeFormat) : Running m Unit := do
  match Selection.parse expression with
  | .error e => throw (describeSelectionError expression e)
  | .ok nodes =>
    match format with
    | .text => emit (Node.treeTextWith color nodes)
    | .json => emit (Json.Value.pretty (.array (Node.forestJson nodes)) ++ "\n")

/-- Carries out an invocation. -/
def execute (env : Environment) (inv : Invocation) : Running m Unit := do
  let cfg ← loadSettings inv.globals.config
  emitNote ⟨.debug, "field_filter", "effective config", [("config", cfg.debugText)]⟩
  match inv.command with
  | .apply a => runApply cfg a
  | .parse e f => runParse (colorOn env inv.globals.color) e f

/-- The log filter of an invocation: the environment's filter text when it reads, else the
command-line switches. -/
def logFilterOf (env : Environment) (g : Globals) : LogFilter :=
  match env.logFilter.bind LogFilter.ofText with
  | some f => f
  | none => LogFilter.ofSwitches g.verbose g.quiet

/-- Whether help printed on standard output is styled: colour is forced and not turned off. -/
def helpStyled (env : Environment) : Bool :=
  let off := match env.noColor with
    | some v => v != ""
    | none => false
  let forced := match env.colorForce with
    | some v => v != "0"
    | none => false
  !off && forced

/-- Runs the program on the command-line words `args`. -/
def run (env : Environment) (args : List String) : m Outcome := do
  match readCommandLine ⟨env.configFile, helpStyled env⟩ args with
  | .error e =>
    pure (if e.toStderr then ⟨e.status, "", e.text⟩ else ⟨e.status, e.text, ""⟩)
  | .ok inv =>
    let (r, p) ← ((execute env inv).run).run { filter := logFilterOf env inv.globals }
    match r with
    | .ok () => pure ⟨0, p.stdout, p.stderr⟩
    | .error msg => pure ⟨1, p.stdout, p.stderr ++ "Error: " ++ msg ++ "\n"⟩

end Commands

end FieldSelection.Cli
