import FieldSelection.Text.Similarity
import FieldSelection.Cli.Help
/-!
# Reading the command line

The command line names a command, `apply` or `parse`, with its options; the settings options
(`--config`, `--verbose`, `--quiet`, `--color`) may stand before or after the command name.
`readCommandLine` turns the words of a command line into an `Invocation`, or into the `Exit`
that ends the program early: a help text, the version, or a usage fault.

How words are read, at each level (the program, then the command):

* `--` makes every later word a plain value;
* `--name` or `--name=value` is a long option, `-abc` a cluster of short options, where an
  option that takes a value takes the rest of the cluster (less a leading `=`) when there is
  one, and the next word otherwise;
* a word that starts with `-` is always an option, never the value of the option before it,
  so that option is left without a value;
* at the program level a command name starts the command, even in place of a value;
* any other word is the value an option waits for, or the positional argument.

An option is acted on when its value is known: a missing value, a second use and a value
outside the accepted ones are faults at that point, unless an unknown option comes first.
After all words, a command's required arguments and the conflict of `--quiet` with
`--verbose` are checked, the command's first and then the program's.

Fault texts end with the usage line and a pointer to `--help`; the usage line lists the
arguments given when the fault depends on them. An unknown option or command gets a tip
naming the closest known one (Jaro similarity above seven tenths).
-/

namespace FieldSelection.Cli

/-- When output is coloured. -/
inductive ColorMode where
  | auto
  | always
  | never
  deriving DecidableEq, Repr

/-- How `parse` prints the compiled nodes. -/
inductive TreeFormat where
  | text
  | json
  deriving DecidableEq, Repr

/-- The settings options, as they hold for the command. -/
structure Globals where
  config : Option String
  verbose : Nat
  quiet : Bool
  color : ColorMode
  deriving DecidableEq, Repr

/-- The options of `apply`. -/
structure ApplyArgs where
  schema : String
  input : String
  filter : Option String
  root : Option String
  pretty : Bool
  output : Option String
  metrics : Bool
  deriving DecidableEq, Repr

/-- A command with its options. -/
inductive Command where
  | apply (a : ApplyArgs)
  | parse (expression : String) (format : TreeFormat)
  deriving DecidableEq, Repr

/-- What a command line asks the program to do. -/
structure Invocation where
  globals : Globals
  command : Command
  deriving DecidableEq, Repr

/-- An early end of the program: the text printed, where, and the exit status. -/
structure Exit where
  text : String
  toStderr : Bool
  status : Nat
  deriving DecidableEq, Repr

/-- How an option takes values. -/
inductive ArgKind where
  /-- given at most once, without a value -/
  | flag
  /-- each use counts one more -/
  | count
  /-- one value, shown as the placeholder; `choices` lists the accepted values, or is empty
  when every value is accepted -/
  | value (placeholder : String) (choices : List String)
  /-- prints the help text -/
  | help
  /-- prints the version -/
  | version
  deriving DecidableEq, Repr

/-- An option: its identity, its short and long names, and how it takes values. -/
structure ArgSpec where
  id : String
  short : Option Char
  long : String
  kind : ArgKind
  deriving DecidableEq, Repr

/-- An option as fault texts show it. -/
def ArgSpec.display (a : ArgSpec) : String :=
  "--" ++ a.long ++ match a.kind with
    | .count => "..."
    | .value p _ => " <" ++ p ++ ">"
    | _ => ""

/-- The layers a command line is read at: the program, then its command. -/
inductive Layer where
  | program
  | apply
  | parse
  | help
  deriving DecidableEq, Repr

/-- The settings options, which every level takes. -/
def globalArgs : List ArgSpec := [
  ⟨"config", some 'c', "config", .value "CONFIG" []⟩,
  ⟨"verbose", some 'v', "verbose", .count⟩,
  ⟨"quiet", some 'q', "quiet", .flag⟩,
  ⟨"color", none, "color", .value "COLOR" ["auto", "always", "never"]⟩]

/-- The help option. -/
def helpArg : ArgSpec := ⟨"help", some 'h', "help", .help⟩

/-- A level's options, in the order the close-name tips consider them. -/
def Layer.args : Layer → List ArgSpec
  | .program => globalArgs ++ [helpArg, ⟨"version", some 'V', "version", .version⟩]
  | .apply => [
      ⟨"schema", some 's', "schema", .value "SCHEMA" []⟩,
      ⟨"input", some 'i', "input", .value "INPUT" []⟩,
      ⟨"filter", some 'f', "filter", .value "FILTER" []⟩,
      ⟨"root", some 'r', "root", .value "ROOT" []⟩,
      ⟨"pretty", some 'p', "pretty", .flag⟩,
      ⟨"output", some 'o', "output", .value "OUTPUT" []⟩,
      ⟨"metrics", some 'm', "metrics", .flag⟩] ++ globalArgs ++ [helpArg]
  | .parse => [⟨"format", some 'F', "format", .value "FORMAT" ["text", "json"]⟩] ++
      globalArgs ++ [helpArg]
  | .help => []

/-- The name a level is shown by. -/
def Layer.name : Layer → String
  | .program => "field-filter"
  | .apply => "field-filter apply"
  | .parse => "field-filter parse"
  | .help => "field-filter help"

/-- The full usage line of a level. -/
def Layer.usage : Layer → String
  | .program => rootUsage
  | .apply => applyUsage
  | .parse => parseUsage
  | .help => helpUsage

/-- The positional argument of a level: its identity and how it is shown. -/
def Layer.positional : Layer → Option (String × String)
  | .parse => some ("expression", "<EXPRESSION>")
  | _ => none

/-- The identities of a level's required arguments. -/
def Layer.required : Layer → List String
  | .apply => ["schema"]
  | .parse => ["expression"]
  | _ => []

/-- The commands a level has, by name. -/
def Layer.commands : Layer → List (String × Layer)
  | .program => [("apply", .apply), ("parse", .parse), ("help", .help)]
  | _ => []

/-- The help text of a level; `long` for the long form, `styled` for the styled one. -/
def Layer.helpText (configEnv : Option String) (long styled : Bool) : Layer → String
  | .program => rootHelp configEnv styled
  | .apply => applyHelp configEnv styled
  | .parse => if long then parseLongHelp configEnv styled else parseHelp configEnv styled
  | .help => helpHelp styled

/-- How an argument of a level shows in a usage line. -/
def Layer.showArg (l : Layer) (id : String) : Option String :=
  match l.positional with
  | some (pid, shown) => if pid == id then some shown else
      (l.args.find? (·.id == id)).map ArgSpec.display
  | none => (l.args.find? (·.id == id)).map ArgSpec.display

/-- The usage line that names the arguments `used`: the required ones, then those used, each
once, positionals last. With nothing used it is the full usage line. -/
def Layer.usageFor (l : Layer) (used : List String) : String :=
  if used.isEmpty then l.usage
  else
    let ids := (l.required ++ used).eraseDups
    let isPositional := fun id => (l.positional.map (·.1 == id)).getD false
    let opts := ((ids.filter (! isPositional ·)).filterMap l.showArg).eraseDups
    let poss := (ids.filter isPositional).filterMap l.showArg
    let tail := if l == .program then [" <COMMAND>"] else []
    l.name ++ String.join (opts.map (" " ++ ·)) ++ String.join (poss.map (" " ++ ·)) ++
      String.join tail

/-- A usage fault's text: the message, the tips, the usage line when there is one, and the
pointer to the help. -/
def faultText (message : String) (tips : List String) (usage : Option String) : String :=
  "error: " ++ message ++
    (if tips.isEmpty then "" else "\n" ++ String.join (tips.map ("\n  tip: " ++ ·))) ++
    (usage.map ("\n\nUsage: " ++ ·)).getD "" ++
    "\n\nFor more information, try '--help'.\n"

/-- A usage fault as an early end. -/
def fault (message : String) (tips : List String) (usage : Option String) : Exit :=
  ⟨faultText message tips usage, true, 2⟩

/-- The list of accepted values, when there is one. -/
def choicesNote (choices : List String) : String :=
  if choices.isEmpty then "" else "\n  [possible values: " ++ ", ".intercalate choices ++ "]"

/-- The fault of a value outside `choices`; an empty value reads as a missing one. -/
def badValue (spec : ArgSpec) (v : String) (choices : List String) : Exit :=
  let head := if v.isEmpty then
      "a value is required for '" ++ spec.display ++ "' but none was supplied"
    else "invalid value '" ++ v ++ "' for '" ++ spec.display ++ "'"
  let tips := match (Text.suggestions v choices).getLast? with
    | some c => ["a similar value exists: '" ++ c ++ "'"]
    | none => []
  fault (head ++ choicesNote choices) tips none

/-- What the arguments of one level gave, each in the order first given. -/
structure Given where
  entries : List (String × List String) := []
  deriving DecidableEq, Repr

/-- The values given for `id`. -/
def Given.lookup (g : Given) (id : String) : Option (List String) :=
  (g.entries.find? (·.1 == id)).map (·.2)

/-- `id` was given. -/
def Given.has (g : Given) (id : String) : Bool := (g.lookup id).isSome

/-- Records values for `id`: appended to the earlier ones, or as a new entry at the end. -/
def Given.record (g : Given) (id : String) (vs : List String) : Given :=
  if g.has id then ⟨g.entries.map fun (k, old) => if k == id then (k, old ++ vs) else (k, old)⟩
  else ⟨g.entries ++ [(id, vs)]⟩

/-- The state of reading one level. -/
structure ReadState where
  given : Given := {}
  /-- the option waiting for its value, with the value once it came -/
  pending : Option (ArgSpec × Option String) := none
  /-- a `--` was read -/
  trailing : Bool := false
  deriving Repr

/-- The context of a reading: the value of the settings variable, if set, and whether help
printed on standard output is styled. -/
structure Surroundings where
  configEnv : Option String
  styledHelp : Bool := false
  deriving DecidableEq, Repr

/-- Acts on option `spec` given with `values`; `long` when named by its long name. -/
def act (env : Surroundings) (l : Layer) (spec : ArgSpec) (long : Bool) (values : List String)
    (st : ReadState) : Except Exit ReadState :=
  let twice := fault ("the argument '" ++ spec.display ++ "' cannot be used multiple times") []
    (some l.usage)
  match spec.kind with
  | .help => .error ⟨l.helpText env.configEnv long env.styledHelp, false, 0⟩
  | .version => .error ⟨versionText, false, 0⟩
  | .flag => if st.given.has spec.id then .error twice
      else .ok { st with given := st.given.record spec.id ["true"] }
  | .count => .ok { st with given := st.given.record spec.id [""] }
  | .value _ choices =>
    match values with
    | [] => .error (badValue spec "" choices)
    | v :: _ =>
      if st.given.has spec.id then .error twice
      else if !choices.isEmpty && !choices.contains v then .error (badValue spec v choices)
      else .ok { st with given := st.given.record spec.id [v] }

/-- Acts on the option waiting for a value, if any. -/
def resolvePending (env : Surroundings) (l : Layer) (st : ReadState) :
    Except Exit ReadState :=
  match st.pending with
  | none => .ok st
  | some (spec, v) => act env l spec true v.toList { st with pending := none }

/-- Acts on option `spec`, after the one waiting for a value. -/
def react (env : Surroundings) (l : Layer) (spec : ArgSpec) (long : Bool) (values : List String)
    (st : ReadState) : Except Exit ReadState := do
  let st ← resolvePending env l st
  act env l spec long values st

/-- The arguments given on the command line at this level, in order. -/
def ReadState.used (st : ReadState) : List String := st.given.entries.map (·.1)

/-- The fault of an unknown long option `--name`; `rest` are the words after it. -/
def unknownLong (l : Layer) (name : String) (rest : List String) (st : ReadState) : Exit :=
  let own := (Text.suggestions name (l.args.map (·.long))).getLast?
  let inCommand : Option (String × String) := match own with
    | some _ => none
    | none =>
      let scored := l.commands.filterMap fun (cname, cl) =>
        match (Text.suggestions name (cl.args.map (·.long))).getLast?, rest.idxOf? cname with
        | some c, some i => some (i, cname, c)
        | _, _ => none
      let best := scored.foldl (fun acc x => match acc with
        | some a => if x.1 < a.1 then some x else some a
        | none => some x) none
      best.map fun (_, cname, c) => (cname, c)
  let arg := "--" ++ name
  let similar := match own with
    | some c => ["a similar argument exists: '--" ++ c ++ "'"]
    | none => []
  let trailingTip :=
    if own.isNone && inCommand.isNone && !st.trailing && l.positional.isSome then
      ["to pass '" ++ arg ++ "' as a value, use '-- " ++ arg ++ "'"]
    else []
  let commandTip := match inCommand with
    | some (cname, c) => ["'" ++ cname ++ " --" ++ c ++ "' exists"]
    | none => []
  fault ("unexpected argument '" ++ arg ++ "' found") (similar ++ trailingTip ++ commandTip)
    (some (l.usageFor st.used))

/-- The fault of an unknown short option `-c`. -/
def unknownShort (l : Layer) (c : Char) (st : ReadState) : Exit :=
  let arg := "-" ++ String.singleton c
  let tips := if !st.trailing && l.positional.isSome then
      ["to pass '" ++ arg ++ "' as a value, use '-- " ++ arg ++ "'"] else []
  fault ("unexpected argument '" ++ arg ++ "' found") tips (some l.usage)

/-- The fault of a word that no argument takes. -/
def unexpectedWord (l : Layer) (w : String) (st : ReadState) : Exit :=
  let names := l.commands.map (·.1)
  if st.trailing && names.contains w then
    fault "unexpected argument '--' found"
      ["subcommand '" ++ w ++ "' exists; to use it, remove the '--' before it"] (some l.usage)
  else if !names.isEmpty then
    match Text.suggestions w names with
    | [] => fault ("unrecognized subcommand '" ++ w ++ "'") [] (some l.usage)
    | [c] => fault ("unrecognized subcommand '" ++ w ++ "'")
        ["a similar subcommand exists: '" ++ c ++ "'"] (some l.usage)
    | cs => fault ("unrecognized subcommand '" ++ w ++ "'")
        ["some similar subcommands exist: " ++ ", ".intercalate (cs.map ("'" ++ · ++ "'"))]
        (some l.usage)
  else fault ("unexpected argument '" ++ w ++ "' found") [] (some l.usage)

/-- Reads a long option `--body`; `rest` are the words after it. -/
def readLong (env : Surroundings) (l : Layer) (body : String) (rest : List String)
    (st : ReadState) : Except Exit ReadState :=
  let name := (body.splitOn "=").headD ""
  let attached := if body.contains '=' then some (String.ofList (body.toList.drop
    (name.length + 1))) else none
  match l.args.find? (·.long == name) with
  | none => .error (unknownLong l name rest st)
  | some spec =>
    match spec.kind, attached with
    | .value _ _, some v => react env l spec true [v] st
    | .value _ _, none => do
      let st ← resolvePending env l st
      pure { st with pending := some (spec, none) }
    | _, some v =>
      let used := (st.used.filter (! l.required.contains ·)) ++ [spec.id]
      .error (fault ("unexpected value '" ++ v ++ "' for '" ++ spec.display ++
        "' found; no more were expected") [] (some (l.usageFor used)))
    | _, none => react env l spec true [] st

/-- Reads a cluster of short options. -/
def readShort (env : Surroundings) (l : Layer) : List Char → ReadState → Except Exit ReadState
  | [], st => .ok st
  | c :: more, st =>
    match l.args.find? (·.short == some c) with
    | none => .error (unknownShort l c st)
    | some spec =>
      match spec.kind with
      | .value _ _ =>
        if more.isEmpty then do
          let st ← resolvePending env l st
          pure { st with pending := some (spec, none) }
        else
          let v := String.ofList (if more.head? == some '=' then more.tail else more)
          react env l spec false [v] st
      | _ => do
        let st ← react env l spec false [] st
        readShort env l more st

/-- Reads a plain word: the value an option waits for, or the positional argument. -/
def readWord (env : Surroundings) (l : Layer) (w : String) (st : ReadState) :
    Except Exit ReadState :=
  match st.pending, st.trailing with
  | some (spec, none), false => .ok { st with pending := some (spec, some w) }
  | _, _ =>
    match l.positional with
    | some (pid, _) =>
      if st.given.has pid then .error (unexpectedWord l w st)
      else do
        let st ← resolvePending env l st
        pure { st with given := st.given.record pid [w] }
    | none => .error (unexpectedWord l w st)

/-- The long help of the level that the command names `names` lead to. -/
def helpWalk (env : Surroundings) : Layer → List String → Exit
  | l, [] => ⟨l.helpText env.configEnv true env.styledHelp, false, 0⟩
  | l, n :: ns =>
    match l.commands.lookup n with
    | some next => helpWalk env next ns
    | none => fault ("unrecognized subcommand '" ++ n ++ "'") [] (some l.usage)

/-- Reads the words of one level: its state after the last word, and the command named with
the words after it, when one is. -/
def readLayer (env : Surroundings) (l : Layer) :
    List String → ReadState → Except Exit (ReadState × Option (Layer × List String))
  | [], st => do
    let st ← resolvePending env l st
    pure (st, none)
  | w :: rest, st =>
    match (if st.trailing then none else l.commands.lookup w) with
    | some .help => .error (helpWalk env .program rest)
    | some next => do
      let st ← resolvePending env l st
      pure (st, some (next, rest))
    | none =>
      if st.trailing then do
        let st ← readWord env l w st
        readLayer env l rest st
      else if w == "--" then readLayer env l rest { st with trailing := true }
      else if w.startsWith "--" then do
        let st ← readLong env l (String.ofList (w.toList.drop 2)) rest st
        readLayer env l rest st
      else if w.startsWith "-" && w.length > 1 then
        match readShort env l (w.toList.drop 1) st with
        | .ok st => readLayer env l rest st
        | .error e => .error e
      else do
        let st ← readWord env l w st
        readLayer env l rest st

/-- The arguments a level counts as given: those on the command line, then the settings
file from its variable when no option named it. -/
def usedWithEnv (env : Surroundings) (st : ReadState) : List String :=
  st.used ++ (if env.configEnv.isSome && !st.given.has "config" then ["config"] else [])

/-- The checks after a level's last word: `--quiet` against `--verbose`, then the required
arguments. -/
def checkLayer (env : Surroundings) (l : Layer) (st : ReadState) : Except Exit Unit :=
  let used := usedWithEnv env st
  let display := fun id => (l.showArg id).getD id
  let clash := used.find? fun id =>
    (id == "quiet" && used.contains "verbose") || (id == "verbose" && used.contains "quiet")
  match clash with
  | some first =>
    let other := if first == "quiet" then "verbose" else "quiet"
    .error (fault ("the argument '" ++ display first ++ "' cannot be used with '" ++
      display other ++ "'") [] (some (l.usageFor (used.filter (· != other)))))
  | none =>
    let missing := l.required.filter (! used.contains ·)
    if missing.isEmpty then .ok ()
    else .error (fault ("the following required arguments were not provided:" ++
      String.join (missing.map fun id => "\n  " ++ display id)) []
      (some (l.usageFor (used ++ missing))))

/-- The end of a program-level reading that named no command. -/
def noCommand (env : Surroundings) (st : ReadState) : Exit :=
  if (usedWithEnv env st).isEmpty then ⟨rootHelp env.configEnv, true, 2⟩
  else fault ("'field-filter' requires a subcommand but one was not provided" ++
    "\n  [subcommands: apply, parse, help]") [] (some rootUsage)

/-- The single value given for `id` at the command level, else at the program level. -/
def pick (sub top : ReadState) (id : String) : Option (List String) :=
  match sub.given.lookup id with
  | some vs => some vs
  | none => top.given.lookup id

/-- The first value given for `id` at `st`'s level. -/
def firstValue (st : ReadState) (id : String) : Option String :=
  (st.given.lookup id).bind List.head?

/-- The settings options as they hold for the command. -/
def globalsOf (env : Surroundings) (sub top : ReadState) : Globals :=
  { config := match (pick sub top "config").bind List.head? with
      | some p => some p
      | none => env.configEnv
    verbose := ((pick sub top "verbose").map List.length).getD 0
    quiet := (pick sub top "quiet").isSome
    color := match (pick sub top "color").bind List.head? with
      | some "always" => .always
      | some "never" => .never
      | _ => .auto }

/-- The command named at `l` with the options read into `st`. -/
def commandOf (l : Layer) (st : ReadState) : Command :=
  match l with
  | .parse => .parse ((firstValue st "expression").getD "")
      (if firstValue st "format" == some "json" then .json else .text)
  | _ => .apply {
      schema := (firstValue st "schema").getD ""
      input := (firstValue st "input").getD "-"
      filter := firstValue st "filter"
      root := firstValue st "root"
      pretty := st.given.has "pretty"
      output := firstValue st "output"
      metrics := st.given.has "metrics" }

/-- Reads a command line: the invocation it names, or the early end it leads to. -/
def readCommandLine (env : Surroundings) (args : List String) : Except Exit Invocation := do
  let (top, named) ← readLayer env .program args {}
  match named with
  | none => .error (noCommand env top)
  | some (l, rest) =>
    let (sub, _) ← readLayer env l rest {}
    checkLayer env l sub
    checkLayer env .program top
    pure ⟨globalsOf env sub top, commandOf l sub⟩

end FieldSelection.Cli
