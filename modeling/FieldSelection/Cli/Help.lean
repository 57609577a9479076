/-!
# Help texts of the command line

The program is `field-filter` with the commands `apply`, `parse` and `help`. Each command has a
help text: the summary, the usage line, and its arguments and options in two aligned columns.
`parse` also has a longer form, given for `--help`, which sets each description under its
option and lists what each output format does. The only part that changes is the note on the
settings file option, which shows the value of the variable that supplies the file when no
option names it.

A help text printed where colour is forced is styled: headings bold and underlined, and the
program's name in the usage line, command names, option names and the names of possible
values in bold. Spacing is counted without the styling, so the columns stay aligned.
-/

namespace FieldSelection.Cli

/-- The lines joined, each ending in a line feed. -/
def textOfLines (ls : List String) : String := String.join (ls.map (· ++ "\n"))

/-- The note on where the settings file comes from when no option names it. -/
def envNote (configEnv : Option String) : String :=
  "[env: FIELD_FILTER_CONFIG=" ++ configEnv.getD "" ++ "]"

/-- `s` in bold when `styled`. -/
def strong (styled : Bool) (s : String) : String :=
  if styled then "\x1b[1m" ++ s ++ "\x1b[0m" else s

/-- The heading `s` and its colon, bold and underlined when `styled`. -/
def heading (styled : Bool) (s : String) : String :=
  if styled then "\x1b[1m\x1b[4m" ++ s ++ ":\x1b[0m" else s ++ ":"

/-- An option's short and long names, each in bold when `styled`. -/
def optionNames (styled : Bool) (short : Option Char) (long : String) : String :=
  match short with
  | some c => "  " ++ strong styled ("-" ++ c.toString) ++ ", " ++ strong styled ("--" ++ long)
  | none => "      " ++ strong styled ("--" ++ long)

/-- The usage line of the program itself. -/
def rootUsageWith (styled : Bool) : String :=
  strong styled "field-filter" ++ " [OPTIONS] <COMMAND>"

/-- The usage line of `apply`. -/
def applyUsageWith (styled : Bool) : String :=
  strong styled "field-filter apply" ++ " [OPTIONS] " ++ strong styled "--schema" ++ " <SCHEMA>"

/-- The usage line of `parse`. -/
def parseUsageWith (styled : Bool) : String :=
  strong styled "field-filter parse" ++ " [OPTIONS] <EXPRESSION>"

/-- The usage line of `help`. -/
def helpUsageWith (styled : Bool) : String := strong styled "field-filter help" ++ " [COMMAND]..."

/-- The usage line of the program itself, unstyled. -/
def rootUsage : String := rootUsageWith false

/-- The usage line of `apply`, unstyled. -/
def applyUsage : String := applyUsageWith false

/-- The usage line of `parse`, unstyled. -/
def parseUsage : String := parseUsageWith false

/-- The usage line of `help`, unstyled. -/
def helpUsage : String := helpUsageWith false

/-- The help text of the program itself. -/
def rootHelp (configEnv : Option String) (styled : Bool := false) : String :=
  let opt := optionNames styled
  textOfLines [
  "Select and exclude fields of JSON documents with a compact filter expression",
  "",
  heading styled "Usage" ++ " " ++ rootUsageWith styled,
  "",
  heading styled "Commands",
  "  " ++ strong styled "apply" ++ "  Filter a JSON document against a schema",
  "  " ++ strong styled "parse" ++ "  Compile a filter expression and print its node tree",
  "  " ++ strong styled "help" ++ "   Print this message or the help of the given subcommand(s)",
  "",
  heading styled "Options",
  opt (some 'c') "config" ++ " <CONFIG>  TOML file with filter settings and cache specs " ++
    envNote configEnv,
  opt (some 'v') "verbose" ++ "...       Increase log verbosity (-v debug, -vv trace)",
  opt (some 'q') "quiet" ++ "            Only log errors",
  opt none "color" ++
    " <COLOR>    Color output [default: auto] [possible values: auto, always, never]",
  opt (some 'h') "help" ++ "             Print help",
  opt (some 'V') "version" ++ "          Print version"]

/-- The help text of `apply`. -/
def applyHelp (configEnv : Option String) (styled : Bool := false) : String :=
  let opt := optionNames styled
  textOfLines [
  "Filter a JSON document against a schema",
  "",
  heading styled "Usage" ++ " " ++ applyUsageWith styled,
  "",
  heading styled "Options",
  opt (some 's') "schema" ++ " <SCHEMA>  TOML schema describing the document's types",
  opt (some 'i') "input" ++ " <INPUT>    JSON document to filter; `-` reads stdin [default: -]",
  opt (some 'c') "config" ++ " <CONFIG>  TOML file with filter settings and cache specs " ++
    envNote configEnv,
  opt (some 'f') "filter" ++ " <FILTER>  Filter expression; omit to write everything",
  opt (some 'r') "root" ++ " <ROOT>      Type of the document root, overriding the schema's `root`",
  opt (some 'v') "verbose" ++ "...       Increase log verbosity (-v debug, -vv trace)",
  opt (some 'p') "pretty" ++ "           Pretty-print the result",
  opt (some 'q') "quiet" ++ "            Only log errors",
  opt none "color" ++
    " <COLOR>    Color output [default: auto] [possible values: auto, always, never]",
  opt (some 'o') "output" ++ " <OUTPUT>  Write the result to this file instead of stdout",
  opt (some 'm') "metrics" ++ "          Print cache metrics to stderr when done",
  opt (some 'h') "help" ++ "             Print help"]

/-- The short help text of `parse`. -/
def parseHelp (configEnv : Option String) (styled : Bool := false) : String :=
  let opt := optionNames styled
  textOfLines [
  "Compile a filter expression and print its node tree",
  "",
  heading styled "Usage" ++ " " ++ parseUsageWith styled,
  "",
  heading styled "Arguments",
  "  <EXPRESSION>  Filter expression",
  "",
  heading styled "Options",
  opt (some 'F') "format" ++
    " <FORMAT>  Output format [default: text] [possible values: text, json]",
  opt (some 'c') "config" ++ " <CONFIG>  TOML file with filter settings and cache specs " ++
    envNote configEnv,
  opt (some 'v') "verbose" ++ "...       Increase log verbosity (-v debug, -vv trace)",
  opt (some 'q') "quiet" ++ "            Only log errors",
  opt none "color" ++
    " <COLOR>    Color output [default: auto] [possible values: auto, always, never]",
  opt (some 'h') "help" ++ "             Print help (see more with '--help')"]

/-- The long help text of `parse`. -/
def parseLongHelp (configEnv : Option String) (styled : Bool := false) : String :=
  let opt := optionNames styled
  textOfLines [
  "Compile a filter expression and print its node tree",
  "",
  heading styled "Usage" ++ " " ++ parseUsageWith styled,
  "",
  heading styled "Arguments",
  "  <EXPRESSION>",
  "          Filter expression",
  "",
  heading styled "Options",
  opt (some 'F') "format" ++ " <FORMAT>",
  "          Output format",
  "",
  "          Possible values:",
  "          - " ++ strong styled "text" ++ ": Indented tree, colored when the terminal allows it",
  "          - " ++ strong styled "json" ++ ": The node list as JSON",
  "          ",
  "          [default: text]",
  "",
  opt (some 'c') "config" ++ " <CONFIG>",
  "          TOML file with filter settings and cache specs",
  "          ",
  "          " ++ envNote configEnv,
  "",
  opt (some 'v') "verbose" ++ "...",
  "          Increase log verbosity (-v debug, -vv trace)",
  "",
  opt (some 'q') "quiet",
  "          Only log errors",
  "",
  opt none "color" ++ " <COLOR>",
  "          Color output",
  "          ",
  "          [default: auto]",
  "          [possible values: auto, always, never]",
  "",
  opt (some 'h') "help",
  "          Print help (see a summary with '-h')"]

/-- The help text of `help`. -/
def helpHelp (styled : Bool := false) : String := textOfLines [
  "Print this message or the help of the given subcommand(s)",
  "",
  heading styled "Usage" ++ " " ++ helpUsageWith styled,
  "",
  heading styled "Arguments",
  "  [COMMAND]...  Print help for the subcommand(s)"]

/-- The version line. -/
def versionText : String := "field-filter 0.1.0\n"

end FieldSelection.Cli
