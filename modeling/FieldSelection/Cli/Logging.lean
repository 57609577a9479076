import FieldSelection.Trace
/-!
# Which notes are shown

A log filter is a list of rules. A rule names a part of the program by a prefix of its path
(`field_filter::engine`), or names every part, and the most detailed level shown for it, or
none when nothing is. A note is judged by the matching rule with the longest prefix, and is
hidden when no rule matches.

The command line gives a single rule for every part: errors only with `--quiet`, warnings by
default, debug notes with one `-v` and all notes with more. A filter text given through the
environment replaces it when every directive in it reads: directives are separated by commas,
and each is a level (`debug`, or a digit from 0 for nothing to 5 for everything), a path, or a
path, `=` and a level, where a path alone shows everything and a later rule for the same path
replaces an earlier one. A filter text with no directive at all shows errors only. Directives
that name spans or fields never match a note, since the program opens no spans.
-/

namespace FieldSelection.Cli

/-- A rule of a log filter. -/
structure LogRule where
  /-- the prefix of the paths it covers; none for every path -/
  target : Option String
  /-- the most detailed level shown; none for nothing -/
  upTo : Option Level
  deriving DecidableEq, Repr

/-- A log filter: its rules, later ones replacing earlier ones for the same prefix. -/
structure LogFilter where
  rules : List LogRule
  deriving DecidableEq, Repr

/-- How specific a rule is: the length of its prefix, every path counting least. -/
def LogRule.weight (r : LogRule) : Nat :=
  match r.target with
  | some t => t.length + 1
  | none => 0

/-- Whether rule `r` covers notes of part `target`. -/
def LogRule.covers (r : LogRule) (target : String) : Bool :=
  match r.target with
  | some t => target.startsWith t
  | none => true

/-- The most specific rule covering `target`. -/
def LogFilter.ruleFor (f : LogFilter) (target : String) : Option LogRule :=
  f.rules.foldl (fun best r =>
    if r.covers target then
      match best with
      | some b => if b.weight < r.weight then some r else some b
      | none => some r
    else best) none

/-- Whether note `n` is shown. -/
def LogFilter.shows (f : LogFilter) (n : Note) : Bool :=
  match f.ruleFor n.target with
  | some ⟨_, some l⟩ => n.level.rank ≤ l.rank
  | _ => false

/-- Adds a rule, replacing one for the same prefix. -/
def LogFilter.add (f : LogFilter) (r : LogRule) : LogFilter :=
  if f.rules.any (·.target == r.target) then
    ⟨f.rules.map fun old => if old.target == r.target then r else old⟩
  else ⟨f.rules ++ [r]⟩

/-- The filter of the command-line switches. -/
def LogFilter.ofSwitches (verbose : Nat) (quiet : Bool) : LogFilter :=
  let l : Level := if quiet then .error else match verbose with
    | 0 => .warn
    | 1 => .debug
    | _ => .trace
  ⟨[⟨none, some l⟩]⟩

/-- A level as written in a directive: a name in any case or a digit; `some none` is off. -/
def readLogLevel (s : String) : Option (Option Level) :=
  match s.toLower with
  | "off" | "0" => some none
  | "error" | "1" => some (some .error)
  | "warn" | "2" => some (some .warn)
  | "info" | "3" => some (some .info)
  | "debug" | "4" => some (some .debug)
  | "trace" | "5" => some (some .trace)
  | _ => none

/-- Whether `c` may stand in a path of a directive. -/
def isPathChar (c : Char) : Bool := c.isAlphanum || c == '_' || c == ':' || c == '-'

/-- What a directive says: a rule, or nothing that can match (a span or field directive);
none when it does not read. -/
def readDirective (d : String) : Option (Option LogRule) :=
  match readLogLevel d with
  | some l => some (some ⟨none, l⟩)
  | none =>
    let (head, level) := match d.splitOn "=" with
      | [h] => (h, some (some Level.trace))
      | [h, ""] => (h, some (some Level.trace))
      | [h, l] => (h, readLogLevel l)
      | _ => ("", none)
    match level with
    | none => none
    | some l =>
      if head.contains '[' then
        let path := (head.splitOn "[").headD ""
        if path.all isPathChar && head.endsWith "]" then some none else none
      else if !head.isEmpty && head.all isPathChar then some (some ⟨some head, l⟩)
      else none

/-- The filter of a filter text, when every directive in it reads. -/
def LogFilter.ofText (s : String) : Option LogFilter := do
  let ds := (s.splitOn ",").filter (!·.isEmpty)
  let read ← ds.mapM readDirective
  if read.isEmpty then pure ⟨[⟨none, some .error⟩]⟩
  else pure (read.foldl (fun f r => match r with
    | some r => f.add r
    | none => f) ⟨[]⟩)

end FieldSelection.Cli
