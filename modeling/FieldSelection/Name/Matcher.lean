import FieldSelection.Name.Glob
import FieldSelection.Regex.Parser
import FieldSelection.Regex.Automaton
/-!
# Name matchers

A field of a selection expression names the properties it selects by one of five matchers: an
exact name, a glob pattern, a regular expression matched against the whole name, `*` for every
name of one level and `**` for every name of every level below.

A glob is matched through the regular expression it translates to (`NameMatcher.wildcard`):
`^(?s:…)$`, with `.*` for a star, `.` for a question mark and every other character escaped.
Reading that text can fail as reading any regular expression can, and a field whose matcher
cannot be built is refused.

Where several fields select one property, the most specific wins: exact names above regular
expressions, these above globs, globs with more literal characters above those with fewer, and
`*` above `**`.
-/

namespace FieldSelection

/-- How specific a matcher is; see `Specificity.rank` for the order. -/
inductive Specificity where
  | anyDeep
  | anyShallow
  | glob (literals : Nat)
  | regex
  | exact
  deriving DecidableEq, Repr

namespace Specificity

/-- The position of a specificity in the order, compared lexicographically. -/
def rank : Specificity → Nat × Nat
  | .anyDeep => (0, 0)
  | .anyShallow => (1, 0)
  | .glob n => (2, n)
  | .regex => (3, 0)
  | .exact => (4, 0)

/-- Whether `a` is strictly less specific than `b`. -/
def lt (a b : Specificity) : Bool :=
  let (x, y) := a.rank
  let (u, v) := b.rank
  x < u || (x == u && y < v)

/-- Whether `a` is at most as specific as `b`. -/
def le (a b : Specificity) : Bool := !lt b a

/-- The more specific of two. -/
def max (a b : Specificity) : Specificity := if lt a b then b else a

/-- The text of a specificity in reports. -/
def text : Specificity → String
  | .anyDeep => "any-deep"
  | .anyShallow => "any-shallow"
  | .glob n => "wildcard:" ++ toString n
  | .regex => "regex"
  | .exact => "exact"

end Specificity

/-- A compiled regular expression field: its text as written, the pattern between its
delimiters, whether it ignores case, and its automaton. -/
structure RegexField where
  literal : String
  pattern : String
  caseless : Bool
  program : Regex.Program

/-- The matcher of one field; a glob keeps its pattern and the automaton of the regular
expression it translates to. -/
inductive NameMatcher where
  | exact (name : String)
  | glob (pattern : String) (program : Regex.Program)
  | regex (r : RegexField)
  | anyShallow
  | anyDeep

namespace NameMatcher

/-- The regular expression that a regex field compiles to: its pattern matched against the whole
name, case folded when asked. -/
def compileRegex (pattern : String) (caseless : Bool) : Except Regex.PatternError Regex.Program :=
  (Regex.Pattern.parseWith { caseless := caseless } ("^(?:" ++ pattern ++ ")$")).map
    Regex.Program.compile

/-- The regular expression text of one character of a glob pattern: `*` any run, `?` any one
character, and every other character itself. -/
def wildcardPiece (c : Char) : String :=
  if c = '*' then ".*" else if c = '?' then "." else Regex.escape c

/-- The regular expression a glob pattern translates to: its pieces in a group with the dot
matching every character, the line feed included, anchored at both ends of the name. -/
def wildcardText (pattern : String) : String :=
  "^(?s:" ++ String.join (pattern.toList.map wildcardPiece) ++ ")$"

/-- A glob matcher, or the fault of the regular expression it translates to. -/
def wildcard (pattern : String) : Except Regex.PatternError NameMatcher :=
  (Regex.Pattern.parse (wildcardText pattern)).map fun p => .glob pattern (Regex.Program.compile p)

/-- A regex matcher, or the fault of its pattern. -/
def ofRegex (literal pattern : String) (caseless : Bool) :
    Except Regex.PatternError NameMatcher :=
  (compileRegex pattern caseless).map fun prog => .regex ⟨literal, pattern, caseless, prog⟩

/-- Whether the matcher selects the name. -/
def accepts : NameMatcher → String → Bool
  | .exact n, s => n == s
  | .glob _ prog, s => prog.isMatch s
  | .regex r, s => r.program.isMatch s
  | .anyShallow, _ => true
  | .anyDeep, _ => true

/-- The specificity of the matcher. -/
def specificity : NameMatcher → Specificity
  | .exact _ => .exact
  | .glob p _ => .glob (Glob.literalCount p.toList)
  | .regex _ => .regex
  | .anyShallow => .anyShallow
  | .anyDeep => .anyDeep

/-- The text under which same-named siblings merge: the name, the glob, the regex field as
written, or the star tokens. -/
def literal : NameMatcher → String
  | .exact n => n
  | .glob p _ => p
  | .regex r => r.literal
  | .anyShallow => "*"
  | .anyDeep => "**"

/-- The kind of the matcher in reports. -/
def kind : NameMatcher → String
  | .exact _ => "exact"
  | .glob _ _ => "wildcard"
  | .regex _ => "regex"
  | .anyShallow => "any-shallow"
  | .anyDeep => "any-deep"

/-- Whether the matcher is an exact name. -/
def isExact : NameMatcher → Bool
  | .exact _ => true
  | _ => false

/-- Whether the matcher is the any-deep token. -/
def isAnyDeep : NameMatcher → Bool
  | .anyDeep => true
  | _ => false

/-- Whether two matchers select alike by construction: same name, same glob, or same regex
pattern and case flag (however delimited), or the same star token. -/
def sameAs : NameMatcher → NameMatcher → Bool
  | .exact a, .exact b => a == b
  | .glob a _, .glob b _ => a == b
  | .regex a, .regex b => a.pattern == b.pattern && a.caseless == b.caseless
  | .anyShallow, .anyShallow => true
  | .anyDeep, .anyDeep => true
  | _, _ => false

end NameMatcher

end FieldSelection
