import FieldSelection.Regex.Syntax
import FieldSelection.Regex.Diagnostic
/-!
# Faults of selection expressions

A selection expression is refused with a `SelectionError`: a syntax fault at a byte offset of
the trimmed expression, or a regular expression field whose pattern is no regular expression,
at the offset where the field starts.
-/

namespace FieldSelection

/-- What the reader expected where it found something else. -/
inductive Expectation where
  /-- a field: a name, a star token or a regular expression -/
  | field
  /-- a comma, or the bracket that closes the nested expression -/
  | commaOrClose (close : Char)
  /-- a comma, or the end of the expression -/
  | commaOrEnd
  /-- a comma, or the parenthesis that closes a field list -/
  | commaOrParen
  deriving DecidableEq, Repr

/-- The syntax faults of selection expressions. -/
inductive SyntaxFault where
  /-- something other than what the grammar allows here; `none` for the end of the text -/
  | unexpected (expected : Expectation) (found : Option Char)
  /-- a negation of the any-deep token -/
  | anyDeepNegated
  /-- brackets after a negated field -/
  | negatedNested
  /-- the any-deep token inside a field list -/
  | anyDeepInFieldList
  /-- the any-deep token as a step of a dot-path -/
  | anyDeepInPath
  /-- a regular expression without its closing delimiter -/
  | unterminatedRegex (delimiter : Char)
  /-- a regular expression with nothing between its delimiters -/
  | emptyRegex
  /-- a flag letter other than i after a regular expression -/
  | unknownRegexFlag (flag : Char)
  deriving DecidableEq, Repr

/-- The text of what was expected. -/
def Expectation.text : Expectation → String
  | .field => "field"
  | .commaOrClose c => "',' or '" ++ c.toString ++ "'"
  | .commaOrEnd => "',' or end of input"
  | .commaOrParen => "',' or ')'"

/-- The wording of a syntax fault. -/
def SyntaxFault.message : SyntaxFault → String
  | .unexpected e (some c) => "expected " ++ e.text ++ ", found '" ++ c.toString ++ "'"
  | .unexpected e none => "expected " ++ e.text ++ ", found end of input"
  | .anyDeepNegated => "'**' cannot be negated"
  | .negatedNested => "negated fields cannot have a nested expression"
  | .anyDeepInFieldList => "'**' is not allowed in a field list"
  | .anyDeepInPath => "'**' cannot be part of a dot-path"
  | .unterminatedRegex d => "unterminated regex, expected closing '" ++ d.toString ++ "'"
  | .emptyRegex => "empty regex pattern"
  | .unknownRegexFlag c => "unknown regex flag '" ++ c.toString ++ "'"

/-- Why an expression does not compile; positions are byte offsets in the trimmed text. -/
inductive SelectionError where
  | malformed (position : Nat) (fault : SyntaxFault)
  | invalidRegex (position : Nat) (pattern : String) (fault : Regex.PatternError)
  deriving Repr

namespace SelectionError

/-- The byte offset of the fault. -/
def position : SelectionError → Nat
  | .malformed p _ => p
  | .invalidRegex p _ _ => p

/-- The message of a syntax fault, with its position. -/
def syntaxMessage (p : Nat) (f : SyntaxFault) : String :=
  "Syntax error at position " ++ toString p ++ ": " ++ f.message

/-- The message of a fault: a syntax fault with its position, or a pattern fault with the
pattern and its diagnostic under the pattern as matched, anchored at both ends. -/
def message : SelectionError → String
  | .malformed p f => syntaxMessage p f
  | .invalidRegex p pat e =>
    "Invalid regex '" ++ pat ++ "' at position " ++ toString p ++ ": " ++
      Regex.diagnostic ("^(?:" ++ pat ++ ")$") e

end SelectionError

end FieldSelection
