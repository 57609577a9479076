import FieldSelection.Regex.CharSet
/-!
# Regular expressions

The abstract syntax of the regular expressions that name matchers use, after their flags have
been applied: case-insensitive literals and classes are already closed under case folding, and
the dot is already the set it stands for. The faults that reject a pattern are listed in
`PatternFault`; a `PatternError` is a fault with the place in the pattern it points at.
-/

namespace FieldSelection.Regex

/-- Zero-width conditions on the place between two characters. -/
inductive Look where
  /-- the start of the text -/
  | textStart
  /-- the end of the text -/
  | textEnd
  /-- the start of the text or just after a line feed -/
  | lineStart
  /-- the end of the text or just before a line feed -/
  | lineEnd
  /-- a word character on exactly one side, in the Unicode sense or ASCII only -/
  | wordBoundary (unicode : Bool)
  /-- word characters on both sides or on neither -/
  | notWordBoundary (unicode : Bool)
  /-- a word character after but not before -/
  | wordStart (unicode : Bool)
  /-- a word character before but not after -/
  | wordEnd (unicode : Bool)
  deriving DecidableEq, Repr

/-- A regular expression. -/
inductive Pattern where
  /-- the empty string -/
  | empty
  /-- one character of the set -/
  | chars (set : CharSet)
  /-- the empty string where the condition holds -/
  | look (l : Look)
  /-- the parts one after another -/
  | seq (parts : List Pattern)
  /-- any one of the branches -/
  | alt (branches : List Pattern)
  /-- the body repeated at least `min` and at most `max` times (unbounded when `none`) -/
  | rep (body : Pattern) (min : Nat) (max : Option Nat)
  deriving Repr

/-- The faults that make a pattern text no regular expression. -/
inductive PatternFault where
  | groupUnclosed
  | groupUnopened
  | repetitionMissing
  | repetitionCountUnclosed
  | repetitionCountDecimalEmpty
  | repetitionCountInvalid
  | decimalInvalid
  | lookAroundUnsupported
  | backreferenceUnsupported
  | escapeUnexpectedEnd
  | escapeUnrecognized
  | escapeHexEmpty
  | escapeHexInvalid
  | escapeHexInvalidDigit
  | classUnclosed
  | classRangeInvalid
  | classRangeLiteral
  | classEscapeInvalid
  | flagUnrecognized
  | flagDuplicate
  | flagRepeatedNegation
  | flagDanglingNegation
  | flagUnexpectedEnd
  | groupNameEmpty
  | groupNameInvalid
  | groupNameUnexpectedEnd
  | groupNameDuplicate
  | unicodeClassInvalid
  | unicodeNotAllowed
  | propertyNotFound
  | propertyValueNotFound
  | nestLimitExceeded
  deriving DecidableEq, Repr

/-- The wording of each fault. -/
def PatternFault.message : PatternFault → String
  | .groupUnclosed => "unclosed group"
  | .groupUnopened => "unopened group"
  | .repetitionMissing => "repetition operator missing expression"
  | .repetitionCountUnclosed => "unclosed counted repetition"
  | .repetitionCountDecimalEmpty => "repetition quantifier expects a valid decimal"
  | .repetitionCountInvalid => "invalid repetition count range, the start must be <= the end"
  | .decimalInvalid => "decimal literal invalid"
  | .lookAroundUnsupported =>
    "look-around, including look-ahead and look-behind, is not supported"
  | .backreferenceUnsupported => "backreferences are not supported"
  | .escapeUnexpectedEnd => "incomplete escape sequence, reached end of pattern prematurely"
  | .escapeUnrecognized => "unrecognized escape sequence"
  | .escapeHexEmpty => "hexadecimal literal empty"
  | .escapeHexInvalid => "hexadecimal literal is not a Unicode scalar value"
  | .escapeHexInvalidDigit => "invalid hexadecimal digit"
  | .classUnclosed => "unclosed character class"
  | .classRangeInvalid => "invalid character class range, the start must be <= the end"
  | .classRangeLiteral => "invalid range boundary, must be a literal"
  | .classEscapeInvalid => "invalid escape sequence found in character class"
  | .flagUnrecognized => "unrecognized flag"
  | .flagDuplicate => "duplicate flag"
  | .flagRepeatedNegation => "flag negation operator repeated"
  | .flagDanglingNegation => "flag negation operator dangling"
  | .flagUnexpectedEnd => "expected flag but got end of regex"
  | .groupNameEmpty => "empty capture group name"
  | .groupNameInvalid => "invalid capture group character"
  | .groupNameUnexpectedEnd => "unclosed capture group name"
  | .groupNameDuplicate => "duplicate capture group name"
  | .unicodeClassInvalid => "invalid Unicode character class"
  | .unicodeNotAllowed => "Unicode not allowed here"
  | .propertyNotFound => "Unicode property not found"
  | .propertyValueNotFound => "Unicode property value not found"
  | .nestLimitExceeded => "exceed the maximum number of nested parentheses/brackets (250)"

/-- A range of character positions in a pattern text, the stop excluded. -/
structure CharSpan where
  start : Nat
  stop : Nat
  deriving DecidableEq, Repr

/-- A fault of a pattern with the characters it points at, and for a repeated flag or name the
place of the earlier one. -/
structure PatternError where
  fault : PatternFault
  span : CharSpan
  earlier : Option CharSpan := none
  deriving DecidableEq, Repr

end FieldSelection.Regex
