import FieldSelection.Json.Value
import FieldSelection.Json.Shortest
/-!
# Writing JSON text

`Value.compact` writes a value on one line without blanks; `Value.pretty` writes it over lines,
two spaces deeper per level, with a space after each colon, and empty arrays and objects kept
on one line. Strings escape the quote, the backslash and the control characters, the usual five
by their letters (b, f, n, r, t) and the others as four lowercase hex digits; every other
character is written as itself.
-/

namespace FieldSelection.Json

/-- The lowercase hex digit of a number below 16. -/
def hexDigit (n : Nat) : Char :=
  if n < 10 then Char.ofNat ('0'.toNat + n) else Char.ofNat ('a'.toNat + n - 10)

/-- The escaped form of one character inside a string. -/
def escapeChar (c : Char) : List Char :=
  if c == '"' then ['\\', '"']
  else if c == '\\' then ['\\', '\\']
  else if c == '\n' then ['\\', 'n']
  else if c == '\r' then ['\\', 'r']
  else if c == '\t' then ['\\', 't']
  else if c == '\x08' then ['\\', 'b']
  else if c == '\x0c' then ['\\', 'f']
  else if c.toNat < 0x20 then ['\\', 'u', '0', '0', hexDigit (c.toNat / 16), hexDigit (c.toNat % 16)]
  else [c]

/-- A string as a JSON string literal. -/
def quote (s : String) : String :=
  String.ofList ('"' :: (s.toList.flatMap escapeChar ++ ['"']))

/-- The text of a number. -/
def Number.text : Number → String
  | .int i => toString i
  | .float bits => floatText bits

namespace Value

mutual

/-- The value on one line, without blanks. -/
def compact : Value → String
  | .null => "null"
  | .bool true => "true"
  | .bool false => "false"
  | .number n => n.text
  | .string s => quote s
  | .array items => "[" ++ ",".intercalate (compactItems items) ++ "]"
  | .object members => "\x7b" ++ ",".intercalate (compactMembers members) ++ "\x7d"

/-- The items of an array, each on one line. -/
def compactItems : List Value → List String
  | [] => []
  | v :: rest => compact v :: compactItems rest

/-- The members of an object, each as key, colon and value on one line. -/
def compactMembers : List (String × Value) → List String
  | [] => []
  | (k, v) :: rest => (quote k ++ ":" ++ compact v) :: compactMembers rest

end

mutual

/-- The value over lines, the inner lines indented by two more spaces than `indent`. -/
def prettyAt (indent : String) : Value → String
  | .array [] => "[]"
  | .object [] => "\x7b\x7d"
  | .array items =>
    "[\n" ++ ",\n".intercalate (prettyItems (indent ++ "  ") items) ++ "\n" ++ indent ++ "]"
  | .object members =>
    "\x7b\n" ++ ",\n".intercalate (prettyMembers (indent ++ "  ") members) ++ "\n" ++ indent ++ "\x7d"
  | .null => "null"
  | .bool true => "true"
  | .bool false => "false"
  | .number n => n.text
  | .string s => quote s

/-- The items of an array, each on its lines at `indent`. -/
def prettyItems (indent : String) : List Value → List String
  | [] => []
  | v :: rest => (indent ++ prettyAt indent v) :: prettyItems indent rest

/-- The members of an object, each on its lines at `indent`. -/
def prettyMembers (indent : String) : List (String × Value) → List String
  | [] => []
  | (k, v) :: rest => (indent ++ quote k ++ ": " ++ prettyAt indent v) :: prettyMembers indent rest

end

/-- The value over lines, two spaces deeper per level. -/
def pretty (v : Value) : String := prettyAt "" v

end Value

end FieldSelection.Json
