import FieldSelection.Text.Escaped
/-!
# Trace notes

The parts of the program leave notes of what they did: a level of detail, the part that wrote
it (a path such as `field_filter::engine`), a message and named values. A note is shown as its
level in capitals, the message and the values as `name=value`, separated by spaces. Text values
are shown quoted as in debug text, unless they are shown as they are.
-/

namespace FieldSelection

/-- Levels of detail, from the most to the least important. -/
inductive Level where
  | error
  | warn
  | info
  | debug
  | trace
  deriving DecidableEq, Repr

/-- The rank of a level: more detail, higher rank. -/
def Level.rank : Level → Nat
  | .error => 1
  | .warn => 2
  | .info => 3
  | .debug => 4
  | .trace => 5

/-- The name of a level in capitals. -/
def Level.name : Level → String
  | .error => "ERROR"
  | .warn => "WARN"
  | .info => "INFO"
  | .debug => "DEBUG"
  | .trace => "TRACE"

/-- A note left by a part of the program. -/
structure Note where
  level : Level
  /-- the part that wrote it -/
  target : String
  message : String
  /-- named values, each already shown -/
  fields : List (String × String) := []
  deriving DecidableEq, Repr

/-- A text value as shown in a note: quoted as in debug text. -/
def quotedField (s : String) : String := Text.debugQuoted s

/-- The line of a note. -/
def Note.text (n : Note) : String :=
  " ".intercalate (n.level.name :: n.message :: n.fields.map fun (k, v) => k ++ "=" ++ v)

end FieldSelection
