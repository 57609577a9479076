import FieldSelection.Text.Blank
/-!
# Cache specifications

A `CacheSpec` bounds a cache: an optional largest number of entries and optional lifetimes
after the last access and after the last write, in whole seconds. Its text is a comma-separated
list of `key=value` items, such as `maximumSize=1000,expireAfterAccess=10m`:

* blank items are skipped, and blanks around keys and values are ignored;
* `maximumSize` takes a decimal number below 2^64, with an optional leading plus sign;
* the two lifetimes take a number and one of the units `s`, `m`, `h`, `d`;
* a later item for a key overrides an earlier one.

`CacheSpec.text` writes a spec back, each lifetime in the largest unit that divides it.
-/

namespace FieldSelection

/-- Size and lifetime bounds of a cache. -/
structure CacheSpec where
  maximumSize : Option Nat := none
  expireAfterAccess : Option Nat := none
  expireAfterWrite : Option Nat := none
  deriving DecidableEq, Repr

/-- Why a number of a spec does not read. -/
inductive NumberFault where
  | empty
  | invalidDigit
  | tooLarge
  deriving DecidableEq, Repr

/-- The wording of a number fault. -/
def NumberFault.message : NumberFault → String
  | .empty => "cannot parse integer from empty string"
  | .invalidDigit => "invalid digit found in string"
  | .tooLarge => "number too large to fit in target type"

/-- Why the text of a spec does not read. -/
inductive SpecFault where
  | notKeyValue (item : String)
  | badSize (fault : NumberFault)
  | unknownKey (key : String)
  | missingUnit (value : String)
  | badAmount (value : String)
  | unknownUnit (unit : String)
  | outOfRange (value : String)
  deriving DecidableEq, Repr

/-- The wording of a spec fault. -/
def SpecFault.reason : SpecFault → String
  | .notKeyValue item => "expected 'key=value', got '" ++ item ++ "'"
  | .badSize f => "maximumSize: " ++ f.message
  | .unknownKey k => "unknown key '" ++ k ++ "'"
  | .missingUnit v => "duration '" ++ v ++ "' is missing a unit (s, m, h, d)"
  | .badAmount v => "invalid duration '" ++ v ++ "'"
  | .unknownUnit u => "unknown duration unit '" ++ u ++ "'"
  | .outOfRange v => "duration '" ++ v ++ "' is out of range"

/-- A spec text that does not read, with the reason. -/
structure SpecError where
  text : String
  fault : SpecFault
  deriving DecidableEq, Repr

/-- The message of a spec error. -/
def SpecError.message (e : SpecError) : String :=
  "Invalid cache spec '" ++ e.text ++ "': " ++ e.fault.reason

/-- The largest number a bound may be. -/
def wordLimit : Nat := Nat.pow 2 64 - 1

/-- Reads decimal digits below 2^64, the first fault from the left winning. -/
def readDigits : List Char → Nat → Except NumberFault Nat
  | [], acc => .ok acc
  | c :: cs, acc =>
    if c.isDigit then
      let acc := acc * 10 + (c.toNat - '0'.toNat)
      if acc > wordLimit then .error .tooLarge else readDigits cs acc
    else .error .invalidDigit

/-- Reads an unsigned number below 2^64, with an optional leading plus sign. -/
def readWord (cs : List Char) : Except NumberFault Nat :=
  match cs with
  | [] => .error .empty
  | ['+'] => .error .invalidDigit
  | '+' :: rest => readDigits rest 0
  | _ => readDigits cs 0

/-- The seconds of a duration unit. -/
def unitSeconds : String → Option Nat
  | "s" => some 1
  | "m" => some 60
  | "h" => some 3600
  | "d" => some 86400
  | _ => none

/-- The lifetime of `amount` units of `secs` seconds each, refused past the largest bound. -/
def scaledLifetime (value : String) (amount secs : Nat) : Except SpecFault Nat :=
  if amount * secs > wordLimit then .error (.outOfRange value) else .ok (amount * secs)

/-- Reads a lifetime: digits, then a unit. A text without a unit is refused first, then one
without a readable amount, then one with an unknown unit. -/
def readDuration (value : String) : Except SpecFault Nat :=
  let cs := value.toList
  let digits := cs.takeWhile fun c => c.isDigit
  let unit := String.ofList (cs.drop digits.length)
  if digits.length == cs.length then .error (.missingUnit value)
  else
    match readDigits digits 0, digits.isEmpty, unitSeconds unit with
    | .ok amount, false, some secs => scaledLifetime value amount secs
    | .ok _, false, none => .error (.unknownUnit unit)
    | _, _, _ => .error (.badAmount value)

/-- Sets the bound that `key` names to `value`. -/
def applyEntry (spec : CacheSpec) (key value : String) : Except SpecFault CacheSpec := do
  match key with
  | "maximumSize" =>
    match readWord value.toList with
    | .ok n => return { spec with maximumSize := some n }
    | .error f => throw (.badSize f)
  | "expireAfterAccess" => return { spec with expireAfterAccess := some (← readDuration value) }
  | "expireAfterWrite" => return { spec with expireAfterWrite := some (← readDuration value) }
  | other => throw (.unknownKey other)

/-- Applies one `key=value` item to a spec: the key is what stands before the first `=`, the
value what follows it, both trimmed. -/
def applyItem (spec : CacheSpec) (item : String) : Except SpecFault CacheSpec := do
  let cs := item.toList
  let keyPart := cs.takeWhile (· != '=')
  if keyPart.length == cs.length then throw (.notKeyValue item)
  applyEntry spec (Text.trim (String.ofList keyPart))
    (Text.trim (String.ofList (cs.drop (keyPart.length + 1))))

/-- The items of a spec text: its pieces between commas, trimmed, the blank ones left out. -/
def specItems (text : String) : List String :=
  ((text.toList.splitOn ',').map fun cs => Text.trim (String.ofList cs)).filter (· != "")

/-- Reads the text of a spec. -/
def CacheSpec.parse (text : String) : Except SpecError CacheSpec :=
  ((specItems text).foldlM applyItem {}).mapError fun f => ⟨text, f⟩

/-- A lifetime in the largest unit that divides it; zero is `0s`. -/
def durationText (secs : Nat) : String :=
  if secs > 0 && secs % 86400 == 0 then toString (secs / 86400) ++ "d"
  else if secs > 0 && secs % 3600 == 0 then toString (secs / 3600) ++ "h"
  else if secs > 0 && secs % 60 == 0 then toString (secs / 60) ++ "m"
  else toString secs ++ "s"

/-- The items of the text of a spec: its bounds that are set, in the order size, access,
write. -/
def CacheSpec.items (spec : CacheSpec) : List String :=
  (spec.maximumSize.map fun n => "maximumSize=" ++ toString n).toList ++
    (spec.expireAfterAccess.map fun d => "expireAfterAccess=" ++ durationText d).toList ++
    (spec.expireAfterWrite.map fun d => "expireAfterWrite=" ++ durationText d).toList

/-- The text of a spec: its items joined by commas. -/
def CacheSpec.text (spec : CacheSpec) : String := ",".intercalate spec.items

/-- The default bound of both caches: a thousand entries. -/
def CacheSpec.standard : CacheSpec := { maximumSize := some 1000 }

/-- A lifetime as a debug text: whole seconds, or `0ns` for zero. -/
def durationDebug (secs : Nat) : String :=
  if secs == 0 then "0ns" else toString secs ++ "s"

/-- An optional bound as a debug text. -/
def optionDebug (f : Nat → String) : Option Nat → String
  | some n => "Some(" ++ f n ++ ")"
  | none => "None"

/-- The debug text of a spec. -/
def CacheSpec.debugText (spec : CacheSpec) : String :=
  "CacheSpec \x7b maximum_size: " ++ optionDebug toString spec.maximumSize ++
    ", expire_after_access: " ++ optionDebug durationDebug spec.expireAfterAccess ++
    ", expire_after_write: " ++ optionDebug durationDebug spec.expireAfterWrite ++ " \x7d"

end FieldSelection
