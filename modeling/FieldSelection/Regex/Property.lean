import FieldSelection.Regex.CharSet
import FieldSelection.Text.Category
import FieldSelection.Text.Script
import FieldSelection.Text.BinaryProperty
import FieldSelection.Text.Segment
import FieldSelection.Text.PropertyName
/-!
# Unicode property classes

A property class `\p{..}` names a set of characters by a Unicode property. Its text is one
letter (`\pL`), a name (`\p{Greek}`), or a property and a value joined by `=`, `:` or `!=`
(`\p{sc=Greek}`, the last naming the complement). Names are compared in their loose form.

A name alone is, in this order: a binary property (`Alphabetic`, `White_Space`, ...), a
general category (`L`, `Lu`, `Letter`, or `Any`, `ASCII` and `Assigned`), or a script by the
Script property. The abbreviations `cf`, `sc` and `lc` are taken as the categories `Format`,
`Currency_Symbol` and `Cased_Letter`, not as the properties they also abbreviate. A name that
is a property without being binary, such as `Script`, names no set.

With a value, the property may be the general category, Script, Script_Extensions, Age (every
character assigned up to that version), or the grapheme cluster, word or sentence break
property. A name that is no property is refused as such; a value the property lacks, or a
property whose values cannot be named, is refused as a value that is not found.
-/

namespace FieldSelection.Regex

/-- Why a property class names no set. -/
inductive PropertyFault where
  | propertyNotFound
  | valueNotFound
  deriving DecidableEq, Repr

/-- What a property class asks for. -/
inductive PropertyQuery where
  | oneLetter (c : Char)
  | named (name : String)
  | byValue (property value : String)
  deriving DecidableEq, Repr

/-- The loose form of a name: ASCII only, lower case, without spaces, `_` and `-`, and without
a leading `is`, except that `isc` stays. -/
def looseName (s : String) : String :=
  let cs := s.toList
  let startsIs := match cs with
    | a :: b :: _ => (a == 'i' || a == 'I') && (b == 's' || b == 'S')
    | _ => false
  let body := (if startsIs then cs.drop 2 else cs).filterMap fun c =>
    if c == ' ' || c == '_' || c == '-' || c.toNat > 0x7F then none
    else some c.toLower
  if startsIs && body == ['c'] then "isc" else String.ofList body

/-- The entry of `key` in a table of pairs. -/
def entryFor (table : List (String × String)) (key : String) : Option String :=
  (table.find? (·.1 == key)).map (·.2)

/-- The set of a packed table. -/
def packedSet (packed : String) : CharSet := ⟨Text.unpackRanges packed⟩

/-- The set of the packed table of `name` in `table`. -/
def tableSet (table : List (String × String)) (name : String) : Option CharSet :=
  (entryFor table name).map packedSet

/-- The categories a general category is made of, itself when it is made of none. -/
def categoryParts : String → List String
  | "Letter" =>
    ["Uppercase_Letter", "Lowercase_Letter", "Titlecase_Letter", "Modifier_Letter", "Other_Letter"]
  | "Cased_Letter" => ["Uppercase_Letter", "Lowercase_Letter", "Titlecase_Letter"]
  | "Mark" => ["Spacing_Mark", "Enclosing_Mark", "Nonspacing_Mark"]
  | "Number" => ["Decimal_Number", "Letter_Number", "Other_Number"]
  | "Punctuation" =>
    ["Connector_Punctuation", "Dash_Punctuation", "Open_Punctuation", "Close_Punctuation",
      "Initial_Punctuation", "Final_Punctuation", "Other_Punctuation"]
  | "Symbol" => ["Math_Symbol", "Currency_Symbol", "Modifier_Symbol", "Other_Symbol"]
  | "Separator" => ["Space_Separator", "Line_Separator", "Paragraph_Separator"]
  | "Other" => ["Control", "Format", "Unassigned", "Private_Use"]
  | name => [name]

/-- The set of a general category by its long name, or of `Any`, `ASCII` or `Assigned`. -/
def categorySet (name : String) : Option CharSet :=
  match name with
  | "Any" => some CharSet.full
  | "ASCII" => some ⟨[(0, 0x7F)]⟩
  | "Assigned" => (tableSet Text.categoryRanges "Unassigned").map CharSet.complement
  | _ =>
    (categoryParts name).foldlM (fun acc part =>
      (tableSet Text.categoryRanges part).map (CharSet.union acc)) CharSet.empty

/-- The long name of a general category from its loose name. -/
def canonicalCategory (loose : String) : Option String :=
  match loose with
  | "any" => some "Any"
  | "assigned" => some "Assigned"
  | "ascii" => some "ASCII"
  | _ => entryFor Text.categoryNames loose

/-- A set, or the fault `f` when there is none. -/
def orFault (f : PropertyFault) : Option CharSet → Except PropertyFault CharSet
  | some s => .ok s
  | none => .error f

/-- The set of every character assigned up to the version `age`. -/
def ageSet (age : String) : Option CharSet :=
  let names := Text.ageRanges.map (·.1)
  match names.idxOf? age with
  | some i => some ((Text.ageRanges.take (i + 1)).foldl (fun acc e => acc.union (packedSet e.2))
      CharSet.empty)
  | none => none

/-- The set a name alone stands for. -/
def namedSet (name : String) : Except PropertyFault CharSet :=
  let loose := looseName name
  let property := if loose == "cf" || loose == "sc" || loose == "lc" then none
    else entryFor Text.propertyNames loose
  match property with
  | some canon => orFault .propertyNotFound (tableSet Text.binaryPropertyRanges canon)
  | none =>
    match canonicalCategory loose with
    | some canon => orFault .valueNotFound (categorySet canon)
    | none =>
      match entryFor Text.scriptNames loose with
      | some canon => orFault .valueNotFound (tableSet Text.scriptRanges canon)
      | none => .error .propertyNotFound

/-- The set a property and a value stand for. -/
def valueSet (property value : String) : Except PropertyFault CharSet :=
  let v := looseName value
  let found := fun (names : List (String × String)) (set : String → Option CharSet) =>
    match entryFor names v with
    | some canon => orFault .valueNotFound (set canon)
    | none => .error .valueNotFound
  match entryFor Text.propertyNames (looseName property) with
  | none => .error .propertyNotFound
  | some "General_Category" =>
    match canonicalCategory v with
    | some canon => orFault .valueNotFound (categorySet canon)
    | none => .error .valueNotFound
  | some "Script" => found Text.scriptNames (tableSet Text.scriptRanges)
  | some "Script_Extensions" => found Text.scriptNames (tableSet Text.scriptExtensionRanges)
  | some "Age" => found Text.ageNames ageSet
  | some "Grapheme_Cluster_Break" => found Text.graphemeBreakNames (tableSet Text.graphemeBreakRanges)
  | some "Word_Break" => found Text.wordBreakNames (tableSet Text.wordBreakRanges)
  | some "Sentence_Break" => found Text.sentenceBreakNames (tableSet Text.sentenceBreakRanges)
  | some _ => .error .valueNotFound

/-- The set a property class asks for, before any negation. -/
def PropertyQuery.set : PropertyQuery → Except PropertyFault CharSet
  | .oneLetter c => namedSet c.toString
  | .named name => namedSet name
  | .byValue property value => valueSet property value

/-- What the text between the braces of a property class asks for, and whether it is
written with `!=`. -/
def PropertyQuery.ofText (text : String) : PropertyQuery × Bool :=
  match text.splitOn "!=" with
  | p :: rest@(_ :: _) => (.byValue p ("!=".intercalate rest), true)
  | _ =>
    match text.splitOn ":" with
    | p :: rest@(_ :: _) => (.byValue p (":".intercalate rest), false)
    | _ =>
      match text.splitOn "=" with
      | p :: rest@(_ :: _) => (.byValue p ("=".intercalate rest), false)
      | _ => (.named text, false)

end FieldSelection.Regex
