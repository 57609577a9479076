import FieldSelection.Selection.Node
import FieldSelection.Json.Value
/-!
# Showing compiled selections

Two views of a compiled forest. `Node.toJson` gives each node as an object with its name, its
kind, the marks it has (each as `true`, absent when not set) and its children when it has any.
`Node.treeText` gives one line per node, indented two spaces per level: the name, with a minus
when negated, and in parentheses the kind followed by `nested`, `empty`, `dot-path` and
`negative-parent` for the marks it has.

For a terminal the tree lines may be coloured: a negated name red and bold, the any-deep token
yellow and bold, any other name green, and the parenthesis dimmed. Uncoloured lines are the
coloured ones with the colour codes left out.
-/

namespace FieldSelection.Node

/-- The marks of a node that are set, under their names in node objects. -/
def markMembers (f : NodeMarks) : List (String × Json.Value) :=
  [("negated", f.negated), ("squiggly", f.braced), ("emptyNested", f.emptyNested),
    ("dotPathed", f.dotPathed), ("negativeParent", f.negativeParent)].filterMap fun (k, b) =>
    if b then some (k, .bool true) else none

/-- The words for the marks of a node that are set, in tree lines. -/
def markWords (f : NodeMarks) : List String :=
  [("nested", f.braced), ("empty", f.emptyNested), ("dot-path", f.dotPathed),
    ("negative-parent", f.negativeParent)].filterMap fun (w, b) => if b then some w else none

mutual

/-- A node as an object: name, kind, the marks that are set and the children, if any. -/
def toJson : Node → Json.Value
  | .mk m f _ cs =>
    let base := [("name", Json.Value.string m.literal), ("kind", .string m.kind)] ++ markMembers f
    match cs with
    | [] => .object base
    | _ => .object (base ++ [("children", .array (forestJson cs))])

/-- The objects of a forest. -/
def forestJson : List Node → List Json.Value
  | [] => []
  | n :: ns => toJson n :: forestJson ns

end

/-- Text `s` drawn with the terminal style `code`, or plain when `color` is off. -/
def paint (color : Bool) (code s : String) : String :=
  if color then "\x1b[" ++ code ++ "m" ++ s ++ "\x1b[0m" else s

mutual

/-- The lines of a node and its descendants, indented for `depth`; coloured when `color`. -/
def treeLines (color : Bool) (depth : Nat) : Node → List String
  | .mk m f _ cs =>
    let name := if f.negated then paint color "1;31" ("-" ++ m.literal)
      else if m.isAnyDeep then paint color "1;33" m.literal
      else paint color "32" m.literal
    let line := String.join (List.replicate depth "  ") ++ name ++ " " ++
      paint color "2" ("(" ++ ", ".intercalate (m.kind :: markWords f) ++ ")")
    line :: forestLines color (depth + 1) cs

/-- The lines of a forest at `depth`. -/
def forestLines (color : Bool) (depth : Nat) : List Node → List String
  | [] => []
  | n :: ns => treeLines color depth n ++ forestLines color depth ns

end

/-- The tree text of a forest, each line ended by a line feed; coloured when `color`. -/
def treeTextWith (color : Bool) (ns : List Node) : String :=
  String.join ((forestLines color 0 ns).map (· ++ "\n"))

/-- The uncoloured tree text of a forest. -/
def treeText (ns : List Node) : String := treeTextWith false ns

end FieldSelection.Node
