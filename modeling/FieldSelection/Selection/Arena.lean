import FieldSelection.Selection.Draft
/-!
# The arena a selection is built in

While an expression is read, its nodes are kept in an `Arena`: a growing array of
`ArenaNode`s addressed by their index, the id, with the synthetic root at id 0. Each node
holds the ids of its children in insertion order and an index from the literal of each child
to its id. `Arena.addChild` consults the index of the parent to merge a field into the child
of the same literal, and otherwise appends a new node and files it in the index. The marks of
a node are changed in place by `Arena.modifyMarks`.

Once the expression is read, `Arena.analyze` gives a child `base` to every node whose
children are all exclusions, the nodes being found first and given their child after, and
`Arena.freezeChildren` reads the children of the root back as the compiled forest.

Reading a node back follows the ids of its children with no bound of its own, so on an arena
whose ids run in a cycle it would not end. `Arena.tree` reads to a given number of levels,
and the walks of `Arena.analyze` and `Arena.freezeChildren` allow as many levels as the arena
has nodes, failing past them. Following an id that names no node fails as well.
-/

namespace FieldSelection

/-- A node of the arena: matcher, marks, the ids of its children in insertion order, and the
index from the literal of each child to its id. -/
structure ArenaNode where
  matcher : NameMatcher
  marks : NodeMarks
  children : List Nat
  byName : List (String × Nat)

namespace ArenaNode

/-- A node with no children yet. -/
def fresh (matcher : NameMatcher) (marks : NodeMarks) : ArenaNode := ⟨matcher, marks, [], []⟩

/-- The node after a field with marks `incoming` merged into it. -/
def merge (incoming : NodeMarks) (n : ArenaNode) : ArenaNode :=
  { n with marks := Draft.mergeMarks n.marks incoming }

/-- The node with the child `id` of literal `key` appended and filed in the index. -/
def adopt (key : String) (id : Nat) (n : ArenaNode) : ArenaNode :=
  { n with children := n.children ++ [id], byName := (key, id) :: n.byName }

/-- The node no longer dot-pathed. -/
def undot (n : ArenaNode) : ArenaNode := { n with marks := { n.marks with dotPathed := false } }

end ArenaNode

/-- The nodes of a selection under construction, addressed by id. -/
structure Arena where
  nodes : Array ArenaNode

namespace Arena

/-- The arena of the synthetic root alone, at id 0. -/
def new : Arena := ⟨#[.fresh (.exact "root") { dotPathed := true }]⟩

/-- Puts a field with matcher `m` and marks `f` under the node `parent`: merged into the child
the index files under its literal, or appended as a new node at the next id and filed there.
The parent stops being dot-pathed when the child that now stands for the field is not. Answers
the arena and the id of that child; `none` when an id it follows names no node. -/
def addChild (a : Arena) (parent : Nat) (m : NameMatcher) (f : NodeMarks) :
    Option (Arena × Nat) := do
  let p ← a.nodes[parent]?
  let (nodes, id) ← match p.byName.lookup m.literal with
    | some existing =>
      if existing < a.nodes.size then some (a.nodes.modify existing (·.merge f), existing)
      else none
    | none =>
      some ((a.nodes.push (.fresh m f)).modify parent (·.adopt m.literal a.nodes.size),
        a.nodes.size)
  let child ← nodes[id]?
  some (⟨if child.marks.dotPathed then nodes else nodes.modify parent (·.undot)⟩, id)

/-- Changes the marks of the node `id` by `g`; `none` when `id` names no node. -/
def modifyMarks (a : Arena) (id : Nat) (g : NodeMarks → NodeMarks) : Option Arena :=
  if id < a.nodes.size then some ⟨a.nodes.modify id fun n => { n with marks := g n.marks }⟩
  else none

/-- The tree below the node `id`, read to at most `fuel` levels. -/
def tree (a : Arena) : Nat → Nat → Option Draft
  | 0, _ => none
  | fuel + 1, id => do
    let n ← a.nodes[id]?
    let cs ← n.children.mapM (a.tree fuel)
    some (.mk n.matcher n.marks cs)

/-- The compiled forest of the children of the node `id`. -/
def freezeChildren (a : Arena) (id : Nat) : Option (List Node) :=
  (a.tree a.nodes.size id).map Draft.compile

/-- The ids, in preorder from `id` and to at most `fuel` levels, of the nodes that have
children and only exclusions among them. -/
def collect (a : Arena) : Nat → Nat → Option (List Nat)
  | 0, _ => none
  | fuel + 1, id => do
    let n ← a.nodes[id]?
    if n.children.isEmpty then some [] else
    let kids ← n.children.mapM (a.nodes[·]?)
    let here := if kids.all fun c => c.marks.negated || c.marks.negativeParent then [id] else []
    let below ← n.children.mapM (a.collect fuel)
    some (here ++ below.flatten)

/-- Gives the node `parent` a child `base`, dot-pathed when the parent is. -/
def addBase (a : Arena) (parent : Nat) : Option Arena := do
  let p ← a.nodes[parent]?
  let (a, _) ← a.addChild parent (.exact "base") { dotPathed := p.marks.dotPathed }
  some a

/-- Gives a child `base` to every node below `root` that has children and only exclusions
among them. -/
def analyze (a : Arena) (root : Nat) : Option Arena := do
  let pending ← a.collect a.nodes.size root
  pending.foldlM addBase a

end Arena

end FieldSelection
