import FieldSelection.Name.Matcher
/-!
# Selection nodes

A compiled selection expression is a forest of `Node`s. Each node has a name matcher, five
marks (`NodeMarks`) and the nodes of its nested expression. Sibling nodes have distinct
literals: fields written twice under one parent are merged while the expression is read (see
`Selection.Draft`).

Each node also carries a `slot`, its number in the preorder of the whole forest, counted from
one. A compiled forest is handed out as shared lists; the slot names the list of a node's
children among the lists of one compilation (the top-level list being number zero), which is
what caches that remember lists by identity need.
-/

namespace FieldSelection

/-- The marks of a node besides its matcher. -/
structure NodeMarks where
  /-- written with a leading minus: the field is excluded -/
  negated : Bool := false
  /-- had an explicit nested expression, or is a step of a dot-path -/
  braced : Bool := false
  /-- written with empty brackets, as in a[] -/
  emptyNested : Bool := false
  /-- reached only through dot-paths -/
  dotPathed : Bool := false
  /-- an inner step of a negated dot-path -/
  negativeParent : Bool := false
  deriving DecidableEq, Repr

/-- A node of a compiled selection: matcher, marks, preorder slot and nested nodes. -/
inductive Node where
  | mk (matcher : NameMatcher) (marks : NodeMarks) (slot : Nat) (children : List Node)

namespace Node

/-- The matcher of the node. -/
def matcher : Node → NameMatcher
  | .mk m _ _ _ => m

/-- The marks of the node. -/
def marks : Node → NodeMarks
  | .mk _ f _ _ => f

/-- The preorder number of the node in its compilation. -/
def slot : Node → Nat
  | .mk _ _ s _ => s

/-- The nodes of the nested expression. -/
def children : Node → List Node
  | .mk _ _ _ cs => cs

/-- The literal of the node's matcher. -/
def name (n : Node) : String := n.matcher.literal

@[simp] theorem matcher_mk (m : NameMatcher) (f : NodeMarks) (s : Nat) (cs : List Node) :
    (Node.mk m f s cs).matcher = m := rfl

@[simp] theorem marks_mk (m : NameMatcher) (f : NodeMarks) (s : Nat) (cs : List Node) :
    (Node.mk m f s cs).marks = f := rfl

@[simp] theorem slot_mk (m : NameMatcher) (f : NodeMarks) (s : Nat) (cs : List Node) :
    (Node.mk m f s cs).slot = s := rfl

@[simp] theorem children_mk (m : NameMatcher) (f : NodeMarks) (s : Nat) (cs : List Node) :
    (Node.mk m f s cs).children = cs := rfl

mutual

/-- Whether two forests are equal node by node, matchers compared by `NameMatcher.sameAs`
and slots ignored. -/
def sameForest : List Node → List Node → Bool
  | [], [] => true
  | a :: as, b :: bs => sameNode a b && sameForest as bs
  | _, _ => false

/-- Whether two nodes are equal, matchers compared by `NameMatcher.sameAs` and slots ignored. -/
def sameNode : Node → Node → Bool
  | .mk m f _ cs, .mk m' f' _ cs' => m.sameAs m' && f == f' && sameForest cs cs'

end

end Node

end FieldSelection
