import FieldSelection.Selection.Node
/-!
# Building a selection tree

While an expression is read, its nodes grow in a `Draft` tree under a synthetic root. A node is
addressed by the path of literals that leads to it from the root; siblings never share a
literal, so a path names at most one node.

`Draft.addChild` puts a field under the node at a path. A field whose literal is already a
child merges into that child: the child becomes braced if either was, and stays empty-nested,
dot-pathed or a negative parent only if both were; the child keeps its own negation. A parent
with a child that is not dot-pathed is not dot-pathed either.

`Draft.withBaseFallback` then gives every node whose children are all exclusions an extra
child `base`, so that what was not excluded stays in the base view. `Draft.freeze` numbers the
nodes in preorder and yields the compiled forest.
-/

namespace FieldSelection

/-- A node under construction: matcher, marks and children in insertion order. -/
inductive Draft where
  | mk (matcher : NameMatcher) (marks : NodeMarks) (children : List Draft)

namespace Draft

/-- The matcher of the node. -/
def matcher : Draft → NameMatcher
  | .mk m _ _ => m

/-- The marks of the node. -/
def marks : Draft → NodeMarks
  | .mk _ f _ => f

/-- The children of the node. -/
def children : Draft → List Draft
  | .mk _ _ cs => cs

/-- The key of the node among its siblings. -/
def key (d : Draft) : String := d.matcher.literal

/-- The synthetic root under which an expression is read. -/
def root : Draft := .mk (.exact "root") { dotPathed := true } []

/-- The marks of a child after a field with marks `incoming` merged into it. -/
def mergeMarks (existing incoming : NodeMarks) : NodeMarks :=
  { existing with
    braced := existing.braced || incoming.braced
    emptyNested := existing.emptyNested && incoming.emptyNested
    dotPathed := existing.dotPathed && incoming.dotPathed
    negativeParent := existing.negativeParent && incoming.negativeParent }

/-- Children after a field with matcher `m` and marks `f` is put among them: merged into the
child of the same key, or appended. -/
def placeChild (cs : List Draft) (m : NameMatcher) (f : NodeMarks) : List Draft :=
  if cs.any (·.key == m.literal) then
    cs.map fun c => match c with
      | .mk cm cf ccs => if cm.literal == m.literal then .mk cm (mergeMarks cf f) ccs else c
  else cs ++ [.mk m f []]

/-- The marks of the child of key `k`, if there is one. -/
def childMarks? (cs : List Draft) (k : String) : Option NodeMarks :=
  (cs.find? (·.key == k)).map Draft.marks

/-- The node after a field is put among its children; the node stops being dot-pathed when
the child it now has under that key is not. -/
def addHere (d : Draft) (m : NameMatcher) (f : NodeMarks) : Draft :=
  match d with
  | .mk dm df cs =>
    let cs := placeChild cs m f
    let childDotted := ((childMarks? cs m.literal).map (·.dotPathed)).getD true
    .mk dm (if childDotted then df else { df with dotPathed := false }) cs

/-- The tree with `g` applied to the node at `path`; unchanged when no node is there. -/
def modifyAt (g : Draft → Draft) : List String → Draft → Draft
  | [], d => g d
  | k :: ks, .mk m f cs => .mk m f (cs.map fun c => if c.key == k then modifyAt g ks c else c)

/-- The node at `path`, if there is one. -/
def nodeAt? : List String → Draft → Option Draft
  | [], d => some d
  | k :: ks, .mk _ _ cs =>
    match cs.find? (·.key == k) with
    | some c => nodeAt? ks c
    | none => none

/-- The tree after a field with matcher `m` and marks `f` is put under the node at `path`,
with the path of the child that now stands for the field. -/
def addChild (d : Draft) (path : List String) (m : NameMatcher) (f : NodeMarks) :
    Draft × List String :=
  (modifyAt (fun n => addHere n m f) path d, path ++ [m.literal])

/-- The tree with the marks of the node at `path` changed by `g`. -/
def modifyMarks (d : Draft) (path : List String) (g : NodeMarks → NodeMarks) : Draft :=
  modifyAt (fun n => match n with | .mk m f cs => .mk m (g f) cs) path d

/-- Whether a node has children and all of them are exclusions: negated fields or inner steps
of negated dot-paths. -/
def onlyExclusions (d : Draft) : Bool :=
  !d.children.isEmpty && d.children.all fun c => c.marks.negated || c.marks.negativeParent

mutual

/-- The paths, in preorder, of the nodes that have only exclusions as children. -/
def exclusionParents (path : List String) : Draft → List (List String)
  | .mk m f cs =>
    let here := if onlyExclusions (.mk m f cs) then [path] else []
    here ++ exclusionParentsIn path cs

/-- `exclusionParents` over a list of siblings under `path`. -/
def exclusionParentsIn (path : List String) : List Draft → List (List String)
  | [] => []
  | c :: cs => exclusionParents (path ++ [c.key]) c ++ exclusionParentsIn path cs

end

/-- The tree with a child `base` given to every node whose children are all exclusions; the
new child is dot-pathed when its parent is. -/
def withBaseFallback (d : Draft) : Draft :=
  (exclusionParents [] d).foldl (fun t path =>
    let dotted := ((nodeAt? path t).map (·.marks.dotPathed)).getD false
    (t.addChild path (.exact "base") { dotPathed := dotted }).1) d

mutual

/-- Numbers a node and its descendants in preorder from `next`, answering the compiled node
and the next free number. -/
def freeze (next : Nat) : Draft → Node × Nat
  | .mk m f cs =>
    let (children, after) := freezeList (next + 1) cs
    (.mk m f next children, after)

/-- Numbers siblings in preorder from `next`. -/
def freezeList (next : Nat) : List Draft → List Node × Nat
  | [] => ([], next)
  | c :: cs =>
    let (n, after) := freeze next c
    let (ns, last) := freezeList after cs
    (n :: ns, last)

end

/-- The compiled forest of the root's children, numbered from one. -/
def compile (d : Draft) : List Node := (freezeList 1 d.children).1

end Draft

end FieldSelection
