import FieldSelection.Selection.Node
import FieldSelection.Views
/-!
# Deciding one property

A `NodeSet` is what applies at one level of a document: explicit nodes, everything below
(`**`), nothing (`[]`), the base fields only (matched without a nested expression), or a view
carried down to nested objects. `decide` says, for one property of one type, whether it is
written and which node set applies to its value.

Under explicit nodes the most specific matching node decides. A negated match at least as
specific as every positive one excludes the property. Otherwise the positive matches of the
highest rank include it, pooling their nested nodes when there are several. Without a match, an
exact node naming a view that holds the property includes it, unless that node is negated.
Unwrapped properties are always included, with the node set of their parent.

Node lists have an identity, `ListIdent`, so that caches can tell lists apart that are equal
but were built separately.
-/

namespace FieldSelection

/-- The identity of a node list. -/
inductive ListIdent where
  /-- the one empty list of blank expressions -/
  | blank
  /-- list number `slot` of compilation number `run`: the top level is slot zero, the
  children of a node are at the node's slot -/
  | compiled (run slot : Nat)
  /-- a list pooled from the nested nodes of equally specific matches -/
  | pooled (serial : Nat)
  deriving DecidableEq, Repr, Hashable

/-- A list of nodes with its identity; all its nodes come from compilation `run`. -/
structure NodeList where
  ident : ListIdent
  run : Nat
  nodes : List Node

/-- A forest compiled on its own, outside any cache, as compilation number zero. -/
def NodeList.ofForest (nodes : List Node) : NodeList := ⟨.compiled 0 0, 0, nodes⟩

/-- The list of the nested nodes of `n`, a member of a list of compilation `run`. -/
def NodeList.childrenOf (run : Nat) (n : Node) : NodeList :=
  ⟨.compiled run n.slot, run, n.children⟩

/-- What applies at one level of a document. -/
inductive NodeSet where
  | nodes (l : NodeList)
  | anyDeep
  | nothing
  | unfiltered
  | view (name : String)

/-- What a node set is as a cache key: the identity of its list, or the view, or the kind. -/
inductive SetKey where
  | list (ident : ListIdent)
  | anyDeep
  | nothing
  | unfiltered
  | view (name : String)
  deriving DecidableEq, Repr, Hashable

/-- The cache key of a node set. -/
def NodeSet.key : NodeSet → SetKey
  | .nodes l => .list l.ident
  | .anyDeep => .anyDeep
  | .nothing => .nothing
  | .unfiltered => .unfiltered
  | .view v => .view v

/-- Whether a node set is the any-deep set. -/
def NodeSet.isAnyDeep : NodeSet → Bool
  | .anyDeep => true
  | _ => false

/-- The answer for one property. -/
structure Decision where
  included : Bool
  /-- what applies to the property's value; `nothing` when excluded -/
  children : NodeSet
  /-- included because a view token named a view holding the property -/
  viaView : Bool

namespace Decision

/-- Inclusion with the node set below. -/
def shown (children : NodeSet) : Decision := ⟨true, children, false⟩

/-- Exclusion. -/
def hidden : Decision := ⟨false, .nothing, false⟩

end Decision

/-- Whether the property counts as a base field under the settings. -/
def includesBase (info : TypeViews) (p : String) (cfg : FilterConfig) : Bool :=
  cfg.implicitBase && info.isBase p

/-- The node set below a single winner. -/
def singleChildren (run : Nat) (n : Node) : NodeSet :=
  if !n.children.isEmpty then .nodes (NodeList.childrenOf run n)
  else if n.marks.emptyNested then .nothing
  else if n.matcher.isAnyDeep then .anyDeep
  else .unfiltered

/-- The node set below equally specific winners: the pooled nested nodes, if any, as a new
list of identity `pool`. -/
def winnerChildren (run : Nat) (pool : ListIdent) (winners : List Node) : NodeSet :=
  match winners with
  | [w] => singleChildren run w
  | _ =>
    let pooled := winners.flatMap Node.children
    if !pooled.isEmpty then .nodes ⟨pool, run, pooled⟩
    else if winners.any (·.matcher.isAnyDeep) then .anyDeep
    else if winners.all (·.marks.emptyNested) then .nothing
    else .unfiltered

/-- The scan of the matching nodes: the winners of the highest positive rank so far, that rank,
and the highest negated rank. -/
structure Scan where
  winners : List Node := []
  rank : Option Specificity := none
  negated : Option Specificity := none

/-- Adds one node to the scan when it matches `p`. -/
def Scan.step (p : String) (s : Scan) (n : Node) : Scan :=
  if !n.matcher.accepts p then s
  else
    let r := n.matcher.specificity
    if n.marks.negated then
      { s with negated := some (match s.negated with
        | some q => Specificity.max q r
        | none => r) }
    else
      match s.rank with
      | some q =>
        if Specificity.lt r q then s
        else if Specificity.lt q r then { s with winners := [n], rank := some r }
        else { s with winners := s.winners ++ [n] }
      | none => { s with winners := [n], rank := some r }

/-- The first exact node naming a view of the type that holds `p`. -/
def viewNode? (nodes : List Node) (p : String) (info : TypeViews) : Option Node :=
  nodes.find? fun n => n.matcher.isExact && info.viewContains n.name p

/-- How explicit nodes settle a property. -/
inductive Verdict where
  /-- a negated match at least as specific as every positive one -/
  | negated
  /-- the positive matches of the highest rank -/
  | winners (ws : List Node)
  /-- no match, but an exact node names a view that holds the property -/
  | viewToken (n : Node)
  /-- nothing applies -/
  | unmatched

/-- How the nodes settle property `p` of a type with views `info`. -/
def verdict (nodes : List Node) (p : String) (info : TypeViews) : Verdict :=
  let s := nodes.foldl (Scan.step p) {}
  let negatedWins := match s.negated, s.rank with
    | some q, some r => Specificity.le r q
    | some _, none => true
    | none, _ => false
  if negatedWins then .negated
  else if !s.winners.isEmpty then .winners s.winners
  else
    match viewNode? nodes p info with
    | some n => .viewToken n
    | none => .unmatched

/-- The decision under explicit nodes; a list pooled from several winners gets identity
`pool`. -/
def decideNodes (l : NodeList) (p : String) (info : TypeViews) (cfg : FilterConfig)
    (pool : ListIdent) : Decision :=
  match verdict l.nodes p info with
  | .negated => .hidden
  | .winners ws => .shown (winnerChildren l.run pool ws)
  | .viewToken n =>
    if n.marks.negated then .hidden
    else
      let children :=
        if !n.children.isEmpty then .nodes (NodeList.childrenOf l.run n)
        else if n.marks.emptyNested then .nothing
        else if cfg.propagateViews then .view n.name
        else .unfiltered
      ⟨true, children, true⟩
  | .unmatched => .hidden

/-- Whether property `p` of a type with views `info` is written under `s`, and what applies to
its value; a list pooled from several equally specific matches gets identity `pool`. -/
def decide (s : NodeSet) (p : String) (info : TypeViews) (cfg : FilterConfig)
    (pool : ListIdent := .pooled 0) : Decision :=
  if info.isUnwrapped p then .shown s
  else
    match s with
    | .anyDeep => .shown .anyDeep
    | .nothing => .hidden
    | .unfiltered => if includesBase info p cfg then .shown .unfiltered else .hidden
    | .view v =>
      let included := if info.isOpen then true
        else if info.isView v then info.viewContains v p
        else includesBase info p cfg
      if included then .shown (.view v) else .hidden
    | .nodes l => decideNodes l p info cfg pool

end FieldSelection
