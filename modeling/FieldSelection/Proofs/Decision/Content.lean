import Mathlib.Tactic.SplitIfs
import FieldSelection.Decision
/-!
# What a decision depends on

`decide` reads a node list through its nodes only; the list's identity and compilation number
serve only to name the lists it hands down. So node sets that select alike, lists with the same
nodes whatever their identity, get decisions that agree in everything but the identity of those
lists. `NodeSet.content` forgets the identity, and `decide_congr` says that decisions agree up to
it whenever the sets do, whatever identity a pooled list is given.

The lists a decision hands down come from the list it was made under (`decide_handsDown`): the
list itself below an unwrapped property, the nested nodes of one of its nodes, or the nested
nodes of several of its nodes pooled under the identity the caller supplies.
-/

namespace FieldSelection

/-- What a node set selects: the set with the identity of its list forgotten. -/
def NodeSet.content : NodeSet → NodeSet
  | .nodes l => .nodes ⟨.blank, 0, l.nodes⟩
  | s => s

/-- A decision with the identity of the list it hands down forgotten. -/
def Decision.content (d : Decision) : Decision := { d with children := d.children.content }

@[simp] theorem Decision.content_included (d : Decision) : d.content.included = d.included := rfl

@[simp] theorem Decision.content_children (d : Decision) :
    d.content.children = d.children.content := rfl

theorem NodeSet.content_nodes {l l' : NodeList} :
    (NodeSet.nodes l).content = (NodeSet.nodes l').content ↔ l.nodes = l'.nodes := by
  simp [content]

/-! ## Decisions agree on sets that select alike -/

/-- Winners hand down the same content whatever compilation and pool identity they are
given. -/
theorem winnerChildren_content (run run' : Nat) (pool pool' : ListIdent) (ws : List Node) :
    (winnerChildren run pool ws).content = (winnerChildren run' pool' ws).content := by
  unfold winnerChildren singleChildren
  dsimp only
  split <;> split_ifs <;> rfl

/-- Lists with the same nodes get the same decision, up to the identity of what they hand
down. -/
theorem decideNodes_content {l l' : NodeList} (same : l.nodes = l'.nodes) (p : String)
    (info : TypeViews) (cfg : FilterConfig) (pool pool' : ListIdent) :
    (decideNodes l p info cfg pool).content = (decideNodes l' p info cfg pool').content := by
  unfold decideNodes
  rw [same]
  split
  · rfl
  · simp only [Decision.content, Decision.shown, winnerChildren_content l.run l'.run pool pool']
  · split_ifs <;> rfl
  · rfl

/-- A decision, up to the identity of what it hands down, is the decision under the set's
content. -/
theorem decide_content (s : NodeSet) (p : String) (info : TypeViews) (cfg : FilterConfig)
    (pool : ListIdent) :
    (decide s p info cfg pool).content = (decide s.content p info cfg .blank).content := by
  cases s with
  | nodes l =>
    by_cases unwrapped : info.isUnwrapped p = true
    · unfold FieldSelection.decide
      rw [if_pos unwrapped, if_pos unwrapped]
      rfl
    · unfold FieldSelection.decide
      rw [if_neg unwrapped, if_neg unwrapped]
      dsimp only [NodeSet.content]
      exact decideNodes_content (show l.nodes = (⟨.blank, 0, l.nodes⟩ : NodeList).nodes from rfl)
        p info cfg pool .blank
  | anyDeep | nothing | unfiltered | view v => rfl

/-- Node sets that select alike get decisions that agree up to the identity of what they hand
down, whatever identities their pooled lists get. -/
theorem decide_congr {s t : NodeSet} (same : s.content = t.content) (p : String)
    (info : TypeViews) (cfg : FilterConfig) (pool pool' : ListIdent) :
    (decide s p info cfg pool).content = (decide t p info cfg pool').content := by
  rw [decide_content s, decide_content t, same]

/-! ## The lists a decision hands down -/

/-- One step of a scan keeps its winners, joins the node to them, or starts afresh with it. -/
theorem Scan.mem_step_winners {p : String} {s : Scan} {n w : Node}
    (present : w ∈ (Scan.step p s n).winners) : w ∈ s.winners ∨ w = n := by
  unfold Scan.step at present
  dsimp only at present
  split_ifs at present
  · exact .inl present
  · exact .inl present
  · split at present
    · split_ifs at present
      · exact .inl present
      · exact .inr (List.mem_singleton.1 present)
      · exact (List.mem_append.1 present).imp id List.mem_singleton.1
    · exact .inr (List.mem_singleton.1 present)

/-- A scan's winners are winners it started with or nodes it was fed. -/
theorem Scan.winners_foldl {p : String} {w : Node} :
    ∀ (ns : List Node) (s : Scan), w ∈ (ns.foldl (Scan.step p) s).winners → w ∈ s.winners ∨ w ∈ ns
  | [], _, present => .inl present
  | n :: ns, s, present => by
    rcases Scan.winners_foldl ns (Scan.step p s n) present with stepped | fed
    · rcases Scan.mem_step_winners stepped with kept | rfl
      · exact .inl kept
      · exact .inr List.mem_cons_self
    · exact .inr (List.mem_cons_of_mem n fed)

/-- The winners of a verdict are nodes of the list. -/
theorem verdict_winners_mem {ns ws : List Node} {p : String} {info : TypeViews}
    (settled : verdict ns p info = .winners ws) : ∀ w ∈ ws, w ∈ ns := by
  intro w present
  unfold verdict at settled
  dsimp only at settled
  split_ifs at settled
  · cases settled
    simpa using Scan.winners_foldl ns {} present
  · split at settled <;> cases settled

/-- The node of a view-token verdict is a node of the list. -/
theorem verdict_viewToken_mem {ns : List Node} {n : Node} {p : String} {info : TypeViews}
    (settled : verdict ns p info = .viewToken n) : n ∈ ns := by
  unfold verdict at settled
  dsimp only at settled
  split_ifs at settled
  split at settled
  · rename_i found
    cases settled
    exact List.mem_of_find?_eq_some found
  · cases settled

/-- The lists a decision made under list `l` can hand down, a pooled list getting identity
`pool`. -/
inductive NodeList.HandsDown (l : NodeList) (pool : ListIdent) : NodeList → Prop
  /-- the list itself, below an unwrapped property -/
  | whole : HandsDown l pool l
  /-- the nested nodes of one of its nodes -/
  | nested {n : Node} : n ∈ l.nodes → HandsDown l pool (NodeList.childrenOf l.run n)
  /-- the nested nodes of some of its nodes, pooled -/
  | pooled {ws : List Node} : (∀ w ∈ ws, w ∈ l.nodes) →
      HandsDown l pool ⟨pool, l.run, ws.flatMap Node.children⟩

theorem winnerChildren_handsDown {l l' : NodeList} {pool : ListIdent} {ws : List Node}
    (chosen : ∀ w ∈ ws, w ∈ l.nodes) (handed : winnerChildren l.run pool ws = .nodes l') :
    l.HandsDown pool l' := by
  unfold winnerChildren singleChildren at handed
  dsimp only at handed
  split at handed
  · split_ifs at handed
    cases handed
    exact .nested (chosen _ List.mem_cons_self)
  · split_ifs at handed
    cases handed
    exact .pooled chosen

/-- A decision hands down a list only under a list, and then one drawn from it. -/
theorem decide_handsDown {s : NodeSet} {p : String} {info : TypeViews} {cfg : FilterConfig}
    {pool : ListIdent} {l' : NodeList} (handed : (decide s p info cfg pool).children = .nodes l') :
    ∃ l, s = .nodes l ∧ l.HandsDown pool l' := by
  unfold FieldSelection.decide at handed
  split at handed
  · exact ⟨l', handed, .whole⟩
  · cases s with
    | nodes l =>
      refine ⟨l, rfl, ?_⟩
      dsimp only at handed
      unfold decideNodes at handed
      split at handed
      · cases handed
      · rename_i ws settled
        exact winnerChildren_handsDown (verdict_winners_mem settled) handed
      · rename_i n settled
        dsimp only at handed
        split_ifs at handed
        · cases handed
        · cases handed
          exact .nested (verdict_viewToken_mem settled)
      · cases handed
    | anyDeep => cases handed
    | nothing => cases handed
    | unfiltered =>
      dsimp only at handed
      split at handed <;> cases handed
    | view v =>
      dsimp only at handed
      split_ifs at handed <;> cases handed

end FieldSelection
