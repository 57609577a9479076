import FieldSelection.Proofs.Decision.Content
import FieldSelection.Proofs.Selection.Compiled
/-!
# Repeated nodes in pooled lists

When several equally specific nodes match a property, their nested nodes are pooled into one
list, and nothing merges equal nodes on the way: a node can reach the next level more than
once, and when two fields carry the same nested expression, its nodes reach it compiled twice,
at other slots. This file says when that is harmless. Appending copies of nodes of a list at its
end changes no decision along any path of properties (`NodeSet.equivalent_append_copies`),
provided no node of the list, at any depth, is `**[]`. A copy is equal to a node of the list
once slots and regex delimiters are forgotten (`Node.canonical`).

The proviso cannot be dropped (`emptyAnyDeep_repeated_not_equivalent`). A single `**[]` winner
hands down nothing, because for one winner its empty brackets are read before its any-deep name;
two copies of it hand down everything below, because for several winners the any-deep name is
read first.

The proof has two halves. First, for nodes of the list themselves: a scan that has already taken
account of a node at most adds it to its winners once more when fed it again
(`Scan.step_of_covers`), so the verdict under the longer list names the same winners, some of
them repeated (`verdict_append`). Winners and their repeats hand down lists related the same way
(`winnerChildren_repeats`), so `NodeSet.Repeats.decide` carries the relation one property down a
path, and an induction along the path gives the same included flag at every step. Second,
nothing a decision reads sees slots, list identities or regex delimiters: deciding under the
canonical form of a node set is deciding under the set (`decide_canonical`), so both lists can be
replaced by their canonical forms (`NodeSet.inclusions_canonical`), where the copies are members.
-/

namespace FieldSelection

/-! ## The order of specificities -/

namespace Specificity

theorem lt_eq_true_iff {a b : Specificity} :
    lt a b = true ↔ a.rank.1 < b.rank.1 ∨ a.rank.1 = b.rank.1 ∧ a.rank.2 < b.rank.2 := by
  simp [lt]

theorem rank_injective : Function.Injective rank := by
  intro a b same
  cases a <;> cases b <;> simp_all [rank]

theorem lt_irrefl (a : Specificity) : lt a a = false := by
  rw [← Bool.not_eq_true, lt_eq_true_iff]
  omega

theorem lt_asymm {a b : Specificity} (below : lt a b = true) : lt b a = false := by
  rw [← Bool.not_eq_true, lt_eq_true_iff]
  rw [lt_eq_true_iff] at below
  omega

theorem lt_trans {a b c : Specificity} (first : lt a b = true) (second : lt b c = true) :
    lt a c = true := by
  rw [lt_eq_true_iff] at first second ⊢
  omega

/-- At most as specific as something strictly below a third is strictly below it. -/
theorem lt_of_not_lt_of_lt {a b c : Specificity} (atMost : lt b a = false)
    (below : lt b c = true) : lt a c = true := by
  rw [← Bool.not_eq_true, lt_eq_true_iff] at atMost
  rw [lt_eq_true_iff] at below ⊢
  omega

/-- Two specificities neither below the other are the same. -/
theorem eq_of_not_lt {a b : Specificity} (first : lt a b = false) (second : lt b a = false) :
    a = b := by
  rw [← Bool.not_eq_true, lt_eq_true_iff] at first second
  apply rank_injective
  ext <;> omega

theorem max_of_not_lt {a b : Specificity} (atMost : lt a b = false) : max a b = a := by
  simp [max, atMost]

/-- Whatever the larger of two is not below, the first is not below either. -/
theorem not_lt_max {a b c : Specificity} (atMost : lt a c = false) : lt (max a b) c = false := by
  unfold max
  split_ifs with raised
  · cases above : lt b c with
    | false => rfl
    | true => simp [lt_trans raised above] at atMost
  · exact atMost

theorem not_lt_max_right (a b : Specificity) : lt (max a b) b = false := by
  unfold max
  split_ifs with raised
  · exact lt_irrefl b
  · simpa using raised

end Specificity

/-! ## What a scan has taken account of -/

namespace Scan

/-- Scan `s` has taken account of node `e` for property `p`: if `e` matches, a negated `e` is at
most as specific as the highest negated rank, and a positive `e` at most as specific as the
winners' rank, and among the winners when it is as specific. -/
def Covers (p : String) (s : Scan) (e : Node) : Prop :=
  e.matcher.accepts p = true →
    if e.marks.negated then
      ∃ q, s.negated = some q ∧ Specificity.lt q e.matcher.specificity = false
    else
      ∃ q, s.rank = some q ∧ Specificity.lt q e.matcher.specificity = false ∧
        (Specificity.lt e.matcher.specificity q = false → e ∈ s.winners)

/-- A scan takes account of the node it is fed. -/
theorem covers_step_self (p : String) (s : Scan) (n : Node) : (Scan.step p s n).Covers p n := by
  intro accepted
  unfold Scan.step
  cases negated : n.marks.negated with
  | true =>
    simp only [accepted, Bool.not_true, Bool.false_eq_true, if_false, if_true]
    cases s.negated with
    | none => exact ⟨_, rfl, Specificity.lt_irrefl _⟩
    | some q => exact ⟨_, rfl, Specificity.not_lt_max_right q _⟩
  | false =>
    simp only [accepted, Bool.not_true, Bool.false_eq_true, if_false]
    cases rank : s.rank with
    | none => exact ⟨_, rfl, Specificity.lt_irrefl _, fun _ => List.mem_singleton_self n⟩
    | some q =>
      simp only
      split_ifs with below above
      · exact ⟨q, rank, Specificity.lt_asymm below, fun stays => by simp [below] at stays⟩
      · exact ⟨_, rfl, Specificity.lt_irrefl _, fun _ => List.mem_singleton_self n⟩
      · exact ⟨q, rfl, by simpa using above,
          fun _ => List.mem_append_right _ (List.mem_singleton_self n)⟩

/-- What a scan has taken account of stays accounted for after one more step. -/
theorem Covers.step {p : String} {s : Scan} {e : Node} (covered : s.Covers p e) (n : Node) :
    (Scan.step p s n).Covers p e := by
  intro accepted
  have before := covered accepted
  unfold Scan.step
  by_cases fed : n.matcher.accepts p = true
  case neg => simpa [fed] using before
  case pos =>
  simp only [fed, Bool.not_true, Bool.false_eq_true, if_false]
  cases negated : n.marks.negated with
  | true =>
    simp only [if_true]
    split_ifs at before ⊢ with negatedE
    · obtain ⟨q, rankQ, atMost⟩ := before
      exact ⟨_, by rw [rankQ], Specificity.not_lt_max atMost⟩
    · exact before
  | false =>
    simp only [Bool.false_eq_true, if_false]
    split_ifs at before ⊢ with negatedE
    · cases s.rank with
      | none => exact before
      | some q => simp only; split_ifs <;> exact before
    · obtain ⟨q, rankQ, atMost, joined⟩ := before
      rw [rankQ]
      simp only
      split_ifs with below above
      · exact ⟨q, rankQ, atMost, joined⟩
      · refine ⟨_, rfl, ?_, fun notBelow => ?_⟩
        · cases beyond : Specificity.lt n.matcher.specificity e.matcher.specificity with
          | false => rfl
          | true => simp [Specificity.lt_trans above beyond] at atMost
        · simp [Specificity.lt_of_not_lt_of_lt atMost above] at notBelow
      · exact ⟨q, rfl, atMost, fun notBelow => List.mem_append_left _ (joined notBelow)⟩

theorem Covers.foldl {p : String} {e : Node} :
    ∀ (ns : List Node) {s : Scan}, s.Covers p e → (ns.foldl (Scan.step p) s).Covers p e
  | [], _, covered => covered
  | n :: ns, _, covered => Covers.foldl ns (covered.step n)

/-- A scan takes account of every node it was fed. -/
theorem covers_foldl {p : String} {e : Node} :
    ∀ {ns : List Node} (s : Scan), e ∈ ns → (ns.foldl (Scan.step p) s).Covers p e
  | n :: ns, s, present => by
    rcases List.mem_cons.1 present with rfl | later
    · exact Covers.foldl ns (covers_step_self p s e)
    · exact covers_foldl (Scan.step p s n) later

/-- Feeding a scan a node it has taken account of changes nothing, or adds the node to the
winners again. -/
theorem step_of_covers {p : String} {s : Scan} {n : Node} (covered : s.Covers p n) :
    Scan.step p s n = s ∨
      n ∈ s.winners ∧ Scan.step p s n = { s with winners := s.winners ++ [n] } := by
  unfold Scan.step
  by_cases fed : n.matcher.accepts p = true
  case neg => simp [fed]
  case pos =>
  have known := covered fed
  simp only [fed, Bool.not_true, Bool.false_eq_true, if_false]
  cases negated : n.marks.negated with
  | true =>
    simp only [negated, if_true] at known ⊢
    obtain ⟨q, rankQ, atMost⟩ := known
    left
    rw [rankQ]
    simp [Specificity.max_of_not_lt atMost, ← rankQ]
  | false =>
    simp only [negated, Bool.false_eq_true, if_false] at known ⊢
    obtain ⟨q, rankQ, atMost, joined⟩ := known
    rw [rankQ]
    simp only [atMost, Bool.false_eq_true, if_false]
    split_ifs with below
    · exact .inl rfl
    · exact .inr ⟨joined (by simpa using below), rfl⟩

/-- Feeding a scan nodes it has taken account of adds some of its winners to them again. -/
theorem foldl_of_covers {p : String} :
    ∀ {extra : List Node} {s : Scan}, (∀ e ∈ extra, s.Covers p e) →
      ∃ more, more ⊆ s.winners ∧
        extra.foldl (Scan.step p) s = { s with winners := s.winners ++ more }
  | [], s, _ => ⟨[], by simp, by simp⟩
  | e :: extra, s, covered => by
    have stillCovered : ∀ e' ∈ extra, (Scan.step p s e).Covers p e' :=
      fun e' present => (covered e' (List.mem_cons_of_mem e present)).step e
    obtain ⟨more, chosen, scanned⟩ := foldl_of_covers stillCovered
    rw [List.foldl_cons, scanned]
    rcases step_of_covers (covered e List.mem_cons_self) with same | ⟨known, added⟩
    · rw [same] at chosen ⊢
      exact ⟨more, chosen, rfl⟩
    · rw [added] at chosen ⊢
      have kept : s.winners ++ [e] ⊆ s.winners :=
        List.append_subset.2
          ⟨List.Subset.refl _, List.cons_subset.2 ⟨known, List.nil_subset _⟩⟩
      exact ⟨e :: more, List.cons_subset.2 ⟨known, List.Subset.trans chosen kept⟩, by simp⟩

end Scan

/-! ## Verdicts under a list with repeated nodes -/

/-- Verdict `v'` is verdict `v`, or names the same winners with some of them repeated. -/
inductive Verdict.Repeats : Verdict → Verdict → Prop
  | same {v : Verdict} : Repeats v v
  | winners {ws more : List Node} : more ⊆ ws →
      Repeats (.winners ws) (.winners (ws ++ more))

theorem viewNode?_append {ns extra : List Node} (repeated : extra ⊆ ns) (p : String)
    (info : TypeViews) : viewNode? (ns ++ extra) p info = viewNode? ns p info := by
  unfold viewNode?
  rw [List.find?_append]
  cases found : ns.find? (fun n => n.matcher.isExact && info.viewContains n.name p) with
  | some n => rfl
  | none =>
    rw [List.find?_eq_none] at found
    simpa [List.find?_eq_none] using fun e present => found e (repeated present)

/-- Repeating nodes of a list at its end repeats some of the winners at most. -/
theorem verdict_append {ns extra : List Node} (repeated : extra ⊆ ns) (p : String)
    (info : TypeViews) : (verdict ns p info).Repeats (verdict (ns ++ extra) p info) := by
  have covered : ∀ e ∈ extra, (ns.foldl (Scan.step p) {}).Covers p e :=
    fun e present => Scan.covers_foldl {} (repeated present)
  obtain ⟨more, chosen, scanned⟩ := Scan.foldl_of_covers covered
  have sameEmpty : ((ns.foldl (Scan.step p) {}).winners ++ more).isEmpty =
      (ns.foldl (Scan.step p) {}).winners.isEmpty := by
    cases winners : (ns.foldl (Scan.step p) {}).winners with
    | nil =>
      simp [List.eq_nil_of_subset_nil (winners ▸ chosen)]
    | cons w ws => rfl
  unfold verdict
  rw [List.foldl_append, scanned, viewNode?_append repeated]
  dsimp only
  rw [sameEmpty]
  split_ifs
  · exact .same
  · exact .winners chosen
  · exact .same

/-! ## Forests free of `**[]` -/

namespace Node

/-- Whether a node is `**[]`: everything below, written with empty brackets. -/
def isEmptyAnyDeep (n : Node) : Bool := n.matcher.isAnyDeep && n.marks.emptyNested

/-- No node of the forest, at any depth, is `**[]`. -/
def NoEmptyAnyDeep (ns : List Node) : Prop := ∀ n ∈ preorder ns, n.isEmptyAnyDeep = false

instance (ns : List Node) : Decidable (NoEmptyAnyDeep ns) :=
  inferInstanceAs (Decidable (∀ n ∈ preorder ns, n.isEmptyAnyDeep = false))

/-- The nodes below some nodes of a forest are nodes of the forest. -/
theorem preorder_subset {ws ns : List Node} (chosen : ws ⊆ ns) : preorder ws ⊆ preorder ns := by
  induction ws with
  | nil => simp
  | cons w ws ih =>
    have present := mem_preorder_of_mem (chosen List.mem_cons_self)
    rw [preorder_cons, subtree_eq]
    refine List.append_subset.2
      ⟨List.cons_subset.2 ⟨present, ?_⟩, ih (List.subset_of_cons_subset chosen)⟩
    exact preorder_children_subset ns present

theorem NoEmptyAnyDeep.mono {ws ns : List Node} (clean : NoEmptyAnyDeep ns)
    (below : preorder ws ⊆ preorder ns) : NoEmptyAnyDeep ws :=
  fun n present => clean n (below present)

theorem NoEmptyAnyDeep.of_mem {ns : List Node} (clean : NoEmptyAnyDeep ns) {n : Node}
    (present : n ∈ ns) : n.isEmptyAnyDeep = false :=
  clean n (mem_preorder_of_mem present)

theorem NoEmptyAnyDeep.children {ns : List Node} (clean : NoEmptyAnyDeep ns) {n : Node}
    (present : n ∈ ns) : NoEmptyAnyDeep n.children :=
  clean.mono (preorder_children_subset ns (mem_preorder_of_mem present))

end Node

/-! ## Node sets with repeated nodes -/

/-- Node set `t` is node set `s`, or both are lists and the list of `t` is that of `s` with some
of its nodes repeated at the end; the identities of the lists do not matter. Lists with a
`**[]` at some depth are only related to themselves. -/
inductive NodeSet.Repeats : NodeSet → NodeSet → Prop
  | same {s : NodeSet} : Repeats s s
  | nodes {l l' : NodeList} {extra : List Node} : l'.nodes = l.nodes ++ extra →
      extra ⊆ l.nodes → Node.NoEmptyAnyDeep l.nodes → Repeats (.nodes l) (.nodes l')

theorem NodeSet.Repeats.of_nodes_eq {l l' : NodeList} (same : l'.nodes = l.nodes)
    (clean : Node.NoEmptyAnyDeep l.nodes) : NodeSet.Repeats (.nodes l) (.nodes l') :=
  .nodes (by rw [same, List.append_nil]) (List.nil_subset l.nodes) clean

/-- Several winners, or none, pool their nested nodes, or else hand down a set read from their
names and marks. -/
theorem winnerChildren_of_not_single {ws : List Node} (several : ∀ w, ws ≠ [w]) (run : Nat)
    (pool : ListIdent) :
    winnerChildren run pool ws =
      if !(ws.flatMap Node.children).isEmpty then .nodes ⟨pool, run, ws.flatMap Node.children⟩
      else if ws.any (·.matcher.isAnyDeep) then .anyDeep
      else if ws.all (·.marks.emptyNested) then .nothing
      else .unfiltered := by
  unfold winnerChildren
  split
  · exact absurd rfl (several _)
  · rfl

theorem any_append_of_subset {ws more : List Node} (chosen : more ⊆ ws) (f : Node → Bool) :
    (ws ++ more).any f = ws.any f := by
  cases found : ws.any f with
  | true => simp [List.any_append, found]
  | false =>
    simp only [List.any_eq_false] at found
    simp only [List.any_append, Bool.or_eq_false_iff, List.any_eq_false]
    exact ⟨found, fun w present => found w (chosen present)⟩

theorem all_append_of_subset {ws more : List Node} (chosen : more ⊆ ws) (f : Node → Bool) :
    (ws ++ more).all f = ws.all f := by
  cases found : ws.all f with
  | false => simp [List.all_append, found]
  | true =>
    simp only [List.all_eq_true] at found
    simp only [List.all_append, Bool.and_eq_true, List.all_eq_true]
    exact ⟨found, fun w present => found w (chosen present)⟩

/-- Winners hand down a repeat of what they hand down when some of them are repeated, whatever
the compilation and as long as none of them is `**[]` at any depth. -/
theorem winnerChildren_repeats {ws more : List Node} (chosen : more ⊆ ws)
    (clean : Node.NoEmptyAnyDeep ws) (run run' : Nat) (pool : ListIdent) :
    (winnerChildren run pool ws).Repeats (winnerChildren run' pool (ws ++ more)) := by
  have pooledRepeated : more.flatMap Node.children ⊆ ws.flatMap Node.children := by
    intro c present
    obtain ⟨w, member, child⟩ := List.mem_flatMap.1 present
    exact List.mem_flatMap.2 ⟨w, chosen member, child⟩
  have pooledEmpty : ((ws ++ more).flatMap Node.children).isEmpty =
      (ws.flatMap Node.children).isEmpty := by
    rw [List.flatMap_append]
    cases pooled : ws.flatMap Node.children with
    | cons c cs => rfl
    | nil =>
      rw [pooled] at pooledRepeated
      simp [List.eq_nil_of_subset_nil pooledRepeated]
  by_cases single : ∃ w, ws = [w]
  · obtain ⟨w, rfl⟩ := single
    have cleanW := clean.of_mem List.mem_cons_self
    have cleanChildren := clean.children List.mem_cons_self
    cases more with
    | nil =>
      simp only [winnerChildren, List.append_nil]
      unfold singleChildren
      split_ifs
      · exact .of_nodes_eq rfl cleanChildren
      all_goals exact .same
    | cons m ms =>
      rw [winnerChildren_of_not_single (by simp) run' pool, pooledEmpty,
        any_append_of_subset chosen, all_append_of_subset chosen]
      simp only [winnerChildren, singleChildren, List.flatMap_cons, List.flatMap_nil,
        List.append_nil, List.any_cons, List.any_nil, List.all_cons, List.all_nil, Bool.or_false,
        Bool.and_true] at pooledRepeated ⊢
      split_ifs
      · exact .nodes (by simp [NodeList.childrenOf]) pooledRepeated cleanChildren
      · simp_all [Node.isEmptyAnyDeep]
      all_goals exact .same
  · have several : ∀ w, ws ≠ [w] := fun w listed => single ⟨w, listed⟩
    have several' : ∀ w, ws ++ more ≠ [w] := by
      intro w joined
      rcases ws with _ | ⟨v, _ | ⟨v', vs⟩⟩
      · rw [List.eq_nil_of_subset_nil chosen] at joined
        simp at joined
      · exact several v rfl
      · simp at joined
    rw [winnerChildren_of_not_single several, winnerChildren_of_not_single several', pooledEmpty,
      any_append_of_subset chosen, all_append_of_subset chosen]
    split_ifs
    · exact .nodes List.flatMap_append pooledRepeated
        (clean.mono (Node.preorder_flatMap_subset fun _ present => present))
    all_goals exact .same

/-! ## One property down a path -/

/-- Decision `d'` includes what `d` includes and hands down a repeat of what `d` hands down. -/
structure Decision.Repeats (d d' : Decision) : Prop where
  included : d'.included = d.included
  children : d.children.Repeats d'.children

/-- Under a list with repeated nodes a property is decided alike. -/
theorem decideNodes_repeats {l l' : NodeList} {extra : List Node}
    (appended : l'.nodes = l.nodes ++ extra) (repeated : extra ⊆ l.nodes)
    (clean : Node.NoEmptyAnyDeep l.nodes) (p : String) (info : TypeViews) (cfg : FilterConfig)
    (pool : ListIdent) :
    (decideNodes l p info cfg pool).Repeats (decideNodes l' p info cfg pool) := by
  have related := verdict_append repeated p info
  have winnersIn : ∀ ws, verdict l.nodes p info = .winners ws → ws ⊆ l.nodes :=
    fun _ settled _ present => verdict_winners_mem settled _ present
  have tokenIn : ∀ n, verdict l.nodes p info = .viewToken n → n ∈ l.nodes :=
    fun _ settled => verdict_viewToken_mem settled
  unfold decideNodes
  rw [appended]
  generalize verdict l.nodes p info = v at related winnersIn tokenIn ⊢
  generalize verdict (l.nodes ++ extra) p info = v' at related ⊢
  cases related with
  | same =>
    cases v with
    | negated | unmatched => exact ⟨rfl, .same⟩
    | winners ws =>
      have handed := winnerChildren_repeats (List.nil_subset ws)
        (clean.mono (Node.preorder_subset (winnersIn ws rfl))) l.run l'.run pool
      rw [List.append_nil] at handed
      exact ⟨rfl, handed⟩
    | viewToken n =>
      dsimp only
      split_ifs
      · exact ⟨rfl, .same⟩
      · exact ⟨rfl, .of_nodes_eq rfl (clean.children (tokenIn n rfl))⟩
      all_goals exact ⟨rfl, .same⟩
  | @winners ws more chosen =>
    exact ⟨rfl, winnerChildren_repeats chosen
      (clean.mono (Node.preorder_subset (winnersIn ws rfl))) l.run l'.run pool⟩

/-- One property down a path: node sets that repeat each other include it alike and hand down
node sets that repeat each other. -/
theorem NodeSet.Repeats.decide {s t : NodeSet} (related : s.Repeats t) (p : String)
    (info : TypeViews) (cfg : FilterConfig) (pool : ListIdent) :
    (FieldSelection.decide s p info cfg pool).Repeats
      (FieldSelection.decide t p info cfg pool) := by
  cases related with
  | same => exact ⟨rfl, .same⟩
  | nodes appended repeated clean =>
    unfold FieldSelection.decide
    by_cases unwrapped : info.isUnwrapped p = true
    · rw [if_pos unwrapped, if_pos unwrapped]
      exact ⟨rfl, .nodes appended repeated clean⟩
    · rw [if_neg unwrapped, if_neg unwrapped]
      exact decideNodes_repeats appended repeated clean p info cfg pool

/-! ## Observational equivalence -/

/-- The included flags along a path of properties, each property decided under the node set
the one before it hands down, from node set `s` on. -/
def NodeSet.inclusions (cfg : FilterConfig) : NodeSet → List (TypeViews × String) → List Bool
  | _, [] => []
  | s, (info, p) :: path =>
    (decide s p info cfg).included :: (decide s p info cfg).children.inclusions cfg path

/-- Two node sets are observationally equivalent when under every setting they include the same
properties along every path. -/
def NodeSet.Equivalent (s t : NodeSet) : Prop :=
  ∀ cfg path, s.inclusions cfg path = t.inclusions cfg path

/-- Node sets that repeat each other include the same properties along every path. -/
theorem NodeSet.Repeats.inclusions {s t : NodeSet} (related : s.Repeats t) (cfg : FilterConfig) :
    ∀ path, s.inclusions cfg path = t.inclusions cfg path
  | [] => rfl
  | (info, p) :: path => by
    have stepped := related.decide p info cfg (.pooled 0)
    simp only [NodeSet.inclusions, stepped.included, stepped.children.inclusions cfg path]

/-- Repeating nodes of a list at its end, under any identity and compilation, changes nothing
observable, as long as no node of the list is `**[]` at any depth. The repeats here are members
of the list, slots included; `NodeSet.equivalent_append_copies` allows copies. -/
theorem NodeSet.equivalent_append_repeats {ns extra : List Node} (repeated : extra ⊆ ns)
    (clean : Node.NoEmptyAnyDeep ns) (ident ident' : ListIdent) (run run' : Nat) :
    (NodeSet.nodes ⟨ident, run, ns⟩).Equivalent (.nodes ⟨ident', run', ns ++ extra⟩) :=
  fun cfg path => (NodeSet.Repeats.nodes rfl repeated clean).inclusions cfg path

/-! ## Copies up to slots -/

namespace NameMatcher

/-- The matcher as compiled fields compare: a regex field is known by its pattern, flag and
automaton, not by the delimiters it was written between. -/
def canonical : NameMatcher → NameMatcher
  | .regex r => .regex { r with literal := "" }
  | m => m

@[simp] theorem canonical_canonical (m : NameMatcher) : m.canonical.canonical = m.canonical := by
  cases m <;> rfl

@[simp] theorem accepts_canonical (m : NameMatcher) (s : String) :
    m.canonical.accepts s = m.accepts s := by
  cases m <;> rfl

@[simp] theorem specificity_canonical (m : NameMatcher) :
    m.canonical.specificity = m.specificity := by
  cases m <;> rfl

@[simp] theorem isExact_canonical (m : NameMatcher) : m.canonical.isExact = m.isExact := by
  cases m <;> rfl

@[simp] theorem isAnyDeep_canonical (m : NameMatcher) : m.canonical.isAnyDeep = m.isAnyDeep := by
  cases m <;> rfl

theorem literal_canonical {m : NameMatcher} (exact : m.isExact = true) :
    m.canonical.literal = m.literal := by
  cases m with
  | exact n => rfl
  | _ => simp [isExact] at exact

end NameMatcher

namespace Node

mutual

/-- The node with the slots at every depth set to zero and its regex fields known by their
patterns. Two nodes are copies of each other when their canonical forms are equal. -/
def canonical : Node → Node
  | .mk m f _ cs => .mk m.canonical f 0 (canonicalForest cs)

/-- The canonical forms of the nodes of a forest. -/
def canonicalForest : List Node → List Node
  | [] => []
  | n :: ns => canonical n :: canonicalForest ns

end

@[simp] theorem canonicalForest_eq_map (ns : List Node) :
    canonicalForest ns = ns.map canonical := by
  induction ns with
  | nil => rfl
  | cons n ns ih => rw [canonicalForest, ih, List.map_cons]

@[simp] theorem matcher_canonical (n : Node) : n.canonical.matcher = n.matcher.canonical := by
  cases n
  rfl

@[simp] theorem marks_canonical (n : Node) : n.canonical.marks = n.marks := by
  cases n
  rfl

@[simp] theorem children_canonical (n : Node) : n.canonical.children = n.children.map canonical := by
  cases n
  simp [canonical]

mutual

@[simp] theorem canonical_canonical : ∀ n : Node, n.canonical.canonical = n.canonical
  | .mk m f s cs => by
    rw [canonical, canonical, NameMatcher.canonical_canonical, canonicalForest_canonicalForest]

theorem canonicalForest_canonicalForest :
    ∀ ns : List Node, canonicalForest (canonicalForest ns) = canonicalForest ns
  | [] => rfl
  | n :: ns => by
    rw [canonicalForest, canonicalForest, canonical_canonical, canonicalForest_canonicalForest]

end

@[simp] theorem map_canonical_canonical (ns : List Node) :
    (ns.map canonical).map canonical = ns.map canonical := by
  rw [← canonicalForest_eq_map, ← canonicalForest_eq_map, canonicalForest_canonicalForest]

mutual

theorem subtree_canonical : ∀ n : Node, n.canonical.subtree = n.subtree.map canonical
  | .mk m f s cs => by
    rw [canonical, subtree, subtree, List.map_cons, canonical, preorder_canonicalForest]

theorem preorder_canonicalForest :
    ∀ ns : List Node, preorder (canonicalForest ns) = (preorder ns).map canonical
  | [] => rfl
  | n :: ns => by
    rw [canonicalForest, preorder_cons, preorder_cons, subtree_canonical,
      preorder_canonicalForest, List.map_append]

end

theorem NoEmptyAnyDeep.canonical {ns : List Node} (clean : NoEmptyAnyDeep ns) :
    NoEmptyAnyDeep (ns.map Node.canonical) := by
  intro n present
  rw [← canonicalForest_eq_map, preorder_canonicalForest] at present
  obtain ⟨m, original, rfl⟩ := List.mem_map.1 present
  simpa [isEmptyAnyDeep] using clean m original

end Node

/-- The scan with its winners in canonical form. -/
def Scan.canonical (s : Scan) : Scan := { s with winners := s.winners.map Node.canonical }

theorem Scan.step_canonical (p : String) (s : Scan) (n : Node) :
    Scan.step p s.canonical n.canonical = (Scan.step p s n).canonical := by
  obtain ⟨winners, rank, negated⟩ := s
  unfold Scan.step Scan.canonical
  simp only [Node.matcher_canonical, NameMatcher.accepts_canonical,
    NameMatcher.specificity_canonical, Node.marks_canonical]
  split_ifs
  · rfl
  · rfl
  · cases rank with
    | none => rfl
    | some q =>
      dsimp only
      split_ifs
      · rfl
      · rfl
      · simp

/-- The verdict with its nodes in canonical form. -/
def Verdict.canonical : Verdict → Verdict
  | .winners ws => .winners (ws.map Node.canonical)
  | .viewToken n => .viewToken n.canonical
  | v => v

theorem viewNode?_canonical (ns : List Node) (p : String) (info : TypeViews) :
    viewNode? (ns.map Node.canonical) p info = (viewNode? ns p info).map Node.canonical := by
  have viewed : (fun n : Node => n.matcher.isExact && info.viewContains n.name p) ∘
      Node.canonical = fun n => n.matcher.isExact && info.viewContains n.name p := by
    funext n
    cases exact : n.matcher.isExact with
    | false => simp [exact]
    | true => simp [exact, Node.name, NameMatcher.literal_canonical exact]
  unfold viewNode?
  rw [List.find?_map, viewed]

theorem verdict_canonical (ns : List Node) (p : String) (info : TypeViews) :
    verdict (ns.map Node.canonical) p info = (verdict ns p info).canonical := by
  have scanned : (ns.map Node.canonical).foldl (Scan.step p) {} =
      (ns.foldl (Scan.step p) {}).canonical := by
    rw [List.foldl_map]
    exact @List.foldl_hom Scan Scan Node Scan.canonical (Scan.step p)
      (fun s n => Scan.step p s n.canonical) ns {} (Scan.step_canonical p)
  unfold verdict
  rw [scanned, viewNode?_canonical]
  simp only [Scan.canonical, List.isEmpty_map]
  split_ifs
  · rfl
  · rfl
  · cases viewNode? ns p info <;> rfl

theorem verdict_viewToken_exact {ns : List Node} {n : Node} {p : String} {info : TypeViews}
    (settled : verdict ns p info = .viewToken n) : n.matcher.isExact = true := by
  unfold verdict at settled
  dsimp only at settled
  split_ifs at settled
  split at settled
  · rename_i found
    cases settled
    have chosen := List.find?_some found
    simp only [Bool.and_eq_true] at chosen
    exact chosen.1
  · cases settled

/-- The list with identity and compilation forgotten and its nodes in canonical form. -/
def NodeList.canonical (l : NodeList) : NodeList := ⟨.blank, 0, l.nodes.map Node.canonical⟩

/-- The node set with its list, if any, in canonical form. -/
def NodeSet.canonical : NodeSet → NodeSet
  | .nodes l => .nodes l.canonical
  | s => s

@[simp] theorem NodeSet.canonical_canonical (s : NodeSet) : s.canonical.canonical = s.canonical := by
  cases s <;> simp [NodeSet.canonical, NodeList.canonical]

/-- The decision with what it hands down in canonical form. -/
def Decision.canonical (d : Decision) : Decision := { d with children := d.children.canonical }

theorem singleChildren_canonical (run run' : Nat) (n : Node) :
    (singleChildren run n.canonical).canonical = (singleChildren run' n).canonical := by
  unfold singleChildren
  simp only [Node.children_canonical, List.isEmpty_map, Node.marks_canonical,
    Node.matcher_canonical, NameMatcher.isAnyDeep_canonical]
  split_ifs <;> simp [NodeSet.canonical, NodeList.canonical, NodeList.childrenOf]

theorem winnerChildren_canonical (run run' : Nat) (pool : ListIdent) (ws : List Node) :
    (winnerChildren run pool (ws.map Node.canonical)).canonical =
      (winnerChildren run' pool ws).canonical := by
  by_cases single : ∃ w, ws = [w]
  · obtain ⟨w, rfl⟩ := single
    exact singleChildren_canonical run run' w
  · have several : ∀ w, ws ≠ [w] := fun w listed => single ⟨w, listed⟩
    have several' : ∀ w, ws.map Node.canonical ≠ [w] := by
      intro w mapped
      obtain ⟨v, rfl, -⟩ := List.map_eq_singleton_iff.1 mapped
      exact several v rfl
    have pooled : (ws.map Node.canonical).flatMap Node.children =
        (ws.flatMap Node.children).map Node.canonical := by
      simp [List.flatMap_map, List.map_flatMap]
    rw [winnerChildren_of_not_single several, winnerChildren_of_not_single several', pooled]
    simp only [List.isEmpty_map, List.any_map, List.all_map, Function.comp_def,
      Node.matcher_canonical, NameMatcher.isAnyDeep_canonical, Node.marks_canonical]
    split_ifs <;> simp [NodeSet.canonical, NodeList.canonical]

theorem decideNodes_canonical (l : NodeList) (p : String) (info : TypeViews) (cfg : FilterConfig)
    (pool : ListIdent) :
    (decideNodes l.canonical p info cfg pool).canonical =
      (decideNodes l p info cfg pool).canonical := by
  unfold decideNodes
  rw [show l.canonical.nodes = l.nodes.map Node.canonical from rfl, verdict_canonical]
  cases settled : verdict l.nodes p info with
  | negated | unmatched => rfl
  | winners ws =>
    simp only [Verdict.canonical, Decision.canonical, Decision.shown]
    rw [winnerChildren_canonical _ l.run]
  | viewToken n =>
    simp only [Verdict.canonical, Node.marks_canonical, Node.children_canonical,
      List.isEmpty_map, Node.name, Node.matcher_canonical,
      NameMatcher.literal_canonical (verdict_viewToken_exact settled)]
    split_ifs <;> simp [Decision.canonical, NodeSet.canonical, NodeList.canonical,
      NodeList.childrenOf]

/-- A property is decided alike under a node set and under its canonical form, and they hand
down node sets with one canonical form. -/
theorem decide_canonical (s : NodeSet) (p : String) (info : TypeViews) (cfg : FilterConfig)
    (pool : ListIdent) :
    (decide s.canonical p info cfg pool).canonical = (decide s p info cfg pool).canonical := by
  unfold FieldSelection.decide
  by_cases unwrapped : info.isUnwrapped p = true
  · simp [unwrapped, Decision.canonical, Decision.shown]
  · rw [if_neg unwrapped, if_neg unwrapped]
    cases s with
    | nodes l => exact decideNodes_canonical l p info cfg pool
    | _ => rfl

/-- Slots, list identities and regex delimiters are not observable. -/
theorem NodeSet.inclusions_canonical (cfg : FilterConfig) :
    ∀ (s : NodeSet) (path : List (TypeViews × String)),
      s.canonical.inclusions cfg path = s.inclusions cfg path
  | _, [] => rfl
  | s, (info, p) :: path => by
    have stepped := decide_canonical s p info cfg (.pooled 0)
    have included : (decide s.canonical p info cfg).included = (decide s p info cfg).included :=
      (congrArg Decision.included stepped :)
    have below : (decide s.canonical p info cfg).children.canonical =
        (decide s p info cfg).children.canonical :=
      (congrArg Decision.children stepped :)
    simp only [NodeSet.inclusions, included, List.cons.injEq, true_and]
    calc (decide s.canonical p info cfg).children.inclusions cfg path
        = (decide s.canonical p info cfg).children.canonical.inclusions cfg path :=
          (inclusions_canonical cfg _ path).symm
      _ = (decide s p info cfg).children.canonical.inclusions cfg path := by rw [below]
      _ = (decide s p info cfg).children.inclusions cfg path := inclusions_canonical cfg _ path

/-- Appending copies of nodes of a list, equal to them but for slots and regex delimiters, under
any identity and compilation, changes nothing observable, as long as no node of the list is `**[]`
at any depth. -/
theorem NodeSet.equivalent_append_copies {ns extra : List Node}
    (copies : extra.map Node.canonical ⊆ ns.map Node.canonical)
    (clean : Node.NoEmptyAnyDeep ns) (ident ident' : ListIdent) (run run' : Nat) :
    (NodeSet.nodes ⟨ident, run, ns⟩).Equivalent (.nodes ⟨ident', run', ns ++ extra⟩) := by
  intro cfg path
  have joined : (NodeSet.nodes ⟨ident', run', ns ++ extra⟩).canonical =
      .nodes ⟨.blank, 0, ns.map Node.canonical ++ extra.map Node.canonical⟩ := by
    simp [NodeSet.canonical, NodeList.canonical]
  calc (NodeSet.nodes ⟨ident, run, ns⟩).inclusions cfg path
      = (NodeSet.nodes ⟨ident, run, ns⟩).canonical.inclusions cfg path :=
        (NodeSet.inclusions_canonical cfg _ path).symm
    _ = (NodeSet.nodes ⟨ident', run', ns ++ extra⟩).canonical.inclusions cfg path := by
        rw [joined]
        exact NodeSet.equivalent_append_repeats copies clean.canonical .blank .blank 0 0 cfg path
    _ = (NodeSet.nodes ⟨ident', run', ns ++ extra⟩).inclusions cfg path :=
        NodeSet.inclusions_canonical cfg _ path

/-- The pooled nested nodes of `a*[q[r]],*a[q[r]]` for a property both globs match: the nested
expression compiled twice, the second time at other slots. -/
theorem pooled_copies_equivalent :
    [Node.mk (.exact "q") { braced := true } 5 [.mk (.exact "r") {} 6 []]].map Node.canonical ⊆
        [Node.mk (.exact "q") { braced := true } 2 [.mk (.exact "r") {} 3 []]].map
          Node.canonical ∧
      Node.NoEmptyAnyDeep [Node.mk (.exact "q") { braced := true } 2 [.mk (.exact "r") {} 3 []]] ∧
      NodeSet.Equivalent
        (.nodes ⟨.compiled 1 1, 1,
          [.mk (.exact "q") { braced := true } 2 [.mk (.exact "r") {} 3 []]]⟩)
        (.nodes ⟨.pooled 0, 1,
          [.mk (.exact "q") { braced := true } 2 [.mk (.exact "r") {} 3 []]] ++
            [.mk (.exact "q") { braced := true } 5 [.mk (.exact "r") {} 6 []]]⟩) :=
  ⟨List.Subset.refl _, by decide, by
    apply NodeSet.equivalent_append_copies
    · exact List.Subset.refl _
    · decide⟩

/-- Without the proviso the equivalence fails: one `**[]` hands down nothing, two copies of it
hand down everything below, so a property two levels down is left out under the first and
written under the second. -/
theorem emptyAnyDeep_repeated_not_equivalent :
    ¬ NodeSet.Equivalent
      (.nodes ⟨.compiled 0 0, 0, [.mk .anyDeep { emptyNested := true } 1 []]⟩)
      (.nodes ⟨.compiled 0 0, 0, [.mk .anyDeep { emptyNested := true } 1 [],
        .mk .anyDeep { emptyNested := true } 1 []]⟩) := by
  intro equivalent
  have differ := equivalent {} [(TypeViews.openType "T", "r"), (TypeViews.openType "T", "r")]
  revert differ
  decide

end FieldSelection
