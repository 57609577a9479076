import FieldSelection.Proofs.Decision.Pooling
import FieldSelection.Proofs.Name.Wildcard
/-!
# Decisions told from the matches alone

`decideNodes` settles a property in one pass over the nodes: it keeps the winners of the
highest positive rank met so far, dropping them for a strictly higher rank and joining a node
of the same rank, and the highest negated rank. This file says what that pass computes without
reference to the order in which the matches come.

* `Specificity.maximum?_eq_some_iff`: the most specific of a list is the member that no member
  is above, so it depends on the members only;
* `Scan.foldl_eq_summary`: the pass ends with the positive matches of the top rank, in list
  order, as winners, the top positive rank, and the top negated rank (`Scan.summary`);
* `decide_nodes_eq_reference`: the decision under explicit nodes, for a property that is not
  unwrapped, is `referenceDecision`: excluded when a negated match is at least as specific as
  every positive one, else included with what the top positive matches hand down, else settled
  by the first exact node naming a view that holds the property.
-/

namespace FieldSelection

/-! ## The most specific of a list -/

namespace Specificity

/-- At most as specific as something is below whatever that is below. -/
theorem lt_of_lt_of_not_lt {a b c : Specificity} (below : lt a b = true) (atMost : lt c b = false) :
    lt a c = true := by
  rw [← Bool.not_eq_true, lt_eq_true_iff] at atMost
  rw [lt_eq_true_iff] at below ⊢
  omega

/-- The most specific of a list, `none` for the empty list. -/
def maximum? : List Specificity → Option Specificity
  | [] => none
  | a :: as =>
    match maximum? as with
    | none => some a
    | some b => some (max a b)

@[simp] theorem maximum?_eq_none_iff {xs : List Specificity} : maximum? xs = none ↔ xs = [] := by
  cases xs with
  | nil => simp [maximum?]
  | cons a as => cases rest : maximum? as <;> simp [maximum?, rest]

/-- The most specific of a list is one of its members and no member is above it. -/
theorem maximum?_greatest {xs : List Specificity} {r : Specificity} (top : maximum? xs = some r) :
    r ∈ xs ∧ ∀ x ∈ xs, lt r x = false := by
  induction xs generalizing r with
  | nil => simp [maximum?] at top
  | cons a as ih =>
    unfold maximum? at top
    cases rest : maximum? as with
    | none =>
      rw [rest, Option.some.injEq] at top
      subst top
      obtain rfl := maximum?_eq_none_iff.1 rest
      simp [lt_irrefl]
    | some b =>
      rw [rest, Option.some.injEq] at top
      subst top
      obtain ⟨present, bound⟩ := ih rest
      refine ⟨?_, ?_⟩
      · unfold max
        split_ifs
        · exact List.mem_cons_of_mem a present
        · exact List.mem_cons_self
      · intro x mem
        rcases List.mem_cons.1 mem with rfl | later
        · unfold max
          split_ifs with raised
          · exact lt_asymm raised
          · exact lt_irrefl _
        · unfold max
          split_ifs with raised
          · exact bound x later
          · cases beyond : lt a x with
            | false => rfl
            | true => simp [lt_of_lt_of_not_lt beyond (bound x later)] at raised

/-- Two members that no member is above are the same. -/
theorem eq_of_greatest {xs : List Specificity} {r s : Specificity}
    (first : r ∈ xs ∧ ∀ x ∈ xs, lt r x = false) (second : s ∈ xs ∧ ∀ x ∈ xs, lt s x = false) :
    r = s :=
  eq_of_not_lt (first.2 s second.1) (second.2 r first.1)

/-- The most specific of a list is the member that no member is above: it depends on the
members of the list, not on their order. -/
theorem maximum?_eq_some_iff {xs : List Specificity} {r : Specificity} :
    maximum? xs = some r ↔ r ∈ xs ∧ ∀ x ∈ xs, lt r x = false := by
  constructor
  · exact maximum?_greatest
  · intro greatest
    cases top : maximum? xs with
    | none => simp [maximum?_eq_none_iff.1 top] at greatest
    | some s => rw [eq_of_greatest (maximum?_greatest top) greatest]

/-- A list with one more member: the larger of the old top and the newcomer. -/
theorem maximum?_append_singleton (xs : List Specificity) (a : Specificity) :
    maximum? (xs ++ [a]) =
      some ((maximum? xs).elim a fun q => max q a) := by
  rw [maximum?_eq_some_iff]
  cases top : maximum? xs with
  | none => simp [maximum?_eq_none_iff.1 top, lt_irrefl]
  | some q =>
    obtain ⟨present, bound⟩ := maximum?_greatest top
    refine ⟨?_, ?_⟩
    · simp only [Option.elim_some, max]
      split_ifs <;> simp [present]
    · intro x mem
      rcases List.mem_append.1 mem with old | new
      · exact not_lt_max (bound x old)
      · rw [List.mem_singleton.1 new]
        exact not_lt_max_right q a

end Specificity

/-! ## The matches of a property -/

/-- The positive nodes that match `p`, in list order. -/
def positives (p : String) (ns : List Node) : List Node :=
  ns.filter fun n => n.matcher.accepts p && !n.marks.negated

/-- The negated nodes that match `p`, in list order. -/
def negatives (p : String) (ns : List Node) : List Node :=
  ns.filter fun n => n.matcher.accepts p && n.marks.negated

/-- The highest specificity of the nodes. -/
def topRank (ns : List Node) : Option Specificity :=
  Specificity.maximum? (ns.map (·.matcher.specificity))

/-- The nodes of the highest specificity, in list order. -/
def topNodes (ns : List Node) : List Node :=
  ns.filter fun n => topRank ns == some n.matcher.specificity

/-- Whether a negated match is at least as specific as every positive one. -/
def outranked (pos neg : List Node) : Bool :=
  match topRank neg with
  | some s => (topRank pos).all fun r => Specificity.le r s
  | none => false

/-- The decision an exact node naming a view that holds the property makes, when no field
matches: none excludes, a negated one excludes, and any other includes the property as a view
member, handing down its nested nodes, nothing for empty brackets, or else the view itself when
views propagate and the base fields when not. -/
def viewDecision (run : Nat) (cfg : FilterConfig) : Option Node → Decision
  | some n =>
    if n.marks.negated then .hidden
    else
      let children :=
        if !n.children.isEmpty then .nodes (NodeList.childrenOf run n)
        else if n.marks.emptyNested then .nothing
        else if cfg.propagateViews then .view n.name
        else .unfiltered
      ⟨true, children, true⟩
  | none => .hidden

/-- The decision under explicit nodes told from the matches alone: a negated match at least as
specific as every positive one excludes; otherwise positive matches include, with what the
most specific of them hand down; otherwise the first exact node naming a view that holds the
property decides. -/
def referenceDecision (l : NodeList) (p : String) (info : TypeViews) (cfg : FilterConfig)
    (pool : ListIdent) : Decision :=
  let pos := positives p l.nodes
  let neg := negatives p l.nodes
  if outranked pos neg then .hidden
  else if !pos.isEmpty then .shown (winnerChildren l.run pool (topNodes pos))
  else viewDecision l.run cfg (viewNode? l.nodes p info)

theorem positives_append_singleton (p : String) (ns : List Node) (n : Node) :
    positives p (ns ++ [n]) =
      positives p ns ++ (if n.matcher.accepts p && !n.marks.negated then [n] else []) := by
  simp only [positives, List.filter_append, List.filter_cons, List.filter_nil]

theorem negatives_append_singleton (p : String) (ns : List Node) (n : Node) :
    negatives p (ns ++ [n]) =
      negatives p ns ++ (if n.matcher.accepts p && n.marks.negated then [n] else []) := by
  simp only [negatives, List.filter_append, List.filter_cons, List.filter_nil]

@[simp] theorem topRank_eq_none_iff {ns : List Node} : topRank ns = none ↔ ns = [] := by
  simp [topRank]

theorem topRank_append_singleton (ns : List Node) (n : Node) :
    topRank (ns ++ [n]) =
      some ((topRank ns).elim n.matcher.specificity fun q => Specificity.max q n.matcher.specificity) := by
  rw [topRank, List.map_append, List.map_singleton, Specificity.maximum?_append_singleton]
  rfl

@[simp] theorem topRank_singleton (n : Node) : topRank [n] = some n.matcher.specificity := by
  simp [topRank, Specificity.maximum?]

/-- No node is above the top rank. -/
theorem not_lt_topRank {ns : List Node} {r : Specificity} (top : topRank ns = some r) {n : Node}
    (present : n ∈ ns) : Specificity.lt r n.matcher.specificity = false :=
  (Specificity.maximum?_greatest top).2 _ (List.mem_map_of_mem present)

/-- Some node has the top rank, so the top nodes of a non-empty list are not empty. -/
theorem topNodes_ne_nil {ns : List Node} (nonEmpty : ns ≠ []) : topNodes ns ≠ [] := by
  obtain ⟨r, top⟩ := Option.ne_none_iff_exists'.1 (mt topRank_eq_none_iff.1 nonEmpty)
  obtain ⟨n, present, ranked⟩ := List.mem_map.1 (Specificity.maximum?_greatest top).1
  intro empty
  have := List.filter_eq_nil_iff.1 empty n present
  simp [top, ranked] at this

/-! ## What the pass computes -/

namespace Scan

/-- What a scan of `ns` for property `p` should hold: the positive matches of the top rank in
list order, the top positive rank and the top negated rank. -/
def summary (p : String) (ns : List Node) : Scan where
  winners := topNodes (positives p ns)
  rank := topRank (positives p ns)
  negated := topRank (negatives p ns)

@[simp] theorem summary_nil (p : String) : summary p [] = {} := rfl

/-- One step of the scan turns the summary of a list into that of the list with one more
node. -/
theorem step_summary (p : String) (ns : List Node) (n : Node) :
    step p (summary p ns) n = summary p (ns ++ [n]) := by
  unfold step summary
  rw [positives_append_singleton, negatives_append_singleton]
  by_cases matched : n.matcher.accepts p = true
  case neg => simp [matched]
  case pos =>
  cases negated : n.marks.negated with
  | true =>
    cases top : topRank (negatives p ns) <;> simp [matched, topRank_append_singleton, top]
  | false =>
    simp only [matched, Bool.not_false, Bool.and_self, if_true, Bool.not_true,
      Bool.false_eq_true, if_false, List.append_nil, Bool.and_false]
    generalize positives p ns = pos
    cases top : topRank pos with
    | none =>
      obtain rfl : pos = [] := topRank_eq_none_iff.1 top
      simp [topNodes]
    | some q =>
      simp only
      have bound : ∀ x ∈ pos, Specificity.lt q x.matcher.specificity = false :=
        fun x present => not_lt_topRank top present
      split_ifs with below above
      · have grown : topRank (pos ++ [n]) = some q := by
          rw [topRank_append_singleton, top, Option.elim_some,
            Specificity.max_of_not_lt (Specificity.lt_asymm below)]
        have other : q ≠ n.matcher.specificity := by
          rintro rfl
          simp [Specificity.lt_irrefl] at below
        simp [topNodes, grown, top, other]
      · have grown : topRank (pos ++ [n]) = some n.matcher.specificity := by
          rw [topRank_append_singleton, top, Option.elim_some]
          simp [Specificity.max, above]
        have dropped : ∀ x ∈ pos, n.matcher.specificity ≠ x.matcher.specificity := by
          intro x present same
          rw [same] at above
          simp [bound x present] at above
        simp only [topNodes, grown, List.filter_append, List.filter_singleton, beq_self_eq_true,
          cond_true]
        rw [List.filter_eq_nil_iff.2 (by simpa using dropped)]
        simp
      · have tied : n.matcher.specificity = q :=
          Specificity.eq_of_not_lt (by simpa using below) (by simpa using above)
        have grown : topRank (pos ++ [n]) = some q := by
          rw [topRank_append_singleton, top, Option.elim_some, tied,
            Specificity.max_of_not_lt (Specificity.lt_irrefl q)]
        simp [topNodes, grown, top, tied]

/-- The pass over a list ends with the summary of the list. -/
theorem foldl_eq_summary (p : String) (ns : List Node) : ns.foldl (step p) {} = summary p ns := by
  induction ns using List.reverseRecOn with
  | nil => rfl
  | append_singleton ns n ih => rw [List.foldl_append, ih, List.foldl_cons, List.foldl_nil, step_summary]

end Scan

/-! ## The decision -/

/-- How the nodes settle a property, told from the matches alone. -/
theorem verdict_eq (ns : List Node) (p : String) (info : TypeViews) :
    verdict ns p info =
      if outranked (positives p ns) (negatives p ns) then .negated
      else if !(positives p ns).isEmpty then .winners (topNodes (positives p ns))
      else match viewNode? ns p info with
        | some n => .viewToken n
        | none => .unmatched := by
  have sameEmpty : (topNodes (positives p ns)).isEmpty = (positives p ns).isEmpty := by
    cases empty : (positives p ns).isEmpty with
    | true => simp [List.isEmpty_iff.1 empty, topNodes]
    | false => simpa using topNodes_ne_nil (by simpa using empty)
  unfold verdict outranked
  rw [Scan.foldl_eq_summary]
  simp only [Scan.summary, sameEmpty]
  cases topRank (negatives p ns) <;> cases topRank (positives p ns) <;> rfl

/-- Under explicit nodes, a property that is not unwrapped gets the decision its matches call
for, whatever order they come in: the single pass of `decideNodes` is `referenceDecision`. -/
theorem decide_nodes_eq_reference {info : TypeViews} {p : String}
    (wrapped : info.isUnwrapped p = false) (l : NodeList) (cfg : FilterConfig) (pool : ListIdent) :
    decide (.nodes l) p info cfg pool = referenceDecision l p info cfg pool := by
  rw [decide, if_neg (by simp [wrapped]), decideNodes, verdict_eq, referenceDecision]
  dsimp only
  by_cases negatedWins : outranked (positives p l.nodes) (negatives p l.nodes) = true
  · rw [if_pos negatedWins, if_pos negatedWins]
  rw [if_neg negatedWins, if_neg negatedWins]
  by_cases matched : (!(positives p l.nodes).isEmpty) = true
  · rw [if_pos matched, if_pos matched]
  rw [if_neg matched, if_neg matched]
  cases viewNode? l.nodes p info <;> rfl

/-- The specificity test's filter `**,reporter[lastName],repo*[firstName]` on the property
`reporter` of a closed type. -/
theorem reporter_decision_eq_reference :
    TypeViews.isUnwrapped ⟨"Issue", [("base", ["reporter"])], [], false⟩ "reporter" = false ∧
      decide (.nodes (NodeList.ofForest
        [.mk .anyDeep {} 1 [],
         .mk (.exact "reporter") { braced := true } 2 [.mk (.exact "lastName") {} 3 []],
         .mk (.glob "repo*" (Regex.Program.compile (Glob.regex "repo*".toList))) { braced := true }
           4 [.mk (.exact "firstName") {} 5 []]]))
        "reporter" ⟨"Issue", [("base", ["reporter"])], [], false⟩ {} =
      referenceDecision (NodeList.ofForest
        [.mk .anyDeep {} 1 [],
         .mk (.exact "reporter") { braced := true } 2 [.mk (.exact "lastName") {} 3 []],
         .mk (.glob "repo*" (Regex.Program.compile (Glob.regex "repo*".toList))) { braced := true }
           4 [.mk (.exact "firstName") {} 5 []]])
        "reporter" ⟨"Issue", [("base", ["reporter"])], [], false⟩ {} (.pooled 0) :=
  ⟨rfl, decide_nodes_eq_reference rfl _ _ _⟩

end FieldSelection
