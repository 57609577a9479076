import FieldSelection.Proofs.Decision.Reference
import FieldSelection.Proofs.Selection.Follow
import FieldSelection.Proofs.Selection.Merging
/-!
# Filters of exclusions alone

A filter written only of excluded fields, `-t₁,…,-tₙ`, shows the base view less what it
excludes. Reading it puts one negated leaf per field under the top level, a field written twice
merging into its first leaf (`Draft.Excludes`); having only exclusions there, the top level then
gets the base fallback, a positive leaf `base` after them, unless `base` is itself among the
excluded fields and the fallback merges into it. The compiled forest is an `ExclusionForest`
(`Selection.parse_exclusions`).

Under an exclusion forest, a property other than `base` that is not unwrapped is shown exactly
when it is a base property, no excluded field matches it, and no excluded exact name names a
view that holds it (`ExclusionForest.decide_included`): a match excludes it outright, and the
first view token that holds it is an excluded one whenever there is one, since the fallback
comes last. It is then shown as a member of the base view (`ExclusionForest.decide_children`).

`Selection.parse_exclusions_decide` puts both together for the text as written.
-/

namespace FieldSelection

/-! ## Exclusion forests -/

/-- A forest of exclusions of the matchers `ms` with the base fallback: leaves, each a negated
node of one of `ms` or the positive `base` node, with the negated nodes first; every matcher of
`ms` has its node, and the positive node is missing only when `base` itself is excluded. -/
structure ExclusionForest (ms : List NameMatcher) (ns : List Node) : Prop where
  leaves : ∀ n ∈ ns, n.children = [] ∧ n.marks.emptyNested = false
  excluded : ∀ n ∈ ns, n.marks.negated = true → n.matcher ∈ ms
  fallback : ∀ n ∈ ns, n.marks.negated = false → n.matcher = .exact baseView
  covers : ∀ m ∈ ms, ∃ n ∈ ns, n.matcher = m ∧ n.marks.negated = true
  ordered : ns.Pairwise fun a b => a.marks.negated = false → b.marks.negated = false
  present : (∀ m ∈ ms, m ≠ .exact baseView) → ∃ n ∈ ns, n.marks.negated = false

/-- With no positive match, a negated match excludes. -/
theorem outranked_nil (neg : List Node) : outranked [] neg = !neg.isEmpty := by
  unfold outranked
  cases top : topRank neg with
  | none => simp [topRank_eq_none_iff.1 top]
  | some s =>
    have nonEmpty : neg ≠ [] := fun empty => by
      rw [empty, topRank_eq_none_iff.2 rfl] at top
      cases top
    simp [topRank, Specificity.maximum?, nonEmpty]

/-- The first node of a list ordered with its negated nodes first, among those with a property
that some negated node has, is negated. -/
theorem find?_negated_of_ordered {ns : List Node} {q : Node → Bool}
    (ordered : ns.Pairwise fun a b => a.marks.negated = false → b.marks.negated = false)
    {x : Node} (present : x ∈ ns) (holds : q x = true) (negated : x.marks.negated = true)
    {y : Node} (found : ns.find? q = some y) : y.marks.negated = true := by
  obtain ⟨before, after, rfl, skipped⟩ := List.find?_eq_some_iff_append.1 found |>.2
  rcases List.mem_append.1 present with early | late
  · exact absurd holds (by simpa using skipped x early)
  · rcases List.mem_cons.1 late with rfl | later
    · exact negated
    · have related := (List.pairwise_cons.1 (List.pairwise_append.1 ordered).2.1).1 x later
      cases own : y.marks.negated with
      | true => rfl
      | false => exact absurd (related own) (by simp [negated])

namespace ExclusionForest

variable {ms : List NameMatcher} {ns : List Node}

/-- No positive node matches a property other than `base`. -/
theorem positives_eq_nil (forest : ExclusionForest ms ns) {p : String} (other : p ≠ baseView) :
    positives p ns = [] := by
  refine List.filter_eq_nil_iff.2 fun n present => ?_
  cases negated : n.marks.negated with
  | true => simp
  | false =>
    rw [forest.fallback n present negated]
    simp [NameMatcher.accepts, Ne.symm other]

/-- A negated node matches exactly when an excluded matcher does. -/
theorem negatives_eq_nil_iff (forest : ExclusionForest ms ns) (p : String) :
    negatives p ns = [] ↔ ∀ m ∈ ms, m.accepts p = false := by
  rw [negatives, List.filter_eq_nil_iff]
  constructor
  · intro none m excluded
    obtain ⟨n, present, rfl, negated⟩ := forest.covers m excluded
    simpa [negated] using none n present
  · intro none n present
    cases negated : n.marks.negated with
    | false => simp
    | true => simp [none _ (forest.excluded n present negated)]

/-- A node names a view of `info` holding `p`. -/
theorem viewToken_of_exact {info : TypeViews} {p v : String} {n : Node} (named : n.matcher = .exact v)
    (holds : info.viewContains v p = true) :
    (n.matcher.isExact && info.viewContains n.name p) = true := by
  simp [Node.name, named, NameMatcher.isExact, NameMatcher.literal, holds]

/-- When an excluded exact name names a view holding `p`, the first view token holding `p` is
excluded. -/
theorem viewNode?_negated (forest : ExclusionForest ms ns) {p : String} {info : TypeViews}
    (named : ∃ v, .exact v ∈ ms ∧ info.viewContains v p = true) :
    ∃ n, viewNode? ns p info = some n ∧ n.marks.negated = true := by
  obtain ⟨v, excluded, holds⟩ := named
  obtain ⟨x, present, matcher, negated⟩ := forest.covers _ excluded
  have qualifies := viewToken_of_exact matcher holds
  obtain ⟨y, found⟩ := Option.isSome_iff_exists.1
    ((List.find?_isSome (p := fun n => n.matcher.isExact && info.viewContains n.name p)).2
      ⟨x, present, qualifies⟩)
  exact ⟨y, found, find?_negated_of_ordered forest.ordered present qualifies negated found⟩

/-- When no excluded exact name names a view holding the base property `p`, the first view
token holding `p` is the fallback. -/
theorem viewNode?_fallback (forest : ExclusionForest ms ns) {p : String} {info : TypeViews}
    (unnamed : ∀ v, .exact v ∈ ms → info.viewContains v p = false) (base : info.isBase p = true) :
    ∃ n, viewNode? ns p info = some n ∧ n.marks.negated = false ∧ n.matcher = .exact baseView ∧
      n.children = [] ∧ n.marks.emptyNested = false := by
  have notExcluded : ∀ m ∈ ms, m ≠ .exact baseView := by
    rintro m excluded rfl
    rw [TypeViews.isBase, unnamed _ excluded] at base
    cases base
  obtain ⟨x, present, positive⟩ := forest.present notExcluded
  have qualifies := viewToken_of_exact (forest.fallback x present positive) base
  obtain ⟨y, found⟩ := Option.isSome_iff_exists.1
    ((List.find?_isSome (p := fun n => n.matcher.isExact && info.viewContains n.name p)).2
      ⟨x, present, qualifies⟩)
  have member := List.mem_of_find?_eq_some found
  have positiveY : y.marks.negated = false := by
    cases negated : y.marks.negated with
    | false => rfl
    | true =>
      have holdsY := List.find?_some found
      cases matcherY : y.matcher with
      | exact w =>
        have := unnamed w (matcherY ▸ forest.excluded y member negated)
        simp [Node.name, matcherY, NameMatcher.isExact, NameMatcher.literal, this] at holdsY
      | glob _ | regex _ | anyShallow | anyDeep =>
        simp [matcherY, NameMatcher.isExact] at holdsY
  exact ⟨y, found, positiveY, forest.fallback y member positiveY, forest.leaves y member⟩

/-- When no excluded exact name names a view holding `p`, and `p` is no base property, no view
token holds `p`. -/
theorem viewNode?_none (forest : ExclusionForest ms ns) {p : String} {info : TypeViews}
    (unnamed : ∀ v, .exact v ∈ ms → info.viewContains v p = false) (notBase : info.isBase p = false) :
    viewNode? ns p info = none := by
  refine List.find?_eq_none.2 fun n present => ?_
  cases negated : n.marks.negated with
  | true =>
    cases matcher : n.matcher with
    | exact w =>
      have := unnamed w (matcher ▸ forest.excluded n present negated)
      simp [Node.name, matcher, NameMatcher.literal, this]
    | glob _ | regex _ | anyShallow | anyDeep => simp [NameMatcher.isExact]
  | false =>
    have notBase' : info.viewContains baseView p = false := notBase
    simp [Node.name, forest.fallback n present negated, NameMatcher.literal, NameMatcher.isExact,
      notBase']

/-- A property that an excluded field matches is hidden. -/
theorem decide_of_match (forest : ExclusionForest ms ns) {p : String} {info : TypeViews}
    (wrapped : info.isUnwrapped p = false) (other : p ≠ baseView)
    (matched : ∃ m ∈ ms, m.accepts p = true) (cfg : FilterConfig) :
    decide (.nodes (.ofForest ns)) p info cfg = .hidden := by
  have negated : negatives p ns ≠ [] := fun empty => by
    obtain ⟨m, excluded, accepts⟩ := matched
    rw [(forest.negatives_eq_nil_iff p).1 empty m excluded] at accepts
    cases accepts
  rw [decide, if_neg (by simp [wrapped]), decideNodes, verdict_eq]
  simp only [NodeList.ofForest, forest.positives_eq_nil other, outranked_nil]
  simp [negated]

/-- A property that no excluded field matches is settled by the first view token holding it. -/
theorem decide_of_unmatched (forest : ExclusionForest ms ns) {p : String} {info : TypeViews}
    (wrapped : info.isUnwrapped p = false) (other : p ≠ baseView)
    (unmatched : ∀ m ∈ ms, m.accepts p = false) (cfg : FilterConfig) :
    decide (.nodes (.ofForest ns)) p info cfg = viewDecision 0 cfg (viewNode? ns p info) := by
  rw [decide, if_neg (by simp [wrapped]), decideNodes, verdict_eq]
  simp only [NodeList.ofForest, forest.positives_eq_nil other, outranked_nil,
    (forest.negatives_eq_nil_iff p).2 unmatched, List.isEmpty_nil, Bool.not_true,
    Bool.false_eq_true, if_false]
  cases viewNode? ns p info <;> rfl

/-- Under an exclusion forest, a property other than `base` that is not unwrapped is shown exactly
when it is a base property that no excluded field matches and that no excluded exact name names
a view of. -/
theorem decide_included (forest : ExclusionForest ms ns) {p : String} {info : TypeViews}
    (wrapped : info.isUnwrapped p = false) (other : p ≠ baseView) (cfg : FilterConfig) :
    (decide (.nodes (.ofForest ns)) p info cfg).included = true ↔
      info.isBase p = true ∧ (∀ m ∈ ms, m.accepts p = false) ∧
        ∀ v, .exact v ∈ ms → info.viewContains v p = false := by
  by_cases matched : ∃ m ∈ ms, m.accepts p = true
  · rw [forest.decide_of_match wrapped other matched]
    obtain ⟨m, excluded, accepts⟩ := matched
    simp only [Decision.hidden, Bool.false_eq_true, false_iff, not_and]
    intro _ unmatched
    rw [unmatched m excluded] at accepts
    cases accepts
  have unmatched : ∀ m ∈ ms, m.accepts p = false := by simpa using matched
  rw [forest.decide_of_unmatched wrapped other unmatched]
  by_cases named : ∃ v, .exact v ∈ ms ∧ info.viewContains v p = true
  · obtain ⟨n, found, negated⟩ := forest.viewNode?_negated named
    obtain ⟨v, excluded, holds⟩ := named
    rw [found]
    simp only [viewDecision, negated, if_true, Decision.hidden, Bool.false_eq_true, false_iff,
      not_and]
    intro _ _ unnamed
    rw [unnamed v excluded] at holds
    cases holds
  have unnamed : ∀ v, .exact v ∈ ms → info.viewContains v p = false := by simpa using named
  cases base : info.isBase p with
  | false =>
    rw [forest.viewNode?_none unnamed base]
    simp [viewDecision, Decision.hidden]
  | true =>
    obtain ⟨n, found, positive, -⟩ := forest.viewNode?_fallback unnamed base
    rw [found]
    simp only [viewDecision, positive, Bool.false_eq_true, if_false, true_iff]
    exact ⟨trivial, unmatched, unnamed⟩

/-- A property shown under an exclusion forest is shown as a member of the base view. -/
theorem decide_children (forest : ExclusionForest ms ns) {p : String} {info : TypeViews}
    (wrapped : info.isUnwrapped p = false) (other : p ≠ baseView) {cfg : FilterConfig}
    (shown : (decide (.nodes (.ofForest ns)) p info cfg).included = true) :
    (decide (.nodes (.ofForest ns)) p info cfg).children =
      if cfg.propagateViews then .view baseView else .unfiltered := by
  obtain ⟨base, unmatched, unnamed⟩ := (forest.decide_included wrapped other cfg).1 shown
  rw [forest.decide_of_unmatched wrapped other unmatched]
  obtain ⟨n, found, positive, matcher, leaf, plain⟩ := forest.viewNode?_fallback unnamed base
  rw [found]
  simp [viewDecision, positive, leaf, plain, Node.name, matcher, NameMatcher.literal]

end ExclusionForest

namespace Selection

/-! ## Fields written alone -/

/-- A name is the literal of the matcher it stands for. -/
theorem nameMatcher_literal {s : String} {m : NameMatcher} (named : nameMatcher s = .ok m) :
    m.literal = s := by
  unfold nameMatcher at named
  split_ifs at named with deep shallow
  · cases named
    rw [beq_iff_eq.1 deep]
    rfl
  · cases named
    rw [beq_iff_eq.1 shallow]
    rfl
  · rw [NameMatcher.wildcard_eq] at named
    cases named
    rfl
  · cases named
    rfl

/-- A token is the literal of the matcher it stands for. -/
theorem Token.literal_of_matcher? {tk : Token} {m : NameMatcher} (found : tk.matcher? = some m) :
    m.literal = String.ofList tk.text := by
  cases tk with
  | punct c => cases found
  | name cs =>
    cases named : nameMatcher (String.ofList cs) with
    | error e => simp [Token.matcher?, named, Except.toOption] at found
    | ok m' =>
      simp only [Token.matcher?, named, Except.toOption, Option.some.injEq] at found
      rw [← found]
      exact nameMatcher_literal named
  | regex d pat raw flags =>
    simp only [Token.matcher?] at found
    split_ifs at found
    split at found
    · cases found
    · cases compiled : NameMatcher.compileRegex (String.ofList pat) (!flags.isEmpty) with
      | error e => simp [NameMatcher.ofRegex, compiled, Except.map, Except.toOption] at found
      | ok prog =>
        simp only [NameMatcher.ofRegex, compiled, Except.map, Except.toOption,
          Option.some.injEq] at found
        rw [← found]
        rfl

namespace Written

variable {t : List Char} {m : NameMatcher}

/-- The reading of a field written alone, from the start of its text. -/
theorem alone (written : Written t m) :
    ∃ f r, Reader.field.run ⟨⟨t, 0⟩, Draft.root⟩ = .ok (f, r) ∧ f.matcher = m := by
  obtain ⟨f, r, ran, named, -⟩ := written.reads (r := ⟨⟨t, 0⟩, Draft.root⟩) (W := [])
    (by simp) (by simpa using written.dropBlanks_append [])
  exact ⟨f, r, ran, named⟩

/-- A field written alone stands for one matcher. -/
theorem unique (written : Written t m) {m' : NameMatcher} (written' : Written t m') : m = m' := by
  obtain ⟨f, r, ran, named⟩ := written.alone
  obtain ⟨f', r', ran', named'⟩ := written'.alone
  rw [ran] at ran'
  cases ran'
  rw [← named, named']

/-- A field written alone is read from a token that spells it and stands for its matcher. -/
theorem matcher? (written : Written t m) :
    ∃ tk : Token, tk.text = t ∧ tk.Read [] ∧ tk.matcher? = some m := by
  obtain ⟨tk, text, skipped, read⟩ := written.token.token
  obtain ⟨f, r, ran, named⟩ := written.alone
  have found := Reader.field_reads_text (r := ⟨⟨t, 0⟩, Draft.root⟩) skipped read
  rw [ran] at found
  cases known : tk.matcher? with
  | none => simp [known, Except.toOption] at found
  | some m' =>
    simp only [known, Except.toOption, Option.map_some, Option.some.injEq, Prod.mk.injEq] at found
    exact ⟨tk, text, read, by rw [known, ← named, found.1]⟩

/-- A field written alone is the literal of its matcher. -/
theorem literal (written : Written t m) : m.literal = String.ofList t := by
  obtain ⟨tk, text, -, found⟩ := written.matcher?
  rw [Token.literal_of_matcher? found, text]

/-- Fields written alone with one literal are one field, so they stand for one matcher. -/
theorem eq_of_literal (written : Written t m) {t' : List Char} {m' : NameMatcher}
    (written' : Written t' m') (same : m.literal = m'.literal) : m = m' := by
  rw [written.literal, written'.literal] at same
  obtain rfl := String.ofList_injective same
  exact written.unique written'

/-- A field written alone is no any-deep name. -/
theorem ne_anyDeep (written : Written t m) : t ≠ anyDeepText := by
  intro deep
  obtain ⟨m', reads⟩ := written.token.reads
  obtain ⟨f, r, ran, named⟩ := written.alone
  obtain ⟨f', r', ran', named', -⟩ := reads.reads (r := ⟨⟨t, 0⟩, Draft.root⟩) (W := [])
    (by simp) (by simpa using written.dropBlanks_append [])
  rw [ran] at ran'
  cases ran'
  have anyDeep : m.isAnyDeep = true := by rw [← named, named']; exact reads.anyDeep.2 deep
  rw [written.notAnyDeep] at anyDeep
  cases anyDeep

/-- A field written alone is read as its matcher wherever it stands. -/
theorem toReads (written : Written t m) : Reads t m :=
  ⟨⟨fun anyDeep => absurd anyDeep (by rw [written.notAnyDeep]; decide),
    fun deep => absurd deep written.ne_anyDeep⟩, written.reads⟩

/-- A field written alone that starts with a name start is a name: it stands for the matcher of
that name. -/
theorem eq_nameMatcher (written : Written t m) {c : Char} {more : List Char}
    (spelt : t = c :: more) (start : isNameStart c = true) :
    nameMatcher (String.ofList t) = .ok m := by
  obtain ⟨tk, text, read, found⟩ := written.matcher?
  cases tk with
  | punct _ => cases found
  | name cs =>
    rw [← text]
    cases named : nameMatcher (String.ofList cs) with
    | error e => simp [Token.matcher?, named, Except.toOption] at found
    | ok m' =>
      simp only [Token.matcher?, named, Except.toOption, Option.some.injEq] at found
      rw [← found]
      exact named
  | regex d pat raw flags =>
    rw [Token.text, spelt, List.cons_append, List.cons_eq_cons] at text
    rw [← text.1] at start
    rcases read.1 with rfl | rfl <;> exact absurd start (by decide)

/-- The only field written alone with the literal `base` is the exact name `base`. -/
theorem eq_base (written : Written t m) (named : m.literal = baseView) : m = .exact baseView := by
  have spelt : t = ['b', 'a', 's', 'e'] := by
    rw [written.literal] at named
    exact String.ofList_injective (named.trans rfl)
  have named := written.eq_nameMatcher spelt (by decide)
  rw [spelt] at named
  cases named
  rfl

end Written

/-- A name written alone stands for the matcher of that name. -/
theorem written_name {c : Char} {more : List Char} {m : NameMatcher} (start : isNameStart c = true)
    (chars : ∀ x ∈ more, isNameChar x = true) (plain : c :: more ≠ anyDeepText)
    (named : nameMatcher (String.ofList (c :: more)) = .ok m) : Written (c :: more) m := by
  have tok : FieldToken (c :: more) (c :: more) [] :=
    .name (by simpa using Blanks.refl (c :: more)) start chars (by simp)
  obtain ⟨m', written⟩ := written_of_token tok plain
  rw [written.eq_nameMatcher rfl start] at named
  cases named
  exact written

/-! ## Reading exclusions -/

/-- `-t₁,…,-tₙ`: the fields `tᵢ` excluded one after another. -/
def exclusionsText (ts : List (List Char)) : List Char :=
  [','].intercalate (ts.map ('-' :: ·))

theorem exclusionsText_singleton (t : List Char) : exclusionsText [t] = '-' :: t := by
  simp [exclusionsText]

theorem exclusionsText_cons_cons (t t' : List Char) (ts : List (List Char)) :
    exclusionsText (t :: t' :: ts) = '-' :: (t ++ ',' :: exclusionsText (t' :: ts)) := by
  simp [exclusionsText, List.intercalate_cons_cons]

theorem dropBlanks_exclusionsText (t : List Char) (ts : List (List Char)) :
    Text.dropBlanks (exclusionsText (t :: ts)) = exclusionsText (t :: ts) := by
  cases ts with
  | nil => exact List.dropWhile_cons_of_neg (by decide)
  | cons t' ts => exact List.dropWhile_cons_of_neg (by decide)

theorem exclusionsText_ne_nil (t : List Char) (ts : List (List Char)) :
    exclusionsText (t :: ts) ≠ [] := by
  cases ts with
  | nil => simp [exclusionsText_singleton]
  | cons t' ts => simp [exclusionsText_cons_cons]

/-- Exclusions of fields written alone end with no blank. -/
theorem exclusionsText_last : ∀ {ts : List (List Char)} {ms : List NameMatcher},
    List.Forall₂ Written ts ms → ∀ c ∈ (exclusionsText ts).getLast?, Text.isBlank c = false := by
  intro ts ms written
  induction written with
  | nil => simp [exclusionsText]
  | @cons t _ ts _ first _ ih =>
    cases ts with
    | nil =>
      rw [exclusionsText_singleton, ← List.singleton_append,
        List.getLast?_append_of_ne_nil _ first.ne_nil]
      exact first.last
    | cons t' ts =>
      rw [exclusionsText_cons_cons,
        show '-' :: (t ++ ',' :: exclusionsText (t' :: ts)) =
          ('-' :: t ++ [',']) ++ exclusionsText (t' :: ts) by simp,
        List.getLast?_append_of_ne_nil _ (exclusionsText_ne_nil t' ts)]
      exact ih

namespace Reader

variable {t W : List Char} {m : NameMatcher}

/-- A field written alone after a minus, before what may follow an expression, is put under
`parent` as an exclusion. -/
theorem negated_written (written : Written t m) (follows : Follows W) (parent : List String)
    {r : Reading} (here : Text.dropBlanks r.cursor.rest = t ++ W) :
    ∃ r', (negated parent).run r = .ok ((), r') ∧
      r'.tree = (r.tree.addChild parent m { negated := true }).1 ∧
      Text.dropBlanks r'.cursor.rest = Text.dropBlanks W := by
  obtain ⟨fs, r₁, ran, named, after, tree⟩ := path_matchers (.last written.token)
    (.cons written.toReads .nil) (.inl fun mem => written.ne_anyDeep (List.mem_singleton.1 mem).symm)
    (stop_of_nest .none follows) (Nest.none.noDot follows) (r := r)
    (by rw [here, written.dropBlanks_append])
  obtain ⟨f, rfl, matcher⟩ : ∃ f, fs = [f] ∧ f.matcher = m := by
    rcases fs with _ | ⟨f, _ | ⟨f', fs⟩⟩ <;> simp at named
    exact ⟨f, rfl, named⟩
  have ahead : Text.dropBlanks r₁.cursor.rest = Text.dropBlanks W := by
    rw [after, List.nil_append, dropBlanks_dropBlanks]
  simp only [negated, run_pos_bind]
  rw [run_bind_of_ok ran]
  simp only [List.any_cons, List.any_nil, matcher, written.notAnyDeep, Bool.or_false,
    Bool.false_eq_true, if_false]
  simp only [run_addChild_bind]
  refine ⟨_, run_peek_follows (fun x notOpener => ?_) follows (r := { r₁ with tree := _ }) ahead,
    by rw [tree], by simp [Cursor.skipBlanks, ahead, dropBlanks_dropBlanks]⟩
  split <;> simp_all

/-- An exclusion of a field written alone is read as one expression. -/
theorem expression_exclusion (written : Written t m) (follows : Follows W) (parent : List String)
    (fuel : Nat) {r : Reading} (here : Text.dropBlanks r.cursor.rest = '-' :: (t ++ W)) :
    ∃ r', (expression parent (fuel + 1)).run r = .ok ((), r') ∧
      r'.tree = (r.tree.addChild parent m { negated := true }).1 ∧
      Text.dropBlanks r'.cursor.rest = Text.dropBlanks W := by
  simp only [expression, run_peek_bind, here, List.head?_cons, run_bump_bind]
  exact negated_written written follows parent
    (by simp [Cursor.skipBlanks, Cursor.bump, here, written.dropBlanks_append])

/-- Exclusions of fields written alone, read as a list of expressions, put each field under
`parent` as an exclusion in turn. The induction is on the fields. -/
theorem expressionList_exclusions (parent : List String) :
    ∀ {ts : List (List Char)} {ms : List NameMatcher}, List.Forall₂ Written ts ms → ts ≠ [] →
      ∀ (fuel : Nat) {r : Reading}, ts.length < fuel →
      Text.dropBlanks r.cursor.rest = exclusionsText ts →
      ∃ r', (expressionList parent none fuel).run r = .ok ((), r') ∧
        r'.tree = ms.foldl (fun d m => (d.addChild parent m { negated := true }).1) r.tree := by
  intro ts ms written
  induction written with
  | nil => exact fun nonEmpty => absurd rfl nonEmpty
  | @cons t _ ts _ first others ih =>
    intro _ fuel r long here
    obtain ⟨k, rfl⟩ : ∃ k, fuel = k + 2 := ⟨fuel - 2, by simp at long; omega⟩
    cases ts with
    | nil =>
      cases others
      obtain ⟨r₁, ran, tree, ahead⟩ := expression_exclusion first (W := [])
        (fun c first => by simp [Text.dropBlanks] at first) parent k (r := r)
        (by rw [here, exclusionsText_singleton, List.append_nil])
      simp only [expressionList]
      rw [run_bind_of_ok ran, run_peek_bind, ahead]
      exact ⟨_, rfl, by simp [tree]⟩
    | cons t' ts =>
      obtain ⟨r₁, ran, tree, ahead⟩ := expression_exclusion first (follows_comma _) parent k
        (r := r) (by rw [here, exclusionsText_cons_cons])
      simp only [expressionList]
      rw [run_bind_of_ok ran, run_peek_bind, ahead, dropBlanks_comma]
      obtain ⟨r', ran', tree'⟩ := ih (List.cons_ne_nil _ _) (k + 1)
        (r := { r₁ with cursor := r₁.cursor.skipBlanks.bump }) (by simpa using long)
        (by simp [Cursor.skipBlanks, Cursor.bump, ahead, dropBlanks_comma, dropBlanks_exclusionsText])
      exact ⟨r', ran', by simp only [tree', tree, List.foldl_cons]⟩

end Reader

end Selection

namespace Draft

/-! ## The tree of exclusions -/

/-- A field without braces merges into an exclusion without changing it. -/
theorem mergeMarks_excluded {g : NodeMarks} (plain : g.braced = false) :
    mergeMarks { negated := true } g = { negated := true } := by
  simp [mergeMarks, plain]

/-- A field without braces merges into children that are all exclusions without changing them. -/
theorem placeChild_excluded {cs : List Draft} {m : NameMatcher} {g : NodeMarks}
    (excluded : ∀ c ∈ cs, c.marks = { negated := true }) (plain : g.braced = false)
    (found : cs.any (·.key == m.literal) = true) : placeChild cs m g = cs := by
  rw [placeChild_of_any g found]
  refine (List.map_congr_left fun c present => ?_).trans (List.map_id cs)
  by_cases same : c.key = m.literal
  · rw [mergeInto_of_eq g same, excluded c present, mergeMarks_excluded plain,
      ← excluded c present, mk_eta]
    rfl
  · rw [mergeInto_of_ne g same]
    rfl

theorem children_addChild_nil (d : Draft) (m : NameMatcher) (f : NodeMarks) :
    (d.addChild [] m f).1.children = placeChild d.children m f := by
  cases d
  rfl

/-- Children that exclude the fields `ms`: leaves with the marks of an exclusion, each of one of
`ms`, and one for each of `ms`. -/
structure Excludes (ms : List NameMatcher) (cs : List Draft) : Prop where
  leaves : ∀ c ∈ cs, c.marks = { negated := true } ∧ c.children = []
  excluded : ∀ c ∈ cs, c.matcher ∈ ms
  covers : ∀ m ∈ ms, ∃ c ∈ cs, c.matcher = m

/-- Excluding one more field written alone: it merges into the child of its literal, which
stands for the same field, or it is put last. -/
theorem Excludes.placeChild {ms : List NameMatcher} {cs : List Draft} (excl : Excludes ms cs)
    {m : NameMatcher} (written : ∀ m' ∈ ms ++ [m], ∃ t, Selection.Written t m') :
    Excludes (ms ++ [m]) (placeChild cs m { negated := true }) := by
  cases found : cs.any (·.key == m.literal) with
  | true =>
    rw [placeChild_excluded (fun c present => (excl.leaves c present).1) rfl found]
    obtain ⟨c, -, present, keyed⟩ := exists_find_of_any found
    have same : c.matcher = m := by
      obtain ⟨t, writtenC⟩ := written c.matcher (List.mem_append_left _ (excl.excluded c present))
      obtain ⟨t', writtenM⟩ := written m (by simp)
      exact writtenC.eq_of_literal writtenM keyed
    refine ⟨excl.leaves, fun c present => List.mem_append_left _ (excl.excluded c present), ?_⟩
    intro m' mem
    rcases List.mem_append.1 mem with old | new
    · exact excl.covers m' old
    · exact ⟨c, present, same.trans (List.mem_singleton.1 new).symm⟩
  | false =>
    rw [placeChild_of_not_any _ found]
    refine ⟨fun c present => ?_, fun c present => ?_, fun m' mem => ?_⟩
    · rcases List.mem_append.1 present with old | new
      · exact excl.leaves c old
      · rw [List.mem_singleton.1 new]
        exact ⟨rfl, rfl⟩
    · rcases List.mem_append.1 present with old | new
      · exact List.mem_append_left _ (excl.excluded c old)
      · simp [List.mem_singleton.1 new]
    · rcases List.mem_append.1 mem with old | new
      · obtain ⟨c, present, named⟩ := excl.covers m' old
        exact ⟨c, List.mem_append_left _ present, named⟩
      · exact ⟨_, List.mem_append_right _ List.mem_cons_self, (List.mem_singleton.1 new).symm⟩

/-- Excluding fields written alone one after another at the top level. The induction is on the
fields still to exclude. -/
theorem excludes_foldl : ∀ (ms seen : List NameMatcher) (d : Draft),
    (∀ m ∈ seen ++ ms, ∃ t, Selection.Written t m) → Excludes seen d.children →
    Excludes (seen ++ ms)
      (ms.foldl (fun d m => (d.addChild [] m { negated := true }).1) d).children
  | [], seen, d, _, excl => by simpa using excl
  | m :: ms, seen, d, written, excl => by
    have step : Excludes (seen ++ [m]) (d.addChild [] m { negated := true }).1.children := by
      rw [children_addChild_nil]
      exact excl.placeChild fun m' mem => written m' (by simp at mem ⊢; tauto)
    simpa using excludes_foldl ms (seen ++ [m]) _ (by simpa using written) step

/-- Leaves have no node with only exclusions below them. -/
theorem exclusionParentsIn_leaves (path : List String) : ∀ cs : List Draft,
    (∀ c ∈ cs, c.children = []) → exclusionParentsIn path cs = []
  | [], _ => rfl
  | .mk m f ccs :: cs, leaves => by
    obtain rfl : ccs = [] := leaves _ List.mem_cons_self
    have rest := exclusionParentsIn_leaves path cs fun c present =>
      leaves c (List.mem_cons_of_mem _ present)
    simp [exclusionParentsIn, exclusionParents, onlyExclusions, rest]

/-- A tree whose top level holds exclusions alone gets the base fallback there, and only
there. -/
theorem withBaseFallback_excludes {ms : List NameMatcher} {d : Draft}
    (excl : Excludes ms d.children) (nonEmpty : d.children ≠ []) :
    d.withBaseFallback = (d.addChild [] (.exact baseView) { dotPathed := d.marks.dotPathed }).1 := by
  have parents : exclusionParents [] d = [[]] := by
    cases d with
    | mk m f cs =>
      simp only [children_mk] at excl nonEmpty
      have negated : ∀ c ∈ cs, c.marks.negated = true := fun c present => by
        rw [(excl.leaves c present).1]
      have only : onlyExclusions (.mk m f cs) = true := by
        simpa [onlyExclusions, nonEmpty] using fun c present => Or.inl (negated c present)
      simp [exclusionParents, only,
        exclusionParentsIn_leaves [] cs fun c present => (excl.leaves c present).2]
  simp only [withBaseFallback, parents, List.foldl_cons, List.foldl_nil, nodeAt?, Option.map_some,
    Option.getD_some]
  rfl

/-- The top level after the fallback: the exclusions, then `base` unless a field of that literal
is excluded, and the fallback merges into it. -/
theorem children_withBaseFallback {ms : List NameMatcher} {d : Draft}
    (excl : Excludes ms d.children) (nonEmpty : d.children ≠ []) :
    d.withBaseFallback.children = d.children ++
      if d.children.any (·.key == baseView) then []
      else [.mk (.exact baseView) { dotPathed := d.marks.dotPathed } []] := by
  rw [withBaseFallback_excludes excl nonEmpty, children_addChild_nil]
  cases found : d.children.any (·.key == baseView) with
  | true =>
    rw [placeChild_excluded (m := .exact baseView) (fun c present => (excl.leaves c present).1) rfl
      found, if_pos rfl,
      List.append_nil]
  | false =>
    rw [placeChild_of_not_any _ found]
    rfl

/-- Freezing leaves keeps their matchers and marks, in order. -/
theorem freezeList_leaves : ∀ (next : Nat) (cs : List Draft), (∀ c ∈ cs, c.children = []) →
    (freezeList next cs).1.map (fun n => (n.matcher, n.marks, n.children)) =
      cs.map fun c => (c.matcher, c.marks, [])
  | _, [], _ => rfl
  | next, .mk m f ccs :: cs, leaves => by
    obtain rfl : ccs = [] := leaves _ List.mem_cons_self
    have rest := freezeList_leaves (next + 1) cs fun c present =>
      leaves c (List.mem_cons_of_mem _ present)
    rcases frozen : freezeList (next + 1) cs with ⟨ns, last⟩
    rw [frozen] at rest
    simp only [freezeList, freeze, frozen, List.map_cons, rest]
    rfl

/-- Nodes shaped like exclusions followed by fallbacks form an exclusion forest. -/
theorem exclusionForest_of_shapes {ms : List NameMatcher} {cs extra : List Draft} {ns : List Node}
    (excl : Excludes ms cs)
    (fallback : ∀ c ∈ extra, c.matcher = .exact baseView ∧ c.marks.negated = false ∧
      c.marks.emptyNested = false)
    (present : (∀ m ∈ ms, m ≠ .exact baseView) → extra ≠ [])
    (shapes : ns.map (fun n => (n.matcher, n.marks, n.children)) =
      (cs ++ extra).map fun c => (c.matcher, c.marks, ([] : List Node))) :
    ExclusionForest ms ns := by
  have toDraft : ∀ n ∈ ns, ∃ c ∈ cs ++ extra,
      c.matcher = n.matcher ∧ c.marks = n.marks ∧ n.children = [] := by
    intro n present
    obtain ⟨c, mem, same⟩ := List.mem_map.1 (shapes ▸ List.mem_map_of_mem present)
    simp only [Prod.mk.injEq] at same
    exact ⟨c, mem, same.1, same.2.1, same.2.2.symm⟩
  have toNode : ∀ c ∈ cs ++ extra, ∃ n ∈ ns, n.matcher = c.matcher ∧ n.marks = c.marks := by
    intro c mem
    obtain ⟨n, present, same⟩ := List.mem_map.1 (shapes.symm ▸ List.mem_map_of_mem mem)
    simp only [Prod.mk.injEq] at same
    exact ⟨n, present, same.1, same.2.1⟩
  have kinds : ∀ c ∈ cs ++ extra, c.marks.emptyNested = false ∧
      (c.marks.negated = true → c.matcher ∈ ms) ∧
      (c.marks.negated = false → c.matcher = .exact baseView) := by
    intro c mem
    rcases List.mem_append.1 mem with old | new
    · rw [(excl.leaves c old).1]
      exact ⟨rfl, fun _ => excl.excluded c old, fun positive => by cases positive⟩
    · obtain ⟨matcher, positive, plain⟩ := fallback c new
      exact ⟨plain, fun negated => (by rw [positive] at negated; cases negated), fun _ => matcher⟩
  refine ⟨fun n present => ?_, fun n present negated => ?_, fun n present positive => ?_,
    fun m mem => ?_, ?_, fun notBase => ?_⟩
  · obtain ⟨c, mem, -, marks, leaf⟩ := toDraft n present
    exact ⟨leaf, marks ▸ (kinds c mem).1⟩
  · obtain ⟨c, mem, matcher, marks, -⟩ := toDraft n present
    rw [← matcher]
    exact (kinds c mem).2.1 (marks ▸ negated)
  · obtain ⟨c, mem, matcher, marks, -⟩ := toDraft n present
    rw [← matcher]
    exact (kinds c mem).2.2 (marks ▸ positive)
  · obtain ⟨c, excluded, rfl⟩ := excl.covers m mem
    obtain ⟨n, present, matcher, marks⟩ := toNode c (List.mem_append_left _ excluded)
    exact ⟨n, present, matcher, by rw [marks, (excl.leaves c excluded).1]⟩
  · have ordered : (cs ++ extra).Pairwise fun a b => a.marks.negated = false →
        b.marks.negated = false := by
      refine List.pairwise_append.2 ⟨List.pairwise_of_forall_mem_list fun a old _ _ positive => ?_,
        List.pairwise_of_forall_mem_list fun _ _ b new _ => (fallback b new).2.1,
        fun _ _ b new _ => (fallback b new).2.1⟩
      rw [(excl.leaves a old).1] at positive
      cases positive
    have onShapes := (List.pairwise_map (f := fun c : Draft => (c.matcher, c.marks, ([] : List Node)))
      (R := fun x y => x.2.1.negated = false → y.2.1.negated = false)).2 ordered
    rw [← shapes, List.pairwise_map] at onShapes
    exact onShapes
  · obtain ⟨c, mem⟩ := List.exists_mem_of_ne_nil _ (present notBase)
    obtain ⟨n, found, -, marks⟩ := toNode c (List.mem_append_right _ mem)
    exact ⟨n, found, by rw [marks]; exact (fallback c mem).2.1⟩

/-- The compiled forest of a tree whose top level excludes fields written alone, the fallback
given, is an exclusion forest. -/
theorem exclusionForest_compile {ms : List NameMatcher} {d : Draft}
    (written : ∀ m ∈ ms, ∃ t, Selection.Written t m) (excl : Excludes ms d.children)
    (nonEmpty : d.children ≠ []) : ExclusionForest ms d.withBaseFallback.compile := by
  have final := children_withBaseFallback excl nonEmpty
  have leaves : ∀ c ∈ d.withBaseFallback.children, c.children = [] := by
    intro c mem
    rw [final] at mem
    rcases List.mem_append.1 mem with old | new
    · exact (excl.leaves c old).2
    · split at new
      · cases new
      · rw [List.mem_singleton.1 new]
        rfl
  have shapes := freezeList_leaves 1 _ leaves
  unfold compile
  rw [final] at shapes ⊢
  refine exclusionForest_of_shapes excl (fun c mem => ?_) (fun notBase => ?_) shapes
  · split at mem
    · cases mem
    · rw [List.mem_singleton.1 mem]
      exact ⟨rfl, rfl, rfl⟩
  · have missing : d.children.any (·.key == baseView) = false := by
      refine Bool.eq_false_iff.2 fun found => ?_
      obtain ⟨c, -, present, keyed⟩ := exists_find_of_any found
      obtain ⟨t, writtenC⟩ := written _ (excl.excluded c present)
      exact notBase _ (excl.excluded c present) (writtenC.eq_base keyed)
    simp [missing]

end Draft

namespace Selection

/-! ## Filters of exclusions alone -/

/-- Exclusions of fields written alone compile to an exclusion forest of their fields. -/
theorem parse_exclusions {ts : List (List Char)} {ms : List NameMatcher}
    (written : List.Forall₂ Written ts ms) (nonEmpty : ts ≠ []) :
    ∃ ns, parse (String.ofList (exclusionsText ts)) = .ok ns ∧ ExclusionForest ms ns := by
  have members : ∀ m ∈ ms, ∃ t, Written t m := by
    intro m mem
    clear nonEmpty
    induction written with
    | nil => cases mem
    | cons first _ ih =>
      rcases List.mem_cons.1 mem with rfl | later
      · exact ⟨_, first⟩
      · exact ih later
  obtain ⟨t, rest, rfl⟩ := List.exists_cons_of_ne_nil nonEmpty
  have solid := exclusionsText_ne_nil t rest
  have trimmed : Text.trimBlanks (String.ofList (exclusionsText (t :: rest))).toList =
      exclusionsText (t :: rest) := by
    have joined := trimBlanks_append solid (exclusionsText_last written) []
    rw [List.append_nil, dropBlanks_exclusionsText] at joined
    rw [String.toList_ofList, joined]
    simp
  obtain ⟨r', ran, tree⟩ := Reader.expressionList_exclusions [] written nonEmpty
    ((t :: rest).length + 1) (r := ⟨⟨exclusionsText (t :: rest), 0⟩, Draft.root⟩)
    (Nat.lt_succ_self _) (dropBlanks_exclusionsText t rest)
  have excl : Draft.Excludes ms r'.tree.children := by
    rw [tree]
    simpa using Draft.excludes_foldl ms [] Draft.root (by simpa using members)
      ⟨fun c present => (by cases present), fun c present => (by cases present),
        fun m mem => (by cases mem)⟩
  have someField : ms ≠ [] := by
    rintro rfl
    cases written
  have grown : r'.tree.children ≠ [] := by
    obtain ⟨m, mem⟩ := List.exists_mem_of_ne_nil ms someField
    obtain ⟨c, present, -⟩ := excl.covers m mem
    exact List.ne_nil_of_mem present
  refine ⟨_, (parse_eq_ok_iff (by rw [trimmed]; exact solid)).2 ⟨r', ?_, rfl⟩,
    Draft.exclusionForest_compile members excl grown⟩
  rw [trimmed]
  exact Reader.expressionList_given ran

/-- A filter made only of exclusions of fields written alone shows, of the properties other
than `base` that are not unwrapped, exactly the base properties that no excluded field matches
and that no excluded exact name names a view of; each is shown as a member of the base view. -/
theorem parse_exclusions_decide {ts : List (List Char)} {ms : List NameMatcher}
    (written : List.Forall₂ Written ts ms) (nonEmpty : ts ≠ []) :
    ∃ ns, parse (String.ofList (exclusionsText ts)) = .ok ns ∧
      ∀ (info : TypeViews) (cfg : FilterConfig) (p : String), info.isUnwrapped p = false →
        p ≠ baseView →
        ((decide (.nodes (.ofForest ns)) p info cfg).included = true ↔
          info.isBase p = true ∧ (∀ m ∈ ms, m.accepts p = false) ∧
            ∀ v, .exact v ∈ ms → info.viewContains v p = false) ∧
        ((decide (.nodes (.ofForest ns)) p info cfg).included = true →
          (decide (.nodes (.ofForest ns)) p info cfg).children =
            if cfg.propagateViews then .view baseView else .unfiltered) := by
  obtain ⟨ns, parsed, forest⟩ := parse_exclusions written nonEmpty
  exact ⟨ns, parsed, fun info cfg p wrapped other =>
    ⟨forest.decide_included wrapped other cfg, forest.decide_children wrapped other⟩⟩

/-- `-a,-b*`: the base view less `a` and the fields matching `b*`. -/
theorem name_and_glob_excluded :
    ∃ ns, parse (String.ofList (exclusionsText [['a'], ['b', '*']])) = .ok ns ∧
      ∀ (info : TypeViews) (cfg : FilterConfig) (p : String), info.isUnwrapped p = false →
        p ≠ baseView →
        ((decide (.nodes (.ofForest ns)) p info cfg).included = true ↔
          info.isBase p = true ∧
            (∀ m ∈ [NameMatcher.exact "a", .glob "b*" (Regex.Program.compile (Glob.regex ['b', '*']))],
              m.accepts p = false) ∧
            ∀ v, .exact v ∈ [NameMatcher.exact "a",
                .glob "b*" (Regex.Program.compile (Glob.regex ['b', '*']))] →
              info.viewContains v p = false) ∧
        ((decide (.nodes (.ofForest ns)) p info cfg).included = true →
          (decide (.nodes (.ofForest ns)) p info cfg).children =
            if cfg.propagateViews then .view baseView else .unfiltered) :=
  have writtenA : Written ['a'] (.exact "a") :=
    written_name (by decide) (fun x mem => by cases mem) (by decide) rfl
  have writtenB : Written ['b', '*'] (.glob "b*" (Regex.Program.compile (Glob.regex ['b', '*']))) :=
    written_name (by decide) (fun x mem => by rw [List.mem_singleton.1 mem]; decide) (by decide)
      (NameMatcher.wildcard_eq "b*")
  parse_exclusions_decide (.cons writtenA (.cons writtenB .nil)) (List.cons_ne_nil _ _)

end Selection

end FieldSelection
