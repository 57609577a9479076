import FieldSelection.Proofs.Selection.Erasure
import FieldSelection.Proofs.Selection.Broadcast
import FieldSelection.Proofs.Selection.Repeated
/-!
# A dot-path is shorthand for nested brackets

For fields `t₁ … tₖ`, none of them the any-deep name, and a nested part `N` that is absent, empty
or a list in brackets, the dot-path `t₁.….tₖN` (`dotPathText`) and the nesting `t₁[t₂[…tₖN…]]`
(`nestedText`) may stand for each other at every place of an expression
(`parse_dotPath_nests`): either both fail to compile, or both compile to forests that are equal
once their dot-path marks are forgotten.

The reader does not build the two alike. It puts the steps of a dot-path before the last marked
dot-pathed, braces the parent of the first, and reads the nested part once it has read the whole
path; it reads a nested list into a field it puts plainly. The trees it leaves then agree up to
`Draft.erase`, which forgets dot-path marks and braces nodes with children. One step carries the
proof: `t.P` reads as `t` put dot-pathed and braced under its braced parent, then `P` read under
it as an expression (`Reader.expression_dotted`, `Reader.expression_of_dotted`), while `t[P]`
reads `P` under `t` put plainly and braced (`Puts`); both leave trees with one erasure
(`Draft.erase_dottedStep`). So `t.P` and `t[P]` may stand for each other at the start of a list
(`Reader.swap_dotted_nested`, `Reader.swap_nested_dotted`), and by induction on the path, the whole
dot-path and the whole nesting may (`Reader.swap_dotPath_nestedText`): the rest of the path stands
for the rest of the nesting inside the brackets of `t[…]` (`Reader.Swap.bracketed`).
-/

namespace FieldSelection

namespace Draft

/-- The tree after the first step of a dot-path under `parent`: the parent braced, the step put
under it marked dot-pathed, and the step braced to take the rest of the path. -/
def dottedStep (d : Draft) (parent : List String) (m : NameMatcher) : Draft :=
  modifyAt braceNode (parent ++ [m.literal])
    ((modifyAt braceNode parent d).addChild parent m { dotPathed := true }).1

/-- Erased, a node after a field is put at it forgets whether the node was braced. -/
theorem erase_addHere_braceNode (n : Draft) (m : NameMatcher) (f : NodeMarks) :
    erase (addHere (braceNode n) m f) = erase (addHere n m f) := by
  rw [erase_addHere, erase_addHere, children_braceNode]
  cases n
  simp [braceNode, NodeMarks.erase]

/-- The first step of a dot-path, put dot-pathed under its braced parent and braced, and the same
field put plainly and braced to read a nested list, leave trees with one erasure. -/
theorem erase_dottedStep {t₁ t₂ : Draft} (same : erase t₁ = erase t₂) (parent : List String)
    (m : NameMatcher) :
    erase (t₁.dottedStep parent m) =
      erase (modifyAt braceNode (parent ++ [m.literal]) (t₂.addChild parent m {}).1) := by
  have placed : erase ((modifyAt braceNode parent t₁).addChild parent m { dotPathed := true }).1 =
      erase (t₂.addChild parent m {}).1 := by
    show erase (modifyAt (fun n => addHere n m _) parent (modifyAt braceNode parent t₁)) = _
    rw [modifyAt_modifyAt key_braceNode]
    refine erase_modifyAt_congr (fun n => ?_) (fun n => ?_) parent same
    · rw [erase_addHere_braceNode]
      exact erase_addHere_congr (erase_erase n) m rfl
    · rw [erase_addHere_braceNode, erase_addHere_braceNode]
      exact erase_addHere_congr (erase_erase n) m rfl
  exact (keeps_erase []).brace (parent ++ [m.literal]) List.nil_prefix placed

/-- Having one erasure is an equivalence of trees. -/
theorem equivalence_erase : Equivalence fun t₁ t₂ : Draft => erase t₁ = erase t₂ :=
  ⟨fun _ => rfl, fun same => same.symm, fun first second => first.trans second⟩

end Draft

namespace Selection

/-- The dot-path `t₁.….tₖ` followed by the nested part `N`. -/
def dotPathText (ts : List (List Char)) (N : List Char) : List Char :=
  ['.'].intercalate ts ++ N

/-- The fields `t₁ … tₖ` nested each in the one before, the last with the nested part `N`:
`t₁[t₂[…tₖN…]]`. -/
def nestedText : List (List Char) → List Char → List Char
  | [], N => N
  | [t], N => t ++ N
  | t :: t' :: ts, N => t ++ '[' :: (nestedText (t' :: ts) N ++ [']'])

theorem dotPathText_singleton (t N : List Char) : dotPathText [t] N = t ++ N := by
  simp [dotPathText]

theorem dotPathText_cons_cons (t t' : List Char) (ts : List (List Char)) (N : List Char) :
    dotPathText (t :: t' :: ts) N = t ++ '.' :: dotPathText (t' :: ts) N := by
  simp [dotPathText, List.intercalate_cons_cons]

/-- The dot-path of field tokens is a dot-separated list of them. -/
theorem separated_intercalate : ∀ {ts : List (List Char)}, ts ≠ [] →
    (∀ t ∈ ts, FieldToken t t []) → Separated '.' (['.'].intercalate ts) ts []
  | [], nonEmpty, _ => absurd rfl nonEmpty
  | [t], _, tokens => by
    rw [List.intercalate_singleton]
    exact .last (tokens t List.mem_cons_self)
  | t :: t' :: ts, _, tokens => by
    have tok := tokens t List.mem_cons_self
    rw [List.intercalate_cons_cons, List.append_assoc, List.singleton_append]
    exact .step (tok.append_stop (stop_cons (by decide) _)) (Blanks.refl _)
      (separated_intercalate (List.cons_ne_nil t' ts) fun u mem =>
        tokens u (List.mem_cons_of_mem t mem))

theorem exists_dotPathText_cons (t : List Char) (ts : List (List Char)) (N : List Char) :
    ∃ Y, dotPathText (t :: ts) N = t ++ Y := by
  cases ts with
  | nil => exact ⟨N, dotPathText_singleton t N⟩
  | cons t' ts => exact ⟨_, dotPathText_cons_cons t t' ts N⟩

theorem exists_nestedText_cons (t : List Char) (ts : List (List Char)) (N : List Char) :
    ∃ Y, nestedText (t :: ts) N = t ++ Y := by
  cases ts with
  | nil => exact ⟨N, rfl⟩
  | cons t' ts => exact ⟨_, rfl⟩

/-- A dot-path ends with its nested part, or with its last field. -/
theorem last_dotPathText {N : List Char} (nest : Nest N []) :
    ∀ {ts : List (List Char)}, (∀ t ∈ ts, FieldToken t t []) →
      ∀ c ∈ (dotPathText ts N).getLast?, Text.isBlank c = false
  | [], _ => by simpa [dotPathText] using nest.last
  | [t], tokens => by
    rw [dotPathText_singleton]
    exact last_append (tokens t List.mem_cons_self).last nest.last
  | t :: t' :: ts, tokens => by
    rw [dotPathText_cons_cons, show t ++ '.' :: dotPathText (t' :: ts) N =
      (t ++ ['.']) ++ dotPathText (t' :: ts) N by simp]
    refine last_append (fun c mem => ?_) (last_dotPathText nest fun u mem =>
      tokens u (List.mem_cons_of_mem t mem))
    rw [List.getLast?_concat, Option.mem_def, Option.some.injEq] at mem
    rw [← mem]
    decide

/-- A nesting ends with a closing bracket, or with its only field and the nested part. -/
theorem last_nestedText {N : List Char} (nest : Nest N []) {t : List Char}
    (tok : FieldToken t t []) (ts : List (List Char)) :
    ∀ c ∈ (nestedText (t :: ts) N).getLast?, Text.isBlank c = false := by
  cases ts with
  | nil => exact last_append tok.last nest.last
  | cons t' ts =>
    intro c mem
    rw [nestedText, show t ++ '[' :: (nestedText (t' :: ts) N ++ [']']) =
      (t ++ '[' :: nestedText (t' :: ts) N) ++ [']'] by simp, List.getLast?_concat,
      Option.mem_def, Option.some.injEq] at mem
    rw [← mem]
    decide

/-- What starts a nested part goes on with no field before it. -/
theorem Nest.stop {N : List Char} (nest : Nest N []) : ∀ c ∈ N.head?, isNameChar c = false := by
  intro c first
  cases N with
  | nil => cases first
  | cons n ns => exact stop_of_nest nest (follows_close (.inl rfl) []) c (by simpa using first)

/-- A reading at a field token starts, past blanks, with no punctuation. -/
theorem FieldToken.head_ne_here {t X : List Char} (tok : FieldToken t t []) {r : Reading}
    (here : Text.dropBlanks r.cursor.rest = t ++ X) {k : Char}
    (punctuation : k ≠ '~' ∧ k ≠ '/' ∧ isNameStart k = false) :
    (Text.dropBlanks r.cursor.rest).head? ≠ some k := by
  rw [here, ← Reader.dropBlanks_field tok, head_dropBlanks_append tok.solid]
  exact tok.head_ne punctuation

/-- A reading at a dot-path starts, past blanks, with no punctuation. -/
theorem Separated.head_ne_here {Q W : List Char} {ts : List (List Char)}
    (separated : Separated '.' Q ts []) {r : Reading}
    (here : Text.dropBlanks r.cursor.rest = Text.dropBlanks (Q ++ W)) {k : Char}
    (punctuation : k ≠ '~' ∧ k ≠ '/' ∧ isNameStart k = false) :
    (Text.dropBlanks r.cursor.rest).head? ≠ some k := by
  rw [here, head_dropBlanks_append separated.solid]
  exact separated.head_ne punctuation

namespace Reader

open Draft

/-! ## Reading alike from trees with one erasure -/

/-- Fields are attached alike from readings with the same text ahead and the same tree. -/
theorem attach_same {parent : List String} {fields : List Field} {fuel : Nat}
    {r₁ r₂ r₁' : Reading} (text : r₁.cursor.rest = r₂.cursor.rest) (tree : r₁.tree = r₂.tree)
    (nonEmpty : fields ≠ []) (h : (attach parent fields fuel).run r₁ = .ok ((), r₁')) :
    ∃ r₂', (attach parent fields fuel).run r₂ = .ok ((), r₂') ∧
      r₂'.cursor.rest = r₁'.cursor.rest ∧ r₂'.tree = r₁'.tree := by
  obtain ⟨r₂', ran, along⟩ := attach_along (keeps_eq []) (Tails.refl (T := []) (by simp))
    fuel List.nil_prefix
    (show Along Eq [] [] r₁ r₂ from ⟨⟨r₁.cursor.rest, by simp, by simp [text]⟩, tree⟩) nonEmpty h
    List.nil_suffix
  obtain ⟨C, here₁, here₂⟩ := along.text
  exact ⟨r₂', ran, by rw [here₁, here₂], along.tree.symm⟩

/-- The end of a list is read alike from readings with the same text ahead past blanks and
trees of one erasure. -/
theorem listTail_erase {parent : List String} {close : Option Char} {fuel : Nat}
    {r₁ r₂ r₁' : Reading} (text : Text.dropBlanks r₁.cursor.rest = Text.dropBlanks r₂.cursor.rest)
    (rel : erase r₁.tree = erase r₂.tree)
    (h : (listTail parent close fuel).run r₁ = .ok ((), r₁')) :
    ∃ r₂', (listTail parent close fuel).run r₂ = .ok ((), r₂') ∧
      r₂'.cursor.rest = r₁'.cursor.rest ∧ erase r₁'.tree = erase r₂'.tree := by
  have moved : ∃ rm, (listTail parent close fuel).run { r₂ with tree := r₁.tree } = .ok ((), rm) ∧
      rm.cursor.rest = r₁'.cursor.rest ∧ r₁'.tree = rm.tree := listTail_blanks text rfl h
  obtain ⟨rm, ranM, restM, treeM⟩ := moved
  obtain ⟨r₂', ran, restR, relR⟩ := listTail_along (keeps_erase []) List.nil_prefix
    (show ({ r₂ with tree := r₁.tree } : Reading).cursor.rest = r₂.cursor.rest from rfl) rel ranM
  exact ⟨r₂', ran, restR.trans restM, treeM ▸ relR⟩

/-! ## A dot-path is its first step, then the rest under it -/

/-- Steps put after a node is braced: bracing it again changes nothing. -/
theorem stepsBefore_braced {α : Type} (node : List String) (before : List Field)
    (k : List String → ReadM α) (r : Reading) (t : Draft) :
    (stepsBefore node before >>= k).run { r with tree := modifyAt braceNode node t } =
      (pathPrefix node before.reverse >>= k).run { r with tree := modifyAt braceNode node t } := by
  unfold stepsBefore
  split
  · rename_i empty
    rw [List.isEmpty_iff.1 empty]
    rfl
  · rw [bind_assoc, run_brace_bind, modifyAt_modifyAt key_braceNode]
    congr 2
    congr 1
    funext n
    cases n
    rfl

/-- Putting the first of the steps before the last of a path, then the others under it. -/
theorem run_pathPrefix_cons_bind {α : Type} (parent : List String) (f : Field) (rest : List Field)
    (k : List String → ReadM α) (r : Reading) :
    (pathPrefix parent (f :: rest) >>= k).run r =
      (pathPrefix (parent ++ [f.matcher.literal]) rest >>= k).run
        { r with tree := (modifyAt braceNode (parent ++ [f.matcher.literal])
          (r.tree.addChild parent f.matcher { dotPathed := true }).1) } :=
  rfl

/-- The head of a dot-path `t.Q` read under `parent`, and the head of its rest `Q` read under the
first step from the tree that step leaves, answer the same node, fields with the same matchers,
and readings at the same place with the same tree: reading the whole path puts the steps of `Q`
before its last under the first step, as reading `Q` there does. -/
theorem head_dotted {t Q W : List Char} {m : NameMatcher} {ts : List (List Char)}
    (tok : FieldToken t t []) (reads : Reads t m) (plain : t ≠ anyDeepText)
    (separated : Separated '.' Q ts []) (plainQ : anyDeepText ∉ ts)
    (stop : ∀ c ∈ W.head?, isNameChar c = false)
    (noDot : (Text.dropBlanks W).head? ≠ some '.') (parent : List String) {r r₀ : Reading}
    (here : Text.dropBlanks r.cursor.rest = t ++ '.' :: (Q ++ W))
    (here₀ : Text.dropBlanks r₀.cursor.rest = Text.dropBlanks (Q ++ W))
    (tree₀ : r₀.tree = r.tree.dottedStep parent m) :
    ∃ node fs₁ fs₂ ra rb, (head parent).run r = .ok ((node, fs₁), ra) ∧
      (head (parent ++ [m.literal])).run r₀ = .ok ((node, fs₂), rb) ∧
      fs₁.map (·.matcher) = fs₂.map (·.matcher) ∧ ra.cursor.rest = rb.cursor.rest ∧
      ra.tree = rb.tree := by
  obtain ⟨ms, readsQ⟩ := separated.reads
  have whole : Separated '.' (t ++ '.' :: Q) (t :: ts) [] :=
    .step (tok.append_stop (stop_cons (by decide) Q)) (Blanks.refl _) separated
  obtain ⟨fs, ra₀, ranPath, named, after, treeA⟩ := path_matchers
    (r := { r with cursor := r.cursor.skipBlanks }) whole (.cons reads readsQ)
    (.inl fun mem => (List.mem_cons.1 mem).elim (fun same => plain same.symm) plainQ)
    (by simpa using stop) (by simpa using noDot)
    (by rw [Cursor.skipBlanks_rest, dropBlanks_dropBlanks, here, List.append_assoc,
      List.cons_append, dropBlanks_field tok])
  obtain ⟨fs', rb₀, ranPath₀, named₀, after₀, treeB⟩ := path_matchers
    (r := { r₀ with cursor := r₀.cursor.skipBlanks }) separated readsQ (.inl plainQ)
    (by simpa using stop) (by simpa using noDot)
    (by rw [Cursor.skipBlanks_rest, dropBlanks_dropBlanks, here₀])
  obtain ⟨f₀, gs, rfl, named₁, namedRest⟩ := fields_cons named
  have nonEmpty : fs'.reverse ≠ [] := by
    rw [Ne, List.reverse_eq_nil_iff]
    exact ne_nil_of_matchers readsQ named₀ separated.ne_nil
  obtain ⟨last', before', reversed'⟩ := List.exists_cons_of_ne_nil nonEmpty
  obtain ⟨last, before, reversed, sameLast, sameBefore⟩ :=
    exists_reverse_of_matchers (named₀.trans namedRest.symm) reversed'
  rw [head_of_path parent (tok.head_ne_here here (by decide)) ranPath
      (show (f₀ :: gs).reverse = last :: (before ++ [f₀]) by rw [List.reverse_cons, reversed]; rfl),
    head_of_path _ (separated.head_ne_here here₀ (by decide)) ranPath₀ reversed']
  have putFirst : stepsBefore parent (before ++ [f₀]) =
      (brace parent >>= fun _ => pathPrefix parent (f₀ :: before.reverse)) := by
    simp [stepsBefore]
  rw [putFirst, bind_assoc, run_brace_bind, run_pathPrefix_cons_bind, named₁, treeA]
  obtain ⟨cursor₀, tree₀'⟩ := rb₀
  simp only at treeB after₀ ⊢
  rw [treeB, tree₀, dottedStep, stepsBefore_braced _ _ _ ⟨cursor₀, r.tree⟩,
    pathPrefix_congr _ (show before'.reverse.map (·.matcher) = before.reverse.map (·.matcher) by
      rw [List.map_reverse, List.map_reverse, sameBefore])]
  obtain ⟨node, t₁, t₂, -, ran₁, ran₂, same⟩ :=
    (kept_pathPrefix (keeps_eq []) _ before.reverse List.nil_prefix).run_bind
      { ra₀ with tree := (r.tree.dottedStep parent m) }
      ⟨cursor₀, r.tree.dottedStep parent m⟩ rfl
  rw [dottedStep] at ran₁ ran₂
  rw [ran₁, ran₂]
  exact ⟨node, [last], [last'], _, _, rfl, rfl, by simp [sameLast], by simp [after, after₀], same⟩

/-- A dot-path `t.Q` read as an expression under `parent` is read as its rest `Q` under the first
step, from the tree that step leaves: to the same place, with the same tree. -/
theorem expression_dotted {t Q W : List Char} {m : NameMatcher} {ts : List (List Char)}
    (tok : FieldToken t t []) (reads : Reads t m) (plain : t ≠ anyDeepText)
    (separated : Separated '.' Q ts []) (plainQ : anyDeepText ∉ ts)
    (stop : ∀ c ∈ W.head?, isNameChar c = false)
    (noDot : (Text.dropBlanks W).head? ≠ some '.') {parent : List String} {fuel : Nat}
    {r r₀ r' : Reading} (here : Text.dropBlanks r.cursor.rest = t ++ '.' :: (Q ++ W))
    (here₀ : Text.dropBlanks r₀.cursor.rest = Text.dropBlanks (Q ++ W))
    (tree₀ : r₀.tree = r.tree.dottedStep parent m)
    (h : (expression parent fuel).run r = .ok ((), r')) :
    ∃ r₀', (expression (parent ++ [m.literal]) fuel).run r₀ = .ok ((), r₀') ∧
      r₀'.cursor.rest = r'.cursor.rest ∧ r₀'.tree = r'.tree := by
  obtain ⟨node, fs₁, fs₂, ra, rb, ranHead, ranHead₀, same, rest, tree⟩ :=
    head_dotted tok reads plain separated plainQ stop noDot parent here here₀ tree₀
  obtain ⟨f, node', fields, rm, rfl, ranHead', ranAttach⟩ :=
    expression_parts (tok.head_ne_here here (by decide)) h
  rw [ranHead, Except.ok.injEq, Prod.mk.injEq, Prod.mk.injEq] at ranHead'
  obtain ⟨⟨rfl, rfl⟩, rfl⟩ := ranHead'
  rw [attach_congr same] at ranAttach
  obtain ⟨r₀', ranAttach₀, rest', tree'⟩ :=
    attach_same rest tree (head_nonEmpty ranHead₀) ranAttach
  exact ⟨r₀', expression_of_parts (separated.head_ne_here here₀ (by decide)) ranHead₀ ranAttach₀,
    rest', tree'⟩

/-- The rest `Q` of a dot-path `t.Q` read as an expression under the first step, from the tree
that step leaves, is read as the whole dot-path under `parent`: to the same place, with the same
tree. -/
theorem expression_of_dotted {t Q W : List Char} {m : NameMatcher} {ts : List (List Char)}
    (tok : FieldToken t t []) (reads : Reads t m) (plain : t ≠ anyDeepText)
    (separated : Separated '.' Q ts []) (plainQ : anyDeepText ∉ ts)
    (stop : ∀ c ∈ W.head?, isNameChar c = false)
    (noDot : (Text.dropBlanks W).head? ≠ some '.') {parent : List String} {fuel : Nat}
    {r r₀ r₀' : Reading} (here : Text.dropBlanks r.cursor.rest = t ++ '.' :: (Q ++ W))
    (here₀ : Text.dropBlanks r₀.cursor.rest = Text.dropBlanks (Q ++ W))
    (tree₀ : r₀.tree = r.tree.dottedStep parent m)
    (h : (expression (parent ++ [m.literal]) fuel).run r₀ = .ok ((), r₀')) :
    ∃ r', (expression parent fuel).run r = .ok ((), r') ∧
      r'.cursor.rest = r₀'.cursor.rest ∧ r'.tree = r₀'.tree := by
  obtain ⟨node, fs₁, fs₂, ra, rb, ranHead, ranHead₀, same, rest, tree⟩ :=
    head_dotted tok reads plain separated plainQ stop noDot parent here here₀ tree₀
  obtain ⟨f, node', fields, rm, rfl, ranHead', ranAttach⟩ :=
    expression_parts (separated.head_ne_here here₀ (by decide)) h
  rw [ranHead₀, Except.ok.injEq, Prod.mk.injEq, Prod.mk.injEq] at ranHead'
  obtain ⟨⟨rfl, rfl⟩, rfl⟩ := ranHead'
  rw [← attach_congr same] at ranAttach
  obtain ⟨r', ranAttach', rest', tree'⟩ :=
    attach_same rest.symm tree.symm (head_nonEmpty ranHead) ranAttach
  exact ⟨r', expression_of_parts (tok.head_ne_here here (by decide)) ranHead ranAttach',
    rest', tree'⟩

/-! ## A list read into a braced field -/

/-- A list read as one expression before what may follow it is read into its node alike closed
by a bracket. -/
theorem readsInto_of_expression {X T : List Char} (expr : Expr X []) (follows : Follows T)
    {node : List String} {fuel : Nat} {r r' : Reading}
    (here : Text.dropBlanks r.cursor.rest = Text.dropBlanks (X ++ T))
    (h : (expression node fuel).run r = .ok ((), r')) :
    ReadsInto node X r.tree r'.tree ∧ Text.dropBlanks r'.cursor.rest = Text.dropBlanks T := by
  have closing : Text.dropBlanks (⟨⟨X ++ [']'], 0⟩, r.tree⟩ : Reading).cursor.rest =
      Text.dropBlanks (X ++ [']']) := rfl
  obtain ⟨rb, ranB, treeB, ends, endsB⟩ :=
    expression_follow expr follows (follows_close (.inl rfl) []) here closing rfl h
  rw [dropBlanks_cons_of_plain (by decide)] at endsB
  refine ⟨⟨fuel + 1, { rb with cursor := rb.cursor.skipBlanks.bump }, ?_, treeB⟩, ends⟩
  have closed : (listTail node (some ']') 0).run rb =
      .ok ((), { rb with cursor := rb.cursor.skipBlanks.bump }) := listTail_close (.inl rfl) endsB
  have ranList := expressionList_of_parts ranB closed
  rwa [Nat.max_zero] at ranList

/-- A list read into its node, closed by a bracket, is read alike as one expression before what
may follow it. -/
theorem expression_of_readsInto {X T : List Char} (expr : Expr X []) (follows : Follows T)
    {node : List String} {σ σ' : Draft} (into : ReadsInto node X σ σ') {r : Reading}
    (here : Text.dropBlanks r.cursor.rest = Text.dropBlanks (X ++ T)) (tree : r.tree = σ) :
    ∃ fuel r', (expression node fuel).run r = .ok ((), r') ∧ r'.tree = σ' ∧
      Text.dropBlanks r'.cursor.rest = Text.dropBlanks T := by
  obtain ⟨fuel, rd, ran, treeD⟩ := into
  obtain ⟨f, re, rfl, ranExpr, ranTail⟩ := expressionList_parts ran
  have ends := expression_end (expr.append_end (follows_close (.inl rfl) []))
    (follows_close (.inl rfl) []) rfl ranExpr
  rw [dropBlanks_cons_of_plain (by decide)] at ends
  rw [listTail_close (.inl rfl) ends, Except.ok.injEq, Prod.mk.injEq] at ranTail
  obtain ⟨-, rfl⟩ := ranTail
  obtain ⟨r', ran', tree', -, endsT⟩ :=
    expression_follow expr (follows_close (.inl rfl) []) follows rfl here tree.symm ranExpr
  exact ⟨f, r', ran', tree'.trans treeD, endsT⟩

/-- A list read into its node from trees of one erasure leaves trees of one erasure. -/
theorem readsInto_erase {node : List String} {X : List Char} (items : ExprList X [])
    {σ₁ σ₁' σ₂ : Draft} (into : ReadsInto node X σ₁ σ₁') (rel : erase σ₁ = erase σ₂) :
    ∃ σ₂', ReadsInto node X σ₂ σ₂' ∧ erase σ₁' = erase σ₂' := by
  obtain ⟨fuel, r', ran, rfl⟩ := into
  have start : ∀ σ : Draft, (⟨⟨X ++ [']'], 0⟩, σ⟩ : Reading).cursor.rest = X ++ [']'] ++ [] :=
    fun _ => (List.append_nil _).symm
  obtain ⟨r₂', ran₂, -, rel'⟩ := closedList_along (keeps_erase []) fuel List.nil_prefix (.inl rfl)
    (start σ₁) (start σ₂) rel ran (closedList_end items rfl ran)
  exact ⟨r₂'.tree, ⟨fuel, r₂', ran₂, rfl⟩, rel'⟩

/-! ## One step: `t.QN` against `t[QN]` -/

/-- The dot-path `t.QN` may stand for `t[QN]` at the start of a list, with trees of one erasure:
both read `QN` under `t` braced, from trees of one erasure. -/
theorem swap_dotted_nested {t Q N : List Char} {ts : List (List Char)} (tok : FieldToken t t [])
    (plain : t ≠ anyDeepText) (separated : Separated '.' Q ts []) (plainQ : anyDeepText ∉ ts)
    (nest : Nest N []) :
    Swap (fun t₁ t₂ => erase t₁ = erase t₂) (t ++ '.' :: (Q ++ N))
      (t ++ '[' :: (Q ++ N ++ [']'])) := by
  intro fuel parent close T r₁ r₂ r₁' _ follows here₁ here₂ rel h
  obtain ⟨m, reads⟩ := tok.reads
  have expr : Expr (Q ++ N) [] := .path (separated.append_stop nest.stop) plainQ nest
  have at₁ : Text.dropBlanks r₁.cursor.rest = t ++ '.' :: (Q ++ (N ++ T)) := by
    simp [here₁, dropBlanks_field tok]
  obtain ⟨f, ra, rfl, ranExpr, ranTail⟩ := expressionList_parts h
  have start : Text.dropBlanks
      (⟨⟨Q ++ (N ++ T), 0⟩, r₁.tree.dottedStep parent m⟩ : Reading).cursor.rest =
        Text.dropBlanks (Q ++ (N ++ T)) := rfl
  obtain ⟨ra₀, ranRest, sameRest, sameTree⟩ := expression_dotted tok reads plain separated
    plainQ (stop_of_nest nest follows) (nest.noDot follows) at₁ start rfl ranExpr
  obtain ⟨into, ends⟩ :=
    readsInto_of_expression expr follows (by rw [start, List.append_assoc]) ranRest
  obtain ⟨σ', into₂, rel'⟩ := readsInto_erase (.last expr) into (erase_dottedStep rel parent m)
  obtain ⟨fuel₂, rm, ranExpr₂, treeM, endsM⟩ := expression_of_puts (N := .list (Q ++ N)) tok reads
    (.last expr) follows (by simp [here₂, dropBlanks_field tok,
      NestedPart.text]) into₂
  have relM : erase ra.tree = erase rm.tree := by
    rw [← sameTree, treeM]
    exact rel'
  obtain ⟨r₂', ranTail₂, sameEnd, relEnd⟩ :=
    listTail_erase (by rw [← sameRest, ends, endsM]) relM ranTail
  exact ⟨_, r₂', expressionList_of_parts ranExpr₂ ranTail₂, sameEnd, relEnd⟩

/-- The nesting `t[QN]` may stand for the dot-path `t.QN` at the start of a list, with trees of
one erasure. -/
theorem swap_nested_dotted {t Q N : List Char} {ts : List (List Char)} (tok : FieldToken t t [])
    (plain : t ≠ anyDeepText) (separated : Separated '.' Q ts []) (plainQ : anyDeepText ∉ ts)
    (nest : Nest N []) :
    Swap (fun t₁ t₂ => erase t₁ = erase t₂) (t ++ '[' :: (Q ++ N ++ [']']))
      (t ++ '.' :: (Q ++ N)) := by
  intro fuel parent close T r₁ r₂ r₁' _ follows here₁ here₂ rel h
  obtain ⟨m, reads⟩ := tok.reads
  have expr : Expr (Q ++ N) [] := .path (separated.append_stop nest.stop) plainQ nest
  have at₂ : Text.dropBlanks r₂.cursor.rest = t ++ '.' :: (Q ++ (N ++ T)) := by
    simp [here₂, dropBlanks_field tok]
  obtain ⟨f, ra, rfl, ranExpr, ranTail⟩ := expressionList_parts h
  obtain ⟨into, ends⟩ := expression_puts (N := .list (Q ++ N)) tok reads (.last expr) follows
    (by simp [here₁, dropBlanks_field tok, NestedPart.text]) ranExpr
  obtain ⟨σ', into₂, rel'⟩ :=
    readsInto_erase (.last expr) into (erase_dottedStep rel.symm parent m).symm
  have start : Text.dropBlanks
      (⟨⟨Q ++ (N ++ T), 0⟩, r₂.tree.dottedStep parent m⟩ : Reading).cursor.rest =
        Text.dropBlanks (Q ++ (N ++ T)) := rfl
  obtain ⟨fuel₀, ra₀, ranRest, treeR, endsR⟩ :=
    expression_of_readsInto expr follows into₂ (by rw [start, List.append_assoc]) rfl
  obtain ⟨rx, ranExpr₂, sameRest, sameTree⟩ := expression_of_dotted tok reads plain separated
    plainQ (stop_of_nest nest follows) (nest.noDot follows) at₂ start rfl ranRest
  have relX : erase ra.tree = erase rx.tree := by
    rw [sameTree, treeR]
    exact rel'
  obtain ⟨r₂', ranTail₂, sameEnd, relEnd⟩ :=
    listTail_erase (by rw [ends, sameRest, endsR]) relX ranTail
  exact ⟨_, r₂', expressionList_of_parts ranExpr₂ ranTail₂, sameEnd, relEnd⟩

/-! ## Swaps composed -/

namespace Swap

variable {R : Draft → Draft → Prop} {x y z : List Char}

/-- A swap before a closing bracket. -/
theorem closed (swap : Swap R x y) : Swap R (x ++ [']']) (y ++ [']']) := by
  intro fuel parent close T r₁ r₂ r₁' closing _ here₁ here₂ rel h
  rw [List.append_assoc, List.singleton_append] at here₁ here₂
  exact swap fuel closing (follows_close (.inl rfl) T) here₁ here₂ rel h

/-- A swap inside the brackets of a field. -/
theorem bracketed (keeps : Keeps R []) (swap : Swap R x y) (opensX : Opens x) (opensY : Opens y)
    {t : List Char} (tok : FieldToken t t []) (plain : t ≠ anyDeepText) :
    Swap R (t ++ '[' :: (x ++ [']'])) (t ++ '[' :: (y ++ [']'])) := by
  have hd : Head (t ++ ['[']) ['['] :=
    .path (.last (tok.append_stop (stop_cons (by decide) [])))
      fun mem => plain (List.mem_singleton.1 mem).symm
  have inside := swap.closed.into keeps (opensX.append _) (opensY.append _) hd (.inl ⟨rfl, rfl⟩)
    (Blanks.refl _)
  simpa only [List.append_assoc, List.singleton_append] using inside

/-- Every text may stand for itself, with trees related by a relation every step keeps. -/
theorem refl (keeps : Keeps R []) (x : List Char) : Swap R x x := by
  intro fuel parent close T r₁ r₂ r₁' _ _ here₁ here₂ rel h
  obtain ⟨r₂', ran, along⟩ := expressionList_along keeps (Tails.refl (T := []) (by simp)) fuel
    List.nil_prefix
    (show Along R [] [] r₁ r₂ from ⟨⟨r₁.cursor.rest, by simp, by simp [here₁, here₂]⟩, rel⟩) h
    List.nil_suffix
  obtain ⟨C, ends₁, ends₂⟩ := along.text
  exact ⟨fuel, r₂', ran, by rw [ends₁, ends₂], along.tree⟩

/-- Swaps compose, for trees related by an equivalence. -/
theorem trans (equiv : Equivalence R) (first : Swap R x y) (second : Swap R y z) : Swap R x z := by
  intro fuel parent close T r₁ r₂ r₁' closing follows here₁ here₂ rel h
  have between : (⟨⟨Text.dropBlanks (y ++ T), 0⟩, r₁.tree⟩ : Reading).cursor.rest =
      Text.dropBlanks (y ++ T) := rfl
  obtain ⟨fuel₁, rm, ranM, sameM, relM⟩ := first fuel closing follows here₁ between (equiv.refl _) h
  obtain ⟨fuel₂, r₂', ran₂, same₂, rel₂⟩ := second fuel₁ closing follows between here₂ rel ranM
  exact ⟨fuel₂, r₂', ran₂, same₂.trans sameM, equiv.trans relM rel₂⟩

end Swap

/-- The whole dot-path and the whole nesting may stand for each other at the start of a list,
with trees of one erasure. The induction is on the fields: past the first field, the rest of the
dot-path stands for the rest of the nesting inside the brackets of the first. -/
theorem swap_dotPath_nestedText {N : List Char} (nest : Nest N []) :
    ∀ {ts : List (List Char)}, ts ≠ [] → (∀ t ∈ ts, FieldToken t t [] ∧ t ≠ anyDeepText) →
      Swap (fun t₁ t₂ => erase t₁ = erase t₂) (dotPathText ts N) (nestedText ts N) ∧
        Swap (fun t₁ t₂ => erase t₁ = erase t₂) (nestedText ts N) (dotPathText ts N)
  | [], nonEmpty, _ => absurd rfl nonEmpty
  | [t], _, _ => by
    rw [dotPathText_singleton]
    exact ⟨.refl (keeps_erase []) _, .refl (keeps_erase []) _⟩
  | t :: t' :: ts, _, fields => by
    obtain ⟨tok, plain⟩ := fields t List.mem_cons_self
    have more : ∀ u ∈ t' :: ts, FieldToken u u [] ∧ u ≠ anyDeepText := fun u mem =>
      fields u (List.mem_cons_of_mem t mem)
    obtain ⟨forward, backward⟩ := swap_dotPath_nestedText nest (List.cons_ne_nil t' ts) more
    have separated := separated_intercalate (List.cons_ne_nil t' ts) fun u mem => (more u mem).1
    have plainQ : anyDeepText ∉ t' :: ts := fun mem => (more _ mem).2 rfl
    have opensRest : Opens (dotPathText (t' :: ts) N) ∧ Opens (nestedText (t' :: ts) N) := by
      have next := (more t' List.mem_cons_self).1
      obtain ⟨Y, split⟩ := exists_dotPathText_cons t' ts N
      obtain ⟨Y', split'⟩ := exists_nestedText_cons t' ts N
      rw [split, split']
      exact ⟨next.opens.append Y, next.opens.append Y'⟩
    rw [dotPathText_cons_cons, nestedText]
    constructor
    · exact (swap_dotted_nested tok plain separated plainQ nest).trans
        equivalence_erase (forward.bracketed (keeps_erase []) opensRest.1 opensRest.2 tok plain)
    · exact (backward.bracketed (keeps_erase []) opensRest.2 opensRest.1 tok plain).trans
        equivalence_erase (swap_nested_dotted tok plain separated plainQ nest)

end Reader

/-! ## Whole texts -/

/-- A dot-path is shorthand for nested brackets: at every place of an expression, the dot-path
`t₁.….tₖN` of fields that are field tokens, none the any-deep name, followed by a nested part that
is absent, empty or a list in brackets, and the nesting `t₁[t₂[…tₖN…]]` both fail to compile, or
both compile to forests that are equal once their dot-path marks are forgotten. -/
theorem parse_dotPath_nests {pre post N : List Char} {ts : List (List Char)}
    (place : Opening pre) (follows : Follows post) (nonEmpty : ts ≠ [])
    (fields : ∀ t ∈ ts, FieldToken t t [] ∧ t ≠ anyDeepText) (nest : Nest N []) :
    (parse (String.ofList (pre ++ dotPathText ts N ++ post))).toOption.map Node.forgetDotsList =
      (parse (String.ofList (pre ++ nestedText ts N ++ post))).toOption.map
        Node.forgetDotsList := by
  obtain ⟨toNested, toDotted⟩ := Reader.swap_dotPath_nestedText nest nonEmpty fields
  obtain ⟨t, ts', rfl⟩ := List.exists_cons_of_ne_nil nonEmpty
  have tok := (fields t List.mem_cons_self).1
  have tokens : ∀ u ∈ t :: ts', FieldToken u u [] := fun u mem => (fields u mem).1
  have opensD : Opens (dotPathText (t :: ts') N) := by
    obtain ⟨Y, split⟩ := exists_dotPathText_cons t ts' N
    rw [split]
    exact tok.opens.append Y
  have opensN : Opens (nestedText (t :: ts') N) := by
    obtain ⟨Y, split⟩ := exists_nestedText_cons t ts' N
    rw [split]
    exact tok.opens.append Y
  have forget : ∀ {text : String} {ns : List Node}, parse text = .ok ns →
      Node.eraseList ns = Node.forgetDotsList ns := fun parsed =>
    Node.eraseList_eq_forgetDotsList _ fun n mem => (parse_agree parsed n mem).braced
  have forward : ∀ {ns}, parse (String.ofList (pre ++ dotPathText (t :: ts') N ++ post)) = .ok ns →
      ∃ ns', parse (String.ofList (pre ++ nestedText (t :: ts') N ++ post)) = .ok ns' ∧
        Node.eraseList ns = Node.eraseList ns' :=
    parse_of_swap (S := fun ns₁ ns₂ => Node.eraseList ns₁ = Node.eraseList ns₂)
      (Draft.keeps_erase []) rfl (fun _ _ same => Draft.compile_congr same) place follows toNested
      opensD opensN (last_dotPathText nest tokens) (last_nestedText nest tok ts')
  have backward : ∀ {ns}, parse (String.ofList (pre ++ nestedText (t :: ts') N ++ post)) = .ok ns →
      ∃ ns', parse (String.ofList (pre ++ dotPathText (t :: ts') N ++ post)) = .ok ns' ∧
        Node.eraseList ns = Node.eraseList ns' :=
    parse_of_swap (S := fun ns₁ ns₂ => Node.eraseList ns₁ = Node.eraseList ns₂)
      (Draft.keeps_erase []) rfl (fun _ _ same => Draft.compile_congr same) place follows toDotted
      opensN opensD (last_nestedText nest tok ts') (last_dotPathText nest tokens)
  cases compiled : parse (String.ofList (pre ++ dotPathText (t :: ts') N ++ post)) with
  | ok ns =>
    obtain ⟨ns', compiled', same⟩ := forward compiled
    rw [compiled']
    exact congrArg some ((forget compiled).symm.trans (same.trans (forget compiled')))
  | error e =>
    cases compiled' : parse (String.ofList (pre ++ nestedText (t :: ts') N ++ post)) with
    | ok ns' =>
      obtain ⟨ns, again, -⟩ := backward compiled'
      rw [compiled] at again
      cases again
    | error e' => rfl

/-- `a.b[x]` compiles as `a[b[x]]`, once dot-path marks are forgotten. -/
theorem dotPath_nests_nested :
    (parse (String.ofList ([] ++ dotPathText [['a'], ['b']] ['[', 'x', ']'] ++ []))).toOption.map
        Node.forgetDotsList =
      (parse (String.ofList ([] ++ nestedText [['a'], ['b']] ['[', 'x', ']'] ++ []))).toOption.map
        Node.forgetDotsList := by
  have name : ∀ c : Char, isNameStart c = true → FieldToken [c] [c] [] := fun c start =>
    .name (Blanks.refl _) start (by simp) (by simp)
  have fields : ∀ t ∈ [['a'], ['b']], FieldToken t t [] ∧ t ≠ anyDeepText := by
    intro t mem
    simp only [List.mem_cons, List.not_mem_nil, or_false] at mem
    rcases mem with rfl | rfl
    · exact ⟨name 'a' (by decide), by decide⟩
    · exact ⟨name 'b' (by decide), by decide⟩
  have inner : FieldToken ['x', ']'] ['x'] [']'] :=
    .name (Blanks.refl _) (by decide) (by simp) (stop_cons (c := ']') (by decide) [])
  have nested : Nest ['[', 'x', ']'] [] :=
    .list (.inl ⟨rfl, rfl⟩) (Blanks.refl _) (.last (.path (.last inner) (by decide) .none))
      (Blanks.refl _)
  exact parse_dotPath_nests .start (by intro c mem; simp [Text.dropBlanks] at mem)
    (List.cons_ne_nil _ _) fields nested

end Selection

end FieldSelection
