import FieldSelection.Proofs.Selection.Grammar
import FieldSelection.Proofs.Name.Wildcard
/-!
# Reading tokens

What the token-level steps of `Selection.Reader` read, in the terms of the grammar of
selection expressions:

* running a step: the state operations and `peek` and `bump` as equations on `run`, so that a
  step is executed by rewriting; `Reader.TreeOnly` collects the steps that only build the tree,
  which always succeed and leave the cursor where it was;
* `Reader.regexBody_sound` and `Reader.regexBody_complete`: the body of a regular expression is
  read as `RegexBody` says;
* `Reader.field_sound` and `Reader.field_complete`: `Reader.field` reads exactly a
  `FieldToken`, and answers the any-deep matcher exactly for the any-deep name;
* dot-paths (`Reader.path_sound`, `Reader.path_complete`), field lists
  (`Reader.fieldList_sound`, `Reader.fieldList_complete`) and negated paths
  (`Reader.negated_sound`, `Reader.negated_complete`) are read as `Separated` says.

Soundness says that what a step reads is derived, up to the blanks a final look-ahead skipped;
completeness says that a step reads what is derived, when what follows is something the
grammar lets follow (`Follows`).
-/

namespace FieldSelection.Selection

/-! ## Running a step -/

@[simp] theorem Cursor.skipBlanks_rest (c : Cursor) :
    c.skipBlanks.rest = Text.dropBlanks c.rest := rfl

@[simp] theorem Cursor.bump_rest (c : Cursor) : c.bump.rest = c.rest.tail := by
  obtain ⟨rest, pos⟩ := c
  cases rest <;> rfl

@[simp] theorem Cursor.advance_rest (c : Cursor) (cs : List Char) :
    (c.advance cs).rest = c.rest.drop cs.length := rfl

namespace Reader

@[simp] theorem run_pure {α : Type} (a : α) (r : Reading) :
    (pure a : ReadM α).run r = .ok (a, r) := rfl

@[simp] theorem run_pure_bind {α β : Type} (a : α) (f : α → ReadM β) (r : Reading) :
    (pure a >>= f).run r = (f a).run r := rfl

@[simp] theorem run_get_bind {α : Type} (f : Reading → ReadM α) (r : Reading) :
    (get >>= f).run r = (f r).run r := rfl

@[simp] theorem run_set_bind {α : Type} (s : Reading) (f : PUnit → ReadM α) (r : Reading) :
    (set s >>= f).run r = (f ⟨⟩).run s := rfl

@[simp] theorem run_modify_bind {α : Type} (g : Reading → Reading) (f : PUnit → ReadM α)
    (r : Reading) : (modify g >>= f).run r = (f ⟨⟩).run (g r) := rfl

@[simp] theorem run_failAt {α : Type} (p : Nat) (e : SyntaxFault) (r : Reading) :
    (failAt p e : ReadM α).run r = .error (.malformed p e) := rfl

@[simp] theorem run_failAt_bind {α β : Type} (p : Nat) (e : SyntaxFault) (f : β → ReadM α)
    (r : Reading) : (failAt p e >>= f).run r = .error (.malformed p e) := rfl

@[simp] theorem run_throw {α : Type} (e : SelectionError) (r : Reading) :
    (throw e : ReadM α).run r = .error e := rfl

@[simp] theorem run_failUnexpected {α : Type} (e : Expectation) (r : Reading) :
    (failUnexpected e : ReadM α).run r = .error (r.cursor.unexpected e) := rfl

@[simp] theorem run_pos_bind {α : Type} (f : Nat → ReadM α) (r : Reading) :
    (pos >>= f).run r = (f r.cursor.pos).run r := rfl

@[simp] theorem run_peek (r : Reading) :
    peek.run r = .ok ((Text.dropBlanks r.cursor.rest).head?,
      { r with cursor := r.cursor.skipBlanks }) := rfl

@[simp] theorem run_peek_bind {α : Type} (f : Option Char → ReadM α) (r : Reading) :
    (peek >>= f).run r =
      (f (Text.dropBlanks r.cursor.rest).head?).run { r with cursor := r.cursor.skipBlanks } := rfl

@[simp] theorem run_bump_bind {α : Type} (f : PUnit → ReadM α) (r : Reading) :
    (bump >>= f).run r = (f ⟨⟩).run { r with cursor := r.cursor.bump } := rfl

@[simp] theorem run_bump (r : Reading) :
    bump.run r = .ok (⟨⟩, { r with cursor := r.cursor.bump }) := rfl

theorem run_bind_eq_ok {α β : Type} {m : ReadM α} {f : α → ReadM β} {r r' : Reading} {b : β} :
    (m >>= f).run r = .ok (b, r') ↔ ∃ a r₁, m.run r = .ok (a, r₁) ∧ (f a).run r₁ = .ok (b, r') := by
  rw [StateT.run_bind]
  cases ran : m.run r with
  | error e => simp [bind, Except.bind]
  | ok result =>
    obtain ⟨a, r₁⟩ := result
    simp only [bind, Except.bind]
    exact ⟨fun h => ⟨a, r₁, rfl, h⟩, fun ⟨_, _, same, h⟩ => by cases same; exact h⟩

theorem run_bind_of_ok {α β : Type} {m : ReadM α} {f : α → ReadM β} {r r₁ : Reading} {a : α}
    (ran : m.run r = .ok (a, r₁)) : (m >>= f).run r = (f a).run r₁ := by
  rw [StateT.run_bind, ran]
  rfl

/-- A step that only builds the tree: it succeeds from every state and leaves the cursor where
it was. -/
def TreeOnly {α : Type} (m : ReadM α) : Prop :=
  ∀ r : Reading, ∃ a tree, m.run r = .ok (a, { r with tree := tree })

namespace TreeOnly

theorem pure {α : Type} (a : α) : TreeOnly (Pure.pure a : ReadM α) :=
  fun r => ⟨a, r.tree, rfl⟩

theorem bind {α β : Type} {m : ReadM α} {f : α → ReadM β} (first : TreeOnly m)
    (rest : ∀ a, TreeOnly (f a)) : TreeOnly (m >>= f) := by
  intro r
  obtain ⟨a, tree, ran⟩ := first r
  obtain ⟨b, tree', ran'⟩ := rest a { r with tree := tree }
  exact ⟨b, tree', by rw [run_bind_of_ok ran, ran']⟩

/-- Running a tree-only step first leaves the cursor to what follows. -/
theorem run_bind {α β : Type} {m : ReadM α} (first : TreeOnly m) (f : α → ReadM β)
    (r : Reading) : ∃ a tree, (m >>= f).run r = (f a).run { r with tree := tree } := by
  obtain ⟨a, tree, ran⟩ := first r
  exact ⟨a, tree, run_bind_of_ok ran⟩

theorem forIn {α β : Type} {body : α → β → ReadM (ForInStep β)}
    (each : ∀ a b, TreeOnly (body a b)) : ∀ (xs : List α) (b : β), TreeOnly (ForIn.forIn xs b body)
  | [], b => by simpa using TreeOnly.pure b
  | x :: xs, b => by
    rw [List.forIn_cons]
    refine (each x b).bind fun step => ?_
    cases step with
    | done b' => exact TreeOnly.pure b'
    | yield b' => exact forIn each xs b'

end TreeOnly

theorem TreeOnly.run_bind_eq_ok {α β : Type} {m : ReadM α} {f : α → ReadM β} {r r' : Reading}
    {b : β} (first : TreeOnly m) (h : (m >>= f).run r = .ok (b, r')) :
    ∃ a tree, (f a).run { r with tree := tree } = .ok (b, r') := by
  obtain ⟨a, tree, ran⟩ := first.run_bind f r
  exact ⟨a, tree, ran ▸ h⟩

theorem TreeOnly.run_bind_unit {α : Type} {m : ReadM α} {f : α → ReadM Unit} {r : Reading}
    {Q : Reading → Prop} (first : TreeOnly m)
    (rest : ∀ a tree, ∃ r', (f a).run { r with tree := tree } = .ok ((), r') ∧ Q r') :
    ∃ r', (m >>= f).run r = .ok ((), r') ∧ Q r' := by
  obtain ⟨a, tree, ran⟩ := first.run_bind f r
  rw [ran]
  exact rest a tree

theorem treeOnly_addChild (path : List String) (m : NameMatcher) (f : NodeMarks) :
    TreeOnly (addChild path m f) :=
  fun _ => ⟨_, _, rfl⟩

theorem treeOnly_mark (path : List String) (g : NodeMarks → NodeMarks) : TreeOnly (mark path g) :=
  fun _ => ⟨_, _, rfl⟩

theorem treeOnly_brace (path : List String) : TreeOnly (brace path) :=
  treeOnly_mark path _

theorem treeOnly_negatedSteps : ∀ (parent : List String) (fs : List Field),
    TreeOnly (negatedSteps parent fs)
  | _, [] => TreeOnly.pure ()
  | parent, [_] =>
    (treeOnly_brace parent).bind fun _ =>
      (treeOnly_addChild _ _ _).bind fun node => treeOnly_mark node _
  | parent, _ :: g :: rest =>
    (treeOnly_brace parent).bind fun _ =>
      (treeOnly_addChild _ _ _).bind fun node => treeOnly_negatedSteps node (g :: rest)

theorem treeOnly_pathPrefix : ∀ (parent : List String) (fs : List Field),
    TreeOnly (pathPrefix parent fs)
  | parent, [] => TreeOnly.pure parent
  | _, _ :: rest =>
    (treeOnly_addChild _ _ _).bind fun node =>
      (treeOnly_brace node).bind fun _ => treeOnly_pathPrefix node rest

end Reader

/-! ## Names -/

/-- Reading a name never fails: every glob compiles. -/
theorem nameMatcher_ok (text : String) : ∃ m, nameMatcher text = .ok m := by
  unfold nameMatcher
  split_ifs
  · exact ⟨_, rfl⟩
  · exact ⟨_, rfl⟩
  · exact ⟨_, NameMatcher.wildcard_eq text⟩
  · exact ⟨_, rfl⟩

theorem nameMatcher_isAnyDeep {cs : List Char} {m : NameMatcher}
    (named : nameMatcher (String.ofList cs) = .ok m) : m.isAnyDeep = true ↔ cs = anyDeepText := by
  unfold nameMatcher at named
  by_cases deep : String.ofList cs = "**"
  · have spelt : cs = anyDeepText := by simpa [anyDeepText] using congrArg String.toList deep
    rw [if_pos (beq_iff_eq.2 deep)] at named
    cases named
    exact ⟨fun _ => spelt, fun _ => rfl⟩
  · have spelt : cs ≠ anyDeepText := fun same => deep (by rw [same]; rfl)
    simp only [deep, spelt, beq_iff_eq, if_false, iff_false] at named ⊢
    split at named
    · cases named
      simp [NameMatcher.isAnyDeep]
    split at named
    · rw [NameMatcher.wildcard_eq] at named
      cases named
      simp [NameMatcher.isAnyDeep]
    · cases named
      simp [NameMatcher.isAnyDeep]

/-- A name start after blanks begins the name token made of the name characters that follow. -/
theorem nameToken {cs body : List Char} {c : Char} (skipped : Text.dropBlanks cs = c :: body)
    (start : isNameStart c = true) :
    FieldToken cs (c :: body.takeWhile isNameChar) (body.dropWhile isNameChar) := by
  refine .name ?_ start (List.all_eq_true.1 List.all_takeWhile) ?_
  · rw [List.cons_append, List.takeWhile_append_dropWhile, ← skipped]
    exact blanks_dropBlanks cs
  · intro x mem
    have stops := List.head?_dropWhile_not isNameChar body
    rw [Option.mem_def] at mem
    rw [mem] at stops
    exact stops

/-! ## Regular expressions -/

namespace Reader

/-- The body of a regular expression runs up to the first delimiter that no backslash escapes. -/
theorem regexBody_sound {d : Char} {cs pat raw after : List Char}
    (found : regexBody d cs = some (pat, raw, after)) :
    cs = raw ++ d :: after ∧ RegexBody d raw pat := by
  fun_induction regexBody d cs generalizing pat raw after with
  | case1 | case2 => cases found
  | case3 e rest ih =>
    obtain ⟨⟨pat', raw', after'⟩, found', read⟩ := Option.map_eq_some_iff.1 found
    simp only [beq_iff_eq, Prod.mk.injEq] at read
    obtain ⟨rfl, rfl, rfl⟩ := read
    obtain ⟨rfl, body⟩ := ih found'
    exact ⟨rfl, .escaped body⟩
  | case4 c rest _ _ closing =>
    cases found
    rw [beq_iff_eq] at closing
    exact ⟨by rw [closing]; rfl, .nil⟩
  | case5 c rest notLone notEscape unclosed ih =>
    have plain : c ≠ '\\' := fun escape => by
      cases rest with
      | nil => exact notLone escape rfl
      | cons x xs => exact notEscape x xs escape rfl
    obtain ⟨⟨pat', raw', after'⟩, found', read⟩ := Option.map_eq_some_iff.1 found
    simp only [Prod.mk.injEq] at read
    obtain ⟨rfl, rfl, rfl⟩ := read
    obtain ⟨rfl, body⟩ := ih found'
    exact ⟨rfl, .plain (by simpa using unclosed) plain body⟩

theorem regexBody_plain {d c : Char} (plain : c ≠ '\\') (rest : List Char) :
    regexBody d (c :: rest) = if (c == d) = true then some ([], [], rest)
      else (regexBody d rest).map fun (pat, raw, after) => (c :: pat, c :: raw, after) :=
  regexBody.eq_4 d c rest (fun escape => absurd escape plain) (fun _ _ escape => absurd escape plain)

theorem regexBody_complete {d : Char} (unescaped : d ≠ '\\') {raw pat : List Char}
    (body : RegexBody d raw pat) (after : List Char) :
    regexBody d (raw ++ d :: after) = some (pat, raw, after) := by
  induction body with
  | nil => simp [regexBody_plain unescaped]
  | escaped body ih => simp [regexBody.eq_3, ih]
  | plain differs plain body ih => simp [regexBody_plain plain, ih, differs]


theorem drop_takeWhile_length (p : Char → Bool) (l : List Char) :
    l.drop (l.takeWhile p).length = l.dropWhile p := by
  induction l with
  | nil => rfl
  | cons a l ih => by_cases h : p a <;> simp [h, ih]

theorem flagLetters_eq (cs : List Char) : flagLetters cs = cs.takeWhile isAsciiLetter := rfl

theorem ofRegex_ok {literal pattern : String} {caseless : Bool} {m : NameMatcher}
    (compiled : NameMatcher.ofRegex literal pattern caseless = .ok m) :
    m.isAnyDeep = false ∧ ∃ prog, NameMatcher.compileRegex pattern caseless = .ok prog := by
  unfold NameMatcher.ofRegex at compiled
  cases program : NameMatcher.compileRegex pattern caseless with
  | error e => simp [program, Except.map] at compiled
  | ok prog =>
    simp only [program, Except.map, Except.ok.injEq] at compiled
    exact ⟨by rw [← compiled]; rfl, prog, rfl⟩

theorem ofRegex_of_compile {pattern : String} {caseless : Bool} {prog : Regex.Program}
    (program : NameMatcher.compileRegex pattern caseless = .ok prog) (literal : String) :
    NameMatcher.ofRegex literal pattern caseless = .ok (.regex ⟨literal, pattern, caseless, prog⟩) := by
  simp [NameMatcher.ofRegex, program, Except.map]

theorem regexField_sound {d : Char} {r r' : Reading} {f : Field} {body : List Char}
    (here : r.cursor.rest = d :: body) (h : (regexField d).run r = .ok (f, r')) :
    ∃ raw pat flags, body = raw ++ d :: flags ++ r'.cursor.rest ∧ RegexBody d raw pat ∧
      pat ≠ [] ∧ (∀ x ∈ flags, x = 'i') ∧
      (∀ x ∈ r'.cursor.rest.head?, isAsciiLetter x = false) ∧
      (∃ prog, NameMatcher.compileRegex (String.ofList pat) (!flags.isEmpty) = .ok prog) ∧
      f.matcher.isAnyDeep = false := by
  unfold regexField at h
  simp only [run_get_bind, here, List.drop_one, List.tail_cons] at h
  split at h
  · rename_i pat raw after found
    obtain ⟨rfl, shape⟩ := regexBody_sound found
    simp only [run_set_bind] at h
    split at h
    · simp only [run_failAt_bind, reduceCtorEq] at h
    · rename_i nonEmpty
      split at h
      · simp only [run_failAt, reduceCtorEq] at h
      · rename_i onlyI
        simp only [run_modify_bind] at h
        split at h
        · rename_i m compiled
          simp only [run_pure, Except.ok.injEq, Prod.mk.injEq] at h
          obtain ⟨rfl, rfl⟩ := h
          obtain ⟨notAnyDeep, prog, program⟩ := ofRegex_ok compiled
          have split := List.takeWhile_append_dropWhile (p := isAsciiLetter) (l := after)
          refine ⟨raw, pat, flagLetters after, ?_, shape, by simpa using nonEmpty, ?_, ?_,
            ⟨prog, program⟩, notAnyDeep⟩
          · simp [Cursor.advance, flagLetters_eq, drop_takeWhile_length, split]
          · simpa using onlyI
          · have stops := List.head?_dropWhile_not isAsciiLetter after
            simp only [Cursor.advance, flagLetters_eq, drop_takeWhile_length]
            intro x mem
            rw [Option.mem_def] at mem
            rw [mem] at stops
            exact stops
        · simp only [run_throw, reduceCtorEq] at h
  · simp only [run_failAt, reduceCtorEq] at h

/-- The longest run of `p` ahead stops where the first character fails `p`. -/
theorem takeWhile_append_stop {p : Char → Bool} {xs ys : List Char} (run : ∀ x ∈ xs, p x = true)
    (stop : ∀ y ∈ ys.head?, p y = false) : (xs ++ ys).takeWhile p = xs := by
  rw [List.takeWhile_append_of_pos run]
  cases ys with
  | nil => simp
  | cons y more => simp [stop y rfl]

theorem flagLetters_append {flags rest : List Char} (onlyI : ∀ x ∈ flags, x = 'i')
    (stops : ∀ x ∈ rest.head?, isAsciiLetter x = false) : flagLetters (flags ++ rest) = flags :=
  takeWhile_append_stop (fun x mem => by rw [onlyI x mem]; rfl) stops

theorem regexField_complete {d : Char} (unescaped : d ≠ '\\') {r : Reading}
    {raw pat flags rest : List Char} (here : r.cursor.rest = d :: raw ++ d :: flags ++ rest)
    (body : RegexBody d raw pat) (nonEmpty : pat ≠ []) (onlyI : ∀ x ∈ flags, x = 'i')
    (stops : ∀ x ∈ rest.head?, isAsciiLetter x = false)
    (compiles : ∃ prog, NameMatcher.compileRegex (String.ofList pat) (!flags.isEmpty) = .ok prog) :
    ∃ f r', (regexField d).run r = .ok (f, r') ∧ r'.cursor.rest = rest ∧
      f.matcher.isAnyDeep = false := by
  obtain ⟨prog, program⟩ := compiles
  unfold regexField
  have read := regexBody_complete unescaped body (flags ++ rest)
  simp only [run_get_bind, here, List.drop_one, List.tail_cons, List.cons_append,
    List.append_assoc] at read ⊢
  simp only [read, run_set_bind, List.isEmpty_iff, nonEmpty, if_false, flagLetters_append onlyI stops]
  have noBad : flags.find? (· != 'i') = none := List.find?_eq_none.2 (by simpa using onlyI)
  simp only [noBad, run_modify_bind, ofRegex_of_compile program]
  exact ⟨_, _, rfl, by simp [Cursor.advance], rfl⟩

/-! ## Fields -/

theorem regexToken_sound {d : Char} (delim : d = '~' ∨ d = '/') {r r' : Reading} {f : Field}
    {body : List Char} (skipped : Text.dropBlanks r.cursor.rest = d :: body)
    (h : (regexField d).run { r with cursor := r.cursor.skipBlanks } = .ok (f, r')) :
    ∃ t, FieldToken r.cursor.rest t r'.cursor.rest ∧ (f.matcher.isAnyDeep = true ↔ t = anyDeepText) := by
  obtain ⟨raw, pat, flags, split, shape, nonEmpty, onlyI, stops, compiles, notAnyDeep⟩ :=
    regexField_sound (by simpa using skipped) h
  refine ⟨_, .regex ?_ delim shape nonEmpty onlyI stops compiles, ?_⟩
  · rw [show d :: raw ++ d :: flags ++ r'.cursor.rest = d :: body by rw [split]; rfl, ← skipped]
    exact blanks_dropBlanks r.cursor.rest
  · rw [notAnyDeep]
    rcases delim with rfl | rfl <;> simp [anyDeepText]

theorem field_sound {r r' : Reading} {f : Field} (h : field.run r = .ok (f, r')) :
    ∃ t, FieldToken r.cursor.rest t r'.cursor.rest ∧ (f.matcher.isAnyDeep = true ↔ t = anyDeepText) := by
  simp only [field, run_modify_bind, run_get_bind] at h
  split at h
  · rename_i first
    obtain ⟨body, skipped⟩ := List.head?_eq_some_iff.1 first
    exact regexToken_sound (.inl rfl) skipped h
  · rename_i first
    obtain ⟨body, skipped⟩ := List.head?_eq_some_iff.1 first
    exact regexToken_sound (.inr rfl) skipped h
  · rename_i c _ _ first
    obtain ⟨body, skipped⟩ := List.head?_eq_some_iff.1 first
    rw [Cursor.skipBlanks_rest] at skipped
    split at h
    · rename_i start
      simp only [run_set_bind] at h
      cases named : nameMatcher (String.ofList ((Text.dropBlanks r.cursor.rest).takeWhile isNameChar)) with
      | error e =>
        rw [Cursor.skipBlanks_rest, named] at h
        cases h
      | ok m =>
        rw [Cursor.skipBlanks_rest, named] at h
        simp only [run_pure, Except.ok.injEq, Prod.mk.injEq] at h
        obtain ⟨rfl, rfl⟩ := h
        have run : (Text.dropBlanks r.cursor.rest).takeWhile isNameChar =
            c :: body.takeWhile isNameChar := by
          rw [skipped, List.takeWhile_cons_of_pos (isNameChar_of_isNameStart start)]
        rw [run] at named
        refine ⟨_, ?_, nameMatcher_isAnyDeep named⟩
        simp only [Cursor.advance_rest, Cursor.skipBlanks_rest, run]
        rw [skipped, List.length_cons, List.drop_succ_cons, drop_takeWhile_length]
        exact nameToken skipped start
    · simp at h
  · simp at h

/-- A field token is read as a field, its matcher any-deep exactly when the token is `**`; a
name starts with neither delimiter of a regular expression. -/
theorem field_complete {r : Reading} {t rest : List Char} (tok : FieldToken r.cursor.rest t rest) :
    ∃ f r', field.run r = .ok (f, r') ∧ r'.cursor.rest = rest ∧
      (f.matcher.isAnyDeep = true ↔ t = anyDeepText) := by
  cases tok with
  | name skipped start named stops =>
    rename_i more c
    have first : Text.dropBlanks r.cursor.rest = c :: (more ++ rest) := by
      rw [skipped.dropBlanks_eq]
      exact List.dropWhile_cons_of_neg (by simp [isBlank_of_isNameStart start])
    have run : (c :: (more ++ rest)).takeWhile isNameChar = c :: more := by
      rw [← List.cons_append]
      exact takeWhile_append_stop (by simpa [isNameChar_of_isNameStart start] using named) stops
    simp only [field, run_modify_bind, run_get_bind, Cursor.skipBlanks_rest, first, List.head?_cons]
    split
    · rename_i tilde
      cases tilde
      cases start
    · rename_i slash
      cases slash
      cases start
    · rename_i same
      cases same
      obtain ⟨m, named⟩ := nameMatcher_ok (String.ofList (c :: more))
      simp only [if_pos start, run_set_bind, run, named, run_pure]
      exact ⟨_, _, rfl, by simp [first], nameMatcher_isAnyDeep named⟩
    · rename_i nothing
      cases nothing
  | regex skipped delim body nonEmpty onlyI stops compiles =>
    rename_i raw pat flags d
    have first : Text.dropBlanks r.cursor.rest = d :: raw ++ d :: flags ++ rest := by
      rw [skipped.dropBlanks_eq]
      exact List.dropWhile_cons_of_neg (by rcases delim with rfl | rfl <;> decide)
    have unescaped : d ≠ '\\' := by rcases delim with rfl | rfl <;> decide
    obtain ⟨f, r', ran, after, notAnyDeep⟩ :=
      regexField_complete unescaped (r := { r with cursor := r.cursor.skipBlanks })
        (by simpa using first) body nonEmpty onlyI stops compiles
    refine ⟨f, r', ?_, after, ?_⟩
    · rcases delim with rfl | rfl <;>
        simpa [field, first] using ran
    · rw [notAnyDeep]
      rcases delim with rfl | rfl <;> simp [anyDeepText]

/-! ## Paths, field lists and negated paths -/

end Reader

theorem isAnyDeep_eq_beq {f : Field} {t : List Char}
    (named : f.matcher.isAnyDeep = true ↔ t = anyDeepText) :
    f.matcher.isAnyDeep = (t == anyDeepText) :=
  Bool.eq_iff_iff.2 (named.trans beq_iff_eq.symm)

namespace Reader

theorem pathSteps_sound : ∀ {fuel : Nat} {acc : List Field} {r r' : Reading} {fs : List Field}
    {cs : List Char} {ts : List (List Char)}, (pathSteps fuel acc).run r = .ok (fs, r') →
    Separated '.' cs ts r.cursor.rest → anyDeepText ∉ ts →
    acc.reverse.map (·.matcher.isAnyDeep) = ts.map (· == anyDeepText) →
    ∃ ts' rest, Separated '.' cs ts' rest ∧ Blanks rest r'.cursor.rest ∧ anyDeepText ∉ ts' ∧
      fs.map (·.matcher.isAnyDeep) = ts'.map (· == anyDeepText)
  | 0, acc, r, r', fs, cs, ts, h, separated, plain, marks => by
    simp only [pathSteps, run_pure, Except.ok.injEq, Prod.mk.injEq] at h
    obtain ⟨rfl, rfl⟩ := h
    exact ⟨ts, _, separated, Blanks.refl _, plain, marks⟩
  | fuel + 1, acc, r, r', fs, cs, ts, h, separated, plain, marks => by
    simp only [pathSteps, run_peek_bind] at h
    split at h
    · rename_i dot
      simp only [run_bump_bind, run_bind_eq_ok] at h
      obtain ⟨f, r₂, ranField, h⟩ := h
      obtain ⟨t, tok, named⟩ := field_sound ranField
      split at h
      · simp only [run_failAt_bind, reduceCtorEq] at h
      · rename_i notAnyDeep
        have punct := punct_of_head (beq_iff_eq.1 dot)
        have tok' : FieldToken (Text.dropBlanks r.cursor.rest).tail t r₂.cursor.rest := by
          simpa using tok
        have other : t ≠ anyDeepText := fun same => notAnyDeep (named.2 same)
        refine pathSteps_sound h (separated.snoc punct tok') (by simp [plain, other.symm]) ?_
        rw [List.reverse_cons, List.map_append, List.map_append, marks, List.map_singleton,
          List.map_singleton, isAnyDeep_eq_beq named]
    · simp only [run_pure, Except.ok.injEq, Prod.mk.injEq] at h
      obtain ⟨rfl, rfl⟩ := h
      exact ⟨ts, _, separated, blanks_dropBlanks _, plain, marks⟩

theorem pathSteps_complete : ∀ {more : List (List Char)} (fuel : Nat) (acc : List Field)
    {r : Reading} {rest : List Char}, SepTail '.' r.cursor.rest more rest →
    anyDeepText ∉ more → (Text.dropBlanks rest).head? ≠ some '.' → more.length < fuel →
    ∃ fs r', (pathSteps fuel acc).run r = .ok (fs, r') ∧ r'.cursor.rest = Text.dropBlanks rest ∧
      fs.map (·.matcher.isAnyDeep) =
        acc.reverse.map (·.matcher.isAnyDeep) ++ more.map (· == anyDeepText)
  | [], fuel + 1, acc, r, rest, tail, _, noDot, _ => by
    obtain ⟨-, same⟩ | ⟨_, _, separated⟩ := tail
    · simp only [pathSteps, run_peek_bind, same, noDot, beq_iff_eq, if_false, run_pure]
      exact ⟨_, _, rfl, by simp [same], by simp⟩
    · exact absurd rfl separated.ne_nil
  | t :: more, fuel + 1, acc, r, rest, tail, plain, noDot, short => by
    obtain ⟨h, -⟩ | ⟨r₂, punct, separated⟩ := tail
    · cases h
    obtain ⟨r₃, tok, tail'⟩ := separated_cons_iff.1 separated
    have dot : Text.dropBlanks r.cursor.rest = '.' :: r₂ := (punct_iff (by decide)).1 punct
    have tok' : FieldToken ({ r with cursor := r.cursor.skipBlanks.bump } : Reading).cursor.rest
        t r₃ := by simpa [dot] using tok
    obtain ⟨f, r₄, ranField, after, named⟩ := field_complete tok'
    have notAnyDeep : f.matcher.isAnyDeep = false := by
      rw [isAnyDeep_eq_beq named, beq_eq_false_iff_ne]
      rintro rfl
      exact plain List.mem_cons_self
    simp only [pathSteps, run_peek_bind, dot, List.head?_cons, beq_self_eq_true, if_true,
      run_bump_bind]
    rw [run_bind_of_ok ranField]
    simp only [notAnyDeep, Bool.false_eq_true, if_false]
    obtain ⟨fs, r', ran, final, marks⟩ := pathSteps_complete fuel (f :: acc) (r := r₄)
      (after ▸ tail') (fun mem => plain (List.mem_cons_of_mem _ mem)) noDot
      (by simp at short; omega)
    refine ⟨fs, r', ran, final, ?_⟩
    rw [marks]
    simp [isAnyDeep_eq_beq named]

/-- What a path reads is a dotted list of tokens in which the any-deep name stands alone. -/
theorem path_sound {r r' : Reading} {fs : List Field} (h : path.run r = .ok (fs, r')) :
    ∃ ts rest, Separated '.' r.cursor.rest ts rest ∧ Blanks rest r'.cursor.rest ∧
      (anyDeepText ∉ ts ∨ ts = [anyDeepText]) ∧
      fs.map (·.matcher.isAnyDeep) = ts.map (· == anyDeepText) := by
  simp only [path, run_bind_eq_ok] at h
  obtain ⟨first, r₁, ranField, h⟩ := h
  obtain ⟨t, tok, named⟩ := field_sound ranField
  split at h
  · rename_i anyDeep
    simp only [run_peek_bind] at h
    split at h
    · simp only [run_pos_bind, run_failAt_bind, reduceCtorEq] at h
    · simp only [run_pure, Except.ok.injEq, Prod.mk.injEq] at h
      obtain ⟨rfl, rfl⟩ := h
      refine ⟨[t], _, .last tok, blanks_dropBlanks _, .inr (by rw [named.1 anyDeep]), ?_⟩
      simp [isAnyDeep_eq_beq named]
  · rename_i notAnyDeep
    simp only [run_get_bind] at h
    have other : t ≠ anyDeepText := fun same => notAnyDeep (named.2 same)
    obtain ⟨ts, rest, separated, skipped, plain, marks⟩ :=
      pathSteps_sound h (.last tok) (by simpa using other.symm) (by simp [isAnyDeep_eq_beq named])
    exact ⟨ts, rest, separated, skipped, .inl plain, marks⟩

/-- A dotted list of tokens in which the any-deep name stands alone is read as a path, when no
dot follows it. -/
theorem path_complete {r : Reading} {ts : List (List Char)} {rest : List Char}
    (separated : Separated '.' r.cursor.rest ts rest)
    (allowed : anyDeepText ∉ ts ∨ ts = [anyDeepText])
    (noDot : (Text.dropBlanks rest).head? ≠ some '.') :
    ∃ fs r', path.run r = .ok (fs, r') ∧ r'.cursor.rest = Text.dropBlanks rest ∧
      fs.map (·.matcher.isAnyDeep) = ts.map (· == anyDeepText) := by
  obtain ⟨t, more, rfl⟩ := List.exists_cons_of_ne_nil separated.ne_nil
  obtain ⟨r₁, tok, tail⟩ := separated_cons_iff.1 separated
  obtain ⟨first, r₂, ranField, after, named⟩ := field_complete tok
  simp only [path]
  rw [run_bind_of_ok ranField]
  rcases allowed with plain | single
  · have notAnyDeep : first.matcher.isAnyDeep = false := by
      rw [isAnyDeep_eq_beq named, beq_eq_false_iff_ne]
      rintro rfl
      exact plain List.mem_cons_self
    simp only [notAnyDeep, Bool.false_eq_true, if_false, run_get_bind]
    obtain ⟨fs, r', ran, final, marks⟩ :=
      pathSteps_complete (r₂.cursor.rest.length + 1) [first] (after ▸ tail)
      (fun mem => plain (List.mem_cons_of_mem _ mem)) noDot
      (by have := SepTail.length_le tail; rw [after]; omega)
    refine ⟨fs, r', ran, final, ?_⟩
    rw [marks]
    simp [isAnyDeep_eq_beq named]
  · obtain ⟨rfl, rfl⟩ := List.cons_eq_cons.1 single
    obtain ⟨-, same⟩ | ⟨_, _, separated'⟩ := tail
    · have anyDeep : first.matcher.isAnyDeep = true := named.2 rfl
      simp only [anyDeep, if_true, run_peek_bind, after, same, noDot, beq_iff_eq, if_false,
        run_pure]
      exact ⟨_, _, rfl, by simp [after, same], by simp [anyDeep]⟩
    · exact absurd rfl separated'.ne_nil

theorem any_isAnyDeep {fs : List Field} {ts : List (List Char)}
    (marks : fs.map (·.matcher.isAnyDeep) = ts.map (· == anyDeepText)) :
    fs.any (·.matcher.isAnyDeep) = true ↔ anyDeepText ∈ ts := by
  have anyOf := congrArg (fun bs => bs.any id) marks
  simp only [List.any_map] at anyOf
  simp at anyOf
  simp [anyOf]

/-- What an exclusion reads is a dotted list of tokens with no any-deep name, nothing nested
following it. -/
theorem negated_sound {parent : List String} {r r' : Reading}
    (h : (negated parent).run r = .ok ((), r')) :
    ∃ ts rest, Separated '.' r.cursor.rest ts rest ∧ anyDeepText ∉ ts ∧
      Blanks rest r'.cursor.rest := by
  simp only [negated, run_pos_bind, run_bind_eq_ok] at h
  obtain ⟨fs, r₁, ranPath, h⟩ := h
  obtain ⟨ts, rest, separated, skipped, -, marks⟩ := path_sound ranPath
  split at h
  · simp only [run_failAt_bind, reduceCtorEq] at h
  · rename_i noAnyDeep
    have plain : anyDeepText ∉ ts := fun mem => noAnyDeep ((any_isAnyDeep marks).2 mem)
    split at h
    · obtain ⟨_, tree, h⟩ := (treeOnly_addChild _ _ _).run_bind_eq_ok h
      simp only [run_peek_bind] at h
      split at h <;> simp only [run_pos_bind, run_failAt, run_pure, reduceCtorEq, Except.ok.injEq,
        Prod.mk.injEq] at h
      obtain ⟨-, rfl⟩ := h
      exact ⟨ts, rest, separated, plain, skipped.trans (blanks_dropBlanks _)⟩
    · obtain ⟨_, tree, h⟩ := (treeOnly_negatedSteps _ _).run_bind_eq_ok h
      simp only [run_peek_bind] at h
      split at h <;> simp only [run_pos_bind, run_failAt, run_pure, reduceCtorEq, Except.ok.injEq,
        Prod.mk.injEq] at h
      obtain ⟨-, rfl⟩ := h
      exact ⟨ts, rest, separated, plain, skipped.trans (blanks_dropBlanks _)⟩

/-- A dotted list of tokens with no any-deep name, followed by what may follow an expression,
is read as an exclusion. -/
theorem negated_complete (parent : List String) {r : Reading} {ts : List (List Char)}
    {rest : List Char} (separated : Separated '.' r.cursor.rest ts rest) (plain : anyDeepText ∉ ts)
    (follows : Follows rest) :
    ∃ r', (negated parent).run r = .ok ((), r') ∧ r'.cursor.rest = Text.dropBlanks rest := by
  obtain ⟨fs, r₁, ranPath, after, marks⟩ :=
    path_complete separated (.inl plain) (follows.head_ne (by decide))
  have noAnyDeep : fs.any (·.matcher.isAnyDeep) = false := by
    cases anyDeep : fs.any (·.matcher.isAnyDeep)
    · rfl
    · exact absurd ((any_isAnyDeep marks).1 anyDeep) plain
  have ahead : (Text.dropBlanks r₁.cursor.rest).head? = (Text.dropBlanks rest).head? := by
    rw [after, dropBlanks_dropBlanks]
  simp only [negated, run_pos_bind]
  rw [run_bind_of_ok ranPath]
  simp only [noAnyDeep, Bool.false_eq_true, if_false]
  split
  · obtain ⟨_, tree, step⟩ := (treeOnly_addChild _ _ _).run_bind _ r₁
    rw [step]
    simp only [run_peek_bind, ahead]
    split
    · exact absurd ‹_› (follows.head_ne (by decide))
    · exact absurd ‹_› (follows.head_ne (by decide))
    · exact ⟨_, rfl, by simp [after, dropBlanks_dropBlanks]⟩
  · obtain ⟨_, tree, step⟩ := (treeOnly_negatedSteps _ _).run_bind _ r₁
    rw [step]
    simp only [run_peek_bind, ahead]
    split
    · exact absurd ‹_› (follows.head_ne (by decide))
    · exact absurd ‹_› (follows.head_ne (by decide))
    · exact ⟨_, rfl, by simp [after, dropBlanks_dropBlanks]⟩

/-- What a parenthesized list of fields reads is a comma-separated list of tokens with no
any-deep name, then the closing parenthesis; each token shortens the text, so the fuel
lasts. -/
theorem fieldList_sound : ∀ {fuel : Nat} {acc : List Field} {r r' : Reading} {fs : List Field},
    r.cursor.rest.length < fuel → (fieldList fuel acc).run r = .ok (fs, r') →
    ∃ ts rest, Separated ',' r.cursor.rest ts rest ∧ anyDeepText ∉ ts ∧
      Punct ')' rest r'.cursor.rest ∧ fs.length = acc.length + ts.length
  | 0, _, _, _, _, short, _ => absurd short (Nat.not_lt_zero _)
  | fuel + 1, acc, r, r', fs, short, h => by
    simp only [fieldList, run_bind_eq_ok] at h
    obtain ⟨f, r₁, ranField, h⟩ := h
    obtain ⟨t, tok, named⟩ := field_sound ranField
    split at h
    · simp only [run_failAt_bind, reduceCtorEq] at h
    · rename_i notAnyDeep
      have other : t ≠ anyDeepText := fun same => notAnyDeep (named.2 same)
      simp only [run_peek_bind] at h
      split at h
      · rename_i comma
        simp only [run_bump_bind] at h
        have punct := punct_of_head comma
        have shorter : (Text.dropBlanks r₁.cursor.rest).tail.length < fuel := by
          have := tok.length_lt
          have := punct.length_lt
          omega
        obtain ⟨ts, rest, separated, plain, close, count⟩ := fieldList_sound (by simpa using shorter) h
        refine ⟨t :: ts, rest, .step tok punct (by simpa using separated), ?_, close, ?_⟩
        · simp [plain, other.symm]
        · simp [count]
          omega
      · rename_i paren
        simp only [run_bump_bind, run_pure, Except.ok.injEq, Prod.mk.injEq] at h
        obtain ⟨rfl, rfl⟩ := h
        refine ⟨[t], r₁.cursor.rest, .last tok, by simp [other.symm], ?_, by simp⟩
        simpa using punct_of_head paren
      · simp only [run_failUnexpected, reduceCtorEq] at h

theorem fieldList_complete {cs rest after : List Char} {ts : List (List Char)}
    (separated : Separated ',' cs ts rest) (plain : anyDeepText ∉ ts) (close : Punct ')' rest after) :
    ∀ (fuel : Nat) (acc : List Field) (r : Reading), r.cursor.rest = cs → ts.length ≤ fuel →
      ∃ fs r', (fieldList fuel acc).run r = .ok (fs, r') ∧ r'.cursor.rest = after ∧
        fs.length = acc.length + ts.length := by
  induction separated with
  | @last cs t rest tok =>
    intro fuel acc r here enough
    obtain ⟨fuel, rfl⟩ : ∃ k, fuel = k + 1 := ⟨fuel - 1, by simp at enough; omega⟩
    obtain ⟨f, r₁, ranField, after₁, named⟩ := field_complete (here ▸ tok)
    have notAnyDeep : f.matcher.isAnyDeep = false := by
      rw [isAnyDeep_eq_beq named, beq_eq_false_iff_ne]
      exact fun same => plain (by simp [same])
    have paren : Text.dropBlanks r₁.cursor.rest = ')' :: after := by
      rw [after₁]
      exact (punct_iff (by decide)).1 close
    simp only [fieldList]
    rw [run_bind_of_ok ranField]
    simp only [notAnyDeep, Bool.false_eq_true, if_false, run_peek_bind, paren, List.head?_cons,
      run_bump_bind, run_pure]
    exact ⟨_, _, rfl, by simp [paren], by simp⟩
  | @step cs t r₁ r₂ rest ts tok punct _ ih =>
    intro fuel acc r here enough
    obtain ⟨fuel, rfl⟩ : ∃ k, fuel = k + 1 := ⟨fuel - 1, by simp at enough; omega⟩
    obtain ⟨f, r₃, ranField, after₁, named⟩ := field_complete (here ▸ tok)
    have notAnyDeep : f.matcher.isAnyDeep = false := by
      rw [isAnyDeep_eq_beq named, beq_eq_false_iff_ne]
      exact fun same => plain (by simp [same])
    have comma : Text.dropBlanks r₃.cursor.rest = ',' :: r₂ := by
      rw [after₁]
      exact (punct_iff (by decide)).1 punct
    obtain ⟨fs, r', ran, final, count⟩ := ih (fun mem => plain (List.mem_cons_of_mem _ mem)) close
      fuel (f :: acc) { r₃ with cursor := r₃.cursor.skipBlanks.bump } (by simp [comma])
      (by simp at enough; omega)
    simp only [fieldList]
    rw [run_bind_of_ok ranField]
    simp only [notAnyDeep, Bool.false_eq_true, if_false, run_peek_bind, comma, List.head?_cons,
      run_bump_bind]
    exact ⟨fs, r', ran, final, by simp [count]; omega⟩

end Reader

end FieldSelection.Selection
