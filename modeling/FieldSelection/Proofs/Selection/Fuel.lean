import FieldSelection.Proofs.Selection.Acceptance
/-!
# The reader's fuel never runs out

The reader of expressions recurses through `expressionList`, `expression`, `attach` and
`nestedEach` on a fuel argument, and `parseTrimmed` hands it four times the length of the text
and a little more. That fuel is only a bound. Between two calls at the same depth the reader
reads at least one character, a field list of `k` fields reads at least `2 k`, and the nested
list that `attach` reads again from one start for each field of a field list starts past the
opening bracket. So `4 L + 3` is enough for a list with `L` characters unread, whatever they
are: with more fuel the reader gives the same answer, success or fault
(`Reader.expressionList_fuel_eq`), and the offset at which each nested list starts is strictly
greater than that of the list around it.
-/

namespace FieldSelection.Selection

namespace Reader

/-- Two steps that run alike, followed by steps that run alike after every outcome of the first,
run alike. -/
theorem run_bind_congr {α β : Type} {m₁ m₂ : ReadM α} {f₁ f₂ : α → ReadM β} {r : Reading}
    (first : m₁.run r = m₂.run r)
    (rest : ∀ a r₁, m₁.run r = .ok (a, r₁) → (f₁ a).run r₁ = (f₂ a).run r₁) :
    (m₁ >>= f₁).run r = (m₂ >>= f₂).run r := by
  rw [StateT.run_bind, StateT.run_bind, ← first]
  cases ran : m₁.run r with
  | error e => rfl
  | ok result =>
    obtain ⟨a, r₁⟩ := result
    exact rest a r₁ ran

theorem TreeOnly.cursor_eq {α : Type} {m : ReadM α} (treeOnly : TreeOnly m) {r r' : Reading}
    {a : α} (ran : m.run r = .ok (a, r')) : r'.cursor = r.cursor := by
  obtain ⟨a', tree, ran'⟩ := treeOnly r
  rw [ran', Except.ok.injEq, Prod.mk.injEq] at ran
  rw [← ran.2]

/-! ## What each reading consumes -/

/-- An expression reads at least one character. -/
theorem expression_shortens {fuel : Nat} {parent : List String} {r r' : Reading}
    (h : (expression parent fuel).run r = .ok ((), r')) :
    r'.cursor.rest.length < r.cursor.rest.length := by
  obtain ⟨rest, expr, skipped⟩ := expression_sound fuel h
  have kept := skipped.suffix.length_le
  have shorter := expr.length_lt
  omega

/-- A path reads at least one character. -/
theorem path_shortens {r r' : Reading} {fs : List Field} (h : path.run r = .ok (fs, r')) :
    r'.cursor.rest.length < r.cursor.rest.length := by
  obtain ⟨ts, rest, separated, skipped, -, -⟩ := path_sound h
  have kept := skipped.suffix.length_le
  have shorter := separated.length_lt
  omega

/-- A field list reads at least two characters for each of its fields: the field and the comma
or parenthesis after it. -/
theorem fieldList_shortens {fuel : Nat} {r r' : Reading} {fs : List Field}
    (h : (fieldList fuel []).run r = .ok (fs, r')) (enough : r.cursor.rest.length < fuel) :
    r'.cursor.rest.length + 2 * fs.length ≤ r.cursor.rest.length := by
  obtain ⟨ts, rest, separated, -, closed, count⟩ := fieldList_sound enough h
  have counted := separated.length_le
  have shorter := closed.length_lt
  rw [List.length_nil, Nat.zero_add] at count
  omega

/-! ## Fuel beyond the bound changes nothing -/

mutual

/-- A list with `L` characters unread reads alike with any two fuels of at least `4 L + 3`. -/
theorem expressionList_fuel_eq : ∀ (n m : Nat) {parent : List String} {close : Option Char}
    {r : Reading}, 4 * r.cursor.rest.length + 3 ≤ min n m →
    (expressionList parent close n).run r = (expressionList parent close m).run r
  | 0, _, _, _, _, enough => absurd enough (by omega)
  | _ + 1, 0, _, _, _, enough => absurd enough (by omega)
  | n + 1, m + 1, parent, close, r, enough => by
    simp only [expressionList]
    refine run_bind_congr (expression_fuel_eq n m (by omega)) fun _ r₁ ran => ?_
    have shorter := expression_shortens ran
    simp only [run_peek_bind]
    split
    · rename_i comma
      have past := (punct_of_head comma).length_lt
      simp only [run_bump_bind]
      exact expressionList_fuel_eq n m (by simp only [Cursor.bump_rest, Cursor.skipBlanks_rest]; omega)
    · rfl
    · rfl

/-- An expression with `L` characters unread reads alike with any two fuels of at least
`4 L + 2`. -/
theorem expression_fuel_eq : ∀ (n m : Nat) {parent : List String} {r : Reading},
    4 * r.cursor.rest.length + 2 ≤ min n m →
    (expression parent n).run r = (expression parent m).run r
  | 0, _, _, _, enough => absurd enough (by omega)
  | _ + 1, 0, _, _, enough => absurd enough (by omega)
  | n + 1, m + 1, parent, r, enough => by
    have skipped := (blanks_dropBlanks r.cursor.rest).suffix.length_le
    simp only [expression, run_peek_bind]
    split
    · rfl
    · rename_i paren
      have past := (punct_of_head paren).length_lt
      simp only [run_bump_bind, run_get_bind]
      refine run_bind_congr rfl fun fields r₁ ran => ?_
      have read := fieldList_shortens ran (Nat.lt_succ_self _)
      simp only [Cursor.bump_rest, Cursor.skipBlanks_rest] at read
      exact attach_fuel_eq n m (by omega)
    · refine run_bind_congr rfl fun steps r₁ ran => ?_
      have read := path_shortens ran
      simp only [Cursor.skipBlanks_rest] at read
      split
      · rfl
      · split
        · simp only [run_pure_bind]
          exact attach_fuel_eq n m (by simp only [List.length_singleton]; omega)
        · refine run_bind_congr rfl fun _ r₂ ran₂ => ?_
          refine run_bind_congr rfl fun node r₃ ran₃ => ?_
          have here := ((treeOnly_pathPrefix _ _).cursor_eq ran₃).trans
            ((treeOnly_brace _).cursor_eq ran₂)
          exact attach_fuel_eq n m (by simp only [here, List.length_singleton]; omega)

/-- Putting `k` fields with `L` characters unread reads alike with any two fuels of at least
`4 L + k + 1`. -/
theorem attach_fuel_eq : ∀ (n m : Nat) {parent : List String} {fields : List Field}
    {r : Reading}, 4 * r.cursor.rest.length + fields.length + 1 ≤ min n m →
    (attach parent fields n).run r = (attach parent fields m).run r
  | 0, _, _, _, _, enough => absurd enough (by omega)
  | _ + 1, 0, _, _, _, enough => absurd enough (by omega)
  | n + 1, m + 1, parent, fields, r, enough => by
    simp only [attach, run_peek_bind]
    split
    · rfl
    · rename_i close opened
      obtain ⟨o, first, -⟩ := closer_eq_some opened
      have past := (punct_of_head first).length_lt
      simp only [run_bump_bind, run_get_bind, run_peek_bind]
      split
      · rfl
      · exact nestedEach_fuel_eq n m (by simp only [Cursor.bump_rest, Cursor.skipBlanks_rest]; omega)

/-- Reading a nested list from `start` for each of `k` fields reads alike with any two fuels of
at least `k + 4 L + 3`, for the `L` characters after `start`. -/
theorem nestedEach_fuel_eq : ∀ (n m : Nat) {parent : List String} {close : Char}
    {start : Cursor} {fields : List Field} {r : Reading},
    fields.length + 4 * start.rest.length + 3 ≤ min n m →
    (nestedEach parent close start fields n).run r = (nestedEach parent close start fields m).run r
  | _, _, _, _, _, [], _, _ => by simp only [nestedEach]
  | 0, _, _, _, _, _ :: _, _, enough => absurd enough (by omega)
  | _ + 1, 0, _, _, _, _ :: _, _, enough => absurd enough (by omega)
  | n + 1, m + 1, parent, close, start, f :: more, r, enough => by
    rw [List.length_cons] at enough
    simp only [nestedEach]
    refine run_bind_congr rfl fun node _ _ => ?_
    simp only [run_modify_bind]
    refine run_bind_congr rfl fun _ r₂ ran₂ => ?_
    have here : r₂.cursor = start := (treeOnly_brace node).cursor_eq ran₂
    refine run_bind_congr (expressionList_fuel_eq n m (by rw [here]; omega)) fun _ _ _ => ?_
    exact nestedEach_fuel_eq n m (by omega)

end

end Reader

/-- The fuel a text is read with is enough: any fuel of at least four times its length and three
reads it alike. -/
theorem parseTrimmed_fuel_eq (cs : List Char) (n : Nat) (enough : 4 * cs.length + 3 ≤ n) :
    (Reader.expressionList [] none n).run ⟨⟨cs, 0⟩, Draft.root⟩ =
      (Reader.expressionList [] none (4 * cs.length + 8)).run ⟨⟨cs, 0⟩, Draft.root⟩ :=
  Reader.expressionList_fuel_eq n _ (by dsimp only; omega)

end FieldSelection.Selection
