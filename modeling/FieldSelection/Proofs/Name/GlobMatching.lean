import Mathlib.Data.Finset.Card
import FieldSelection.Name.Matcher
/-!
# Deciding globbing

`Glob.accepts` runs a set of pattern positions over the name: a star matching the empty run is
followed by `skipStars`, and each character moves every position by `stepOn`. This file proves
that the run decides the three rules of globbing (`Glob.Matches`), for every pattern and every
name (`Glob.accepts_iff`): a star matches any run of characters, the empty run and line feeds
included, a question mark exactly one character, and any other character only itself. So the
relation that states what a glob matcher selects can be evaluated.

A position `i` stands for the rest of the pattern from `i` on. A set of positions is faithful to
a prefix `u` of the name read so far (`Faithful`) when every way to finish the rest of the
pattern from one of its positions finishes the whole pattern after `u`, and every way to finish
the pattern after `u` goes through one of its positions. The set the run starts with is
faithful to the empty prefix; a step on a character keeps faithfulness when the set it steps
from is closed under stars matching the empty run (`faithful_stepOn`); and `skipStars` reaches
that closure within its fuel (`starClosed_skipStars`), because each round adds a position that
was missing and the pattern has only one more position than characters.
-/

namespace FieldSelection.Glob

variable {p : List Char}

/-- The rest of the pattern from a position holding `c` is `c` before the rest from the next. -/
theorem drop_of_getElem? {i : Nat} {c : Char} (at_i : p[i]? = some c) :
    p.drop i = c :: p.drop (i + 1) := by
  obtain ⟨inside, rfl⟩ := List.getElem?_eq_some_iff.1 at_i
  exact List.drop_eq_getElem_cons inside

theorem lt_length_of_getElem? {i : Nat} {c : Char} (at_i : p[i]? = some c) : i < p.length :=
  (List.getElem?_eq_some_iff.1 at_i).1

/-- A pattern that matches the empty name is all stars. -/
theorem stars_of_matches_nil {q s : List Char} (matched : Matches q s) (empty : s = []) :
    ∀ c ∈ q, c = '*' := by
  induction matched with
  | nil => simp
  | starEmpty _ ih => simpa using ih empty
  | starMore => cases empty
  | any => cases empty
  | lit => cases empty

/-! ## Sets of positions -/

/-- Every position of the set is a position of the pattern, its end included. -/
def Within (p : List Char) (ps : List Nat) : Prop := ∀ i ∈ ps, i ≤ p.length

/-- With a position holding a star, the set has the next one: the star may match the empty run. -/
def StarClosed (p : List Char) (ps : List Nat) : Prop :=
  ∀ i ∈ ps, p[i]? = some '*' → i + 1 ∈ ps

/-- The set of positions is faithful to the prefix `u` of the name read so far. -/
structure Faithful (p u : List Char) (ps : List Nat) : Prop where
  sound : ∀ i ∈ ps, ∀ w, Matches (p.drop i) w → Matches p (u ++ w)
  complete : ∀ w, Matches p (u ++ w) → ∃ i ∈ ps, Matches (p.drop i) w

/-- A position held on a star follows a position where the star matched the empty run. -/
theorem matches_drop_star {i : Nat} (star : p[i]? = some '*') {w : List Char}
    (matched : Matches (p.drop (i + 1)) w) : Matches (p.drop i) w := by
  rw [drop_of_getElem? star]
  exact .starEmpty matched

/-! ## Stars matching the empty run -/

/-- The positions one round of `skipStars` adds: past each star whose next position is missing. -/
theorem mem_skipRound {ps : List Nat} {k : Nat} :
    k ∈ ps.filterMap (fun i => if p.toArray[i]? == some '*' && !ps.contains (i + 1) then
      some (i + 1) else none) ↔ ∃ i ∈ ps, p[i]? = some '*' ∧ i + 1 ∉ ps ∧ k = i + 1 := by
  simp only [List.mem_filterMap, List.getElem?_toArray]
  refine exists_congr fun i => and_congr_right fun _ => ?_
  by_cases star : p[i]? = some '*' <;> by_cases present : i + 1 ∈ ps <;> simp [star, present]
  exact eq_comm

/-- A round of `skipStars` keeps the set and adds the position past each star whose next
position is missing. -/
theorem mem_round {ps : List Nat} {k : Nat} :
    k ∈ (ps ++ ps.filterMap fun i => if p.toArray[i]? == some '*' && !ps.contains (i + 1) then
      some (i + 1) else none).eraseDups ↔
      k ∈ ps ∨ ∃ i ∈ ps, p[i]? = some '*' ∧ i + 1 ∉ ps ∧ k = i + 1 := by
  rw [List.mem_eraseDups, List.mem_append, mem_skipRound]

/-- A property of positions that holds of the set and passes from a star to the next position
holds of every position `skipStars` reaches. -/
theorem skipStars_induct {P : Nat → Prop} (step : ∀ i, P i → p[i]? = some '*' → P (i + 1)) :
    ∀ (fuel : Nat) (ps : List Nat), (∀ i ∈ ps, P i) → ∀ j ∈ skipStars p.toArray fuel ps, P j
  | 0, _, holds => holds
  | fuel + 1, ps, holds => by
    simp only [skipStars]
    split
    · exact holds
    · refine skipStars_induct step fuel _ fun j mem => ?_
      rcases mem_round.1 mem with old | ⟨i, present, star, -, rfl⟩
      · exact holds j old
      · exact step i (holds i present) star

theorem subset_skipStars : ∀ (fuel : Nat) (ps : List Nat), ps ⊆ skipStars p.toArray fuel ps
  | 0, _ => List.Subset.refl _
  | fuel + 1, ps => by
    simp only [skipStars]
    split
    · exact List.Subset.refl _
    · exact fun j mem => subset_skipStars fuel _ (mem_round.2 (.inl mem))

/-- The positions of the pattern a set misses. -/
def missing (p : List Char) (ps : List Nat) : Finset Nat :=
  (Finset.range (p.length + 1)).filter (· ∉ ps)

/-- Rounds of `skipStars` as many as the positions the set misses reach a set closed under
stars. The induction is on the fuel: each round that adds nothing has found the closure, and
each other round adds a position of the pattern that was missing. -/
theorem starClosed_skipStars : ∀ (fuel : Nat) (ps : List Nat), Within p ps →
    (missing p ps).card ≤ fuel → StarClosed p (skipStars p.toArray fuel ps)
  | 0, ps, _, noneMissing => by
    intro i present star
    have full := Finset.card_eq_zero.1 (Nat.le_zero.1 noneMissing)
    have next : i + 1 ∈ Finset.range (p.length + 1) :=
      Finset.mem_range.2 (by have := lt_length_of_getElem? star; omega)
    by_contra absent
    have : i + 1 ∈ missing p ps := Finset.mem_filter.2 ⟨next, absent⟩
    simp [full] at this
  | fuel + 1, ps, within, enough => by
    simp only [skipStars]
    split
    · rename_i noneAdded
      intro i present star
      by_contra absent
      have added := mem_skipRound.2 ⟨i, present, star, absent, rfl⟩
      rw [List.isEmpty_iff.1 noneAdded] at added
      cases added
    · rename_i someAdded
      obtain ⟨i, present, star, absent⟩ : ∃ i ∈ ps, p[i]? = some '*' ∧ i + 1 ∉ ps := by
        simpa using someAdded
      let ps' := (ps ++ ps.filterMap fun i => if p.toArray[i]? == some '*' &&
        !ps.contains (i + 1) then some (i + 1) else none).eraseDups
      have added : i + 1 ∈ ps' := mem_round.2 (.inr ⟨i, present, star, absent, rfl⟩)
      have grown : ∀ j ∈ ps, j ∈ ps' := fun j mem => mem_round.2 (.inl mem)
      have within' : Within p ps' := by
        intro j mem
        rcases mem_round.1 mem with old | ⟨i', _, star', -, rfl⟩
        · exact within j old
        · have := lt_length_of_getElem? star'
          omega
      have fewer : missing p ps' ⊂ missing p ps := by
        refine Finset.ssubset_iff_of_subset (fun j mem => ?_) |>.2 ⟨i + 1, ?_, ?_⟩
        · simp only [missing, Finset.mem_filter] at mem ⊢
          exact ⟨mem.1, fun old => mem.2 (grown j old)⟩
        · simp only [missing, Finset.mem_filter, Finset.mem_range]
          exact ⟨by have := lt_length_of_getElem? star; omega, absent⟩
        · simp only [missing, Finset.mem_filter, not_and, not_not]
          exact fun _ => added
      exact starClosed_skipStars fuel ps' within'
        (by have := Finset.card_lt_card fewer; omega)

/-- Every set of positions of the pattern misses at most one more position than the pattern
has characters, the fuel `Glob.accepts` gives `skipStars`. -/
theorem missing_card_le (ps : List Nat) : (missing p ps).card ≤ p.length + 1 :=
  (Finset.card_filter_le _ _).trans (by simp)

theorem within_skipStars {ps : List Nat} (within : Within p ps) (fuel : Nat) :
    Within p (skipStars p.toArray fuel ps) :=
  skipStars_induct (fun i _ star => by have := lt_length_of_getElem? star; omega) fuel ps within

theorem faithful_skipStars {u : List Char} {ps : List Nat} (faithful : Faithful p u ps)
    (fuel : Nat) : Faithful p u (skipStars p.toArray fuel ps) where
  sound := skipStars_induct (fun _ sound star w matched => sound w (matches_drop_star star matched))
    fuel ps faithful.sound
  complete w matched := by
    obtain ⟨i, present, rest⟩ := faithful.complete w matched
    exact ⟨i, subset_skipStars fuel ps present, rest⟩

/-! ## One character -/

/-- Where a position goes on a character: a star stays, a question mark moves on, and any
other character moves on when it is the character read. -/
theorem mem_stepOn {ps : List Nat} {c : Char} {j : Nat} :
    j ∈ stepOn p.toArray ps c ↔ ∃ i ∈ ps, (p[i]? = some '*' ∧ j = i) ∨
      (p[i]? = some '?' ∧ j = i + 1) ∨ (p[i]? = some c ∧ c ≠ '*' ∧ c ≠ '?' ∧ j = i + 1) := by
  simp only [stepOn, List.mem_eraseDups, List.mem_flatMap, List.getElem?_toArray]
  refine exists_congr fun i => and_congr_right fun _ => ?_
  split
  · rename_i held
    simp only [held, List.mem_singleton, Option.some.injEq]
    grind
  · rename_i held
    simp only [held, List.mem_singleton, Option.some.injEq]
    grind
  · rename_i d notStar notMark held
    simp only [held, Option.some.injEq, beq_iff_eq]
    split <;> grind
  · rename_i held
    simp [held]

theorem within_stepOn {ps : List Nat} (c : Char) : Within p (stepOn p.toArray ps c) := by
  intro j mem
  obtain ⟨i, -, moved⟩ := mem_stepOn.1 mem
  rcases moved with ⟨held, rfl⟩ | ⟨held, rfl⟩ | ⟨held, -, -, rfl⟩ <;>
    · have := lt_length_of_getElem? held
      omega

/-- The rest of the pattern from a position is `c` before `q` when the position holds `c` and
`q` is the rest from the next position. -/
theorem of_cons_eq_drop {i : Nat} {c : Char} {q : List Char} (rest : c :: q = p.drop i) :
    p[i]? = some c ∧ q = p.drop (i + 1) := by
  have held : p[i]? = some c := by
    rw [← List.head?_drop, ← rest]
    rfl
  rw [drop_of_getElem? held, List.cons.injEq] at rest
  exact ⟨held, rest.2⟩

/-- A way to finish the pattern from a position that starts with the character `c` goes
through a position the step on `c` reaches, when the set is closed under stars. The induction
is on the match; a star matching the empty run moves to the next position, which the set has. -/
theorem step_complete {ps : List Nat} (closed : StarClosed p ps) {q s : List Char}
    (matched : Matches q s) :
    ∀ i ∈ ps, q = p.drop i → ∀ c w, s = c :: w →
      ∃ j ∈ stepOn p.toArray ps c, Matches (p.drop j) w := by
  induction matched with
  | nil => intro _ _ _ _ _ read; cases read
  | starEmpty _ ih =>
    intro i present rest c w read
    obtain ⟨star, rest'⟩ := of_cons_eq_drop rest
    exact ih (i + 1) (closed i present star) rest' c w read
  | starMore matched _ =>
    intro i present rest c w read
    obtain ⟨rfl, rfl⟩ := List.cons.inj read
    obtain ⟨star, -⟩ := of_cons_eq_drop rest
    exact ⟨i, mem_stepOn.2 ⟨i, present, .inl ⟨star, rfl⟩⟩, rest ▸ matched⟩
  | any matched _ =>
    intro i present rest c w read
    obtain ⟨rfl, rfl⟩ := List.cons.inj read
    obtain ⟨mark, rest'⟩ := of_cons_eq_drop rest
    exact ⟨i + 1, mem_stepOn.2 ⟨i, present, .inr (.inl ⟨mark, rfl⟩)⟩, rest' ▸ matched⟩
  | lit notStar notMark matched _ =>
    intro i present rest c w read
    obtain ⟨rfl, rfl⟩ := List.cons.inj read
    obtain ⟨held, rest'⟩ := of_cons_eq_drop rest
    exact ⟨i + 1, mem_stepOn.2 ⟨i, present, .inr (.inr ⟨held, notStar, notMark, rfl⟩)⟩,
      rest' ▸ matched⟩

/-- A step on a character from a set closed under stars keeps the set faithful. -/
theorem faithful_stepOn {u : List Char} {ps : List Nat} (faithful : Faithful p u ps)
    (closed : StarClosed p ps) (c : Char) : Faithful p (u ++ [c]) (stepOn p.toArray ps c) where
  sound j mem w matched := by
    rw [List.append_assoc, List.singleton_append]
    obtain ⟨i, present, moved⟩ := mem_stepOn.1 mem
    refine faithful.sound i present (c :: w) ?_
    rcases moved with ⟨held, rfl⟩ | ⟨held, rfl⟩ | ⟨held, notStar, notMark, rfl⟩
    · rw [drop_of_getElem? held] at matched ⊢
      exact .starMore matched
    · rw [drop_of_getElem? held]
      exact .any matched
    · rw [drop_of_getElem? held]
      exact .lit notStar notMark matched
  complete w matched := by
    rw [List.append_assoc, List.singleton_append] at matched
    obtain ⟨i, present, rest⟩ := faithful.complete (c :: w) matched
    exact step_complete closed rest i present rfl c w rfl

/-! ## The run -/

/-- The set of positions the run holds: within the pattern, closed under stars, faithful. -/
structure Holds (p u : List Char) (ps : List Nat) : Prop where
  within : Within p ps
  closed : StarClosed p ps
  faithful : Faithful p u ps

theorem holds_skipStars {u : List Char} {ps : List Nat} (within : Within p ps)
    (faithful : Faithful p u ps) :
    Holds p u (skipStars p.toArray (p.length + 1) ps) :=
  ⟨within_skipStars within _, starClosed_skipStars _ ps within (missing_card_le ps),
    faithful_skipStars faithful _⟩

theorem holds_start : Holds p [] (skipStars p.toArray (p.length + 1) [0]) :=
  holds_skipStars (fun i mem => by simp at mem; omega)
    ⟨fun i mem w matched => by simp at mem; simpa [mem] using matched,
      fun w matched => ⟨0, List.mem_singleton_self 0, by simpa using matched⟩⟩

/-- Reading the rest of the name keeps the invariant. The induction is on the characters read. -/
theorem holds_foldl : ∀ (s : List Char) {u : List Char} {ps : List Nat}, Holds p u ps →
    Holds p (u ++ s) (s.foldl (fun ps c => skipStars p.toArray (p.length + 1)
      (stepOn p.toArray ps c)) ps)
  | [], u, _, holds => by simpa using holds
  | c :: s, u, ps, holds => by
    have next := holds_skipStars (within_stepOn c) (faithful_stepOn holds.faithful holds.closed c)
    simpa using holds_foldl s next

/-- A set closed under stars that holds a position of the pattern from which the rest is all
stars holds the end of the pattern. The induction is on the characters left. -/
theorem end_of_stars {ps : List Nat} (closed : StarClosed p ps) :
    ∀ (k i : Nat), p.length - i = k → i ≤ p.length → i ∈ ps → (∀ c ∈ p.drop i, c = '*') →
      p.length ∈ ps
  | 0, i, ended, within, present, _ => by
    obtain rfl : i = p.length := by omega
    exact present
  | k + 1, i, left, _, present, stars => by
    have inside : i < p.length := by omega
    have star : p[i]? = some '*' := by
      have first : p[i] ∈ p.drop i := by
        rw [List.drop_eq_getElem_cons inside]
        exact List.mem_cons_self
      rw [List.getElem?_eq_getElem inside, stars _ first]
    refine end_of_stars closed k (i + 1) (by omega) (by omega) (closed i present star)
      fun c mem => stars c ?_
    rw [drop_of_getElem? star]
    exact List.mem_cons_of_mem _ mem

/-- The run decides globbing: a pattern accepts a name exactly when it matches it. -/
theorem accepts_iff (pattern name : List Char) :
    accepts pattern name = true ↔ Matches pattern name := by
  have final := holds_foldl name holds_start (p := pattern)
  simp only [List.nil_append] at final
  simp only [accepts, List.contains_iff_mem]
  constructor
  · intro ended
    simpa using final.faithful.sound _ ended [] (by rw [List.drop_length]; exact .nil)
  · intro matched
    obtain ⟨i, present, rest⟩ := final.faithful.complete [] (by simpa using matched)
    exact end_of_stars final.closed _ i rfl (final.within i present) present
      (stars_of_matches_nil rest rfl)

/-- Globbing is decidable, by the run of positions. -/
instance (pattern name : List Char) : Decidable (Matches pattern name) :=
  decidable_of_iff _ (accepts_iff pattern name)

end FieldSelection.Glob
