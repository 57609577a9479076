import Mathlib.Logic.Relation
import FieldSelection.Regex.Automaton
/-!
# The automaton finds exactly its accepting runs

`Program.Accepts prog pc before s` says that the automaton, started at instruction `pc` with
`before` the character read last, reaches its accepting instruction while reading a prefix of
`s`: a character set reads one character of the set, a condition holds between the character
read last and the next one, a fork goes either way and a jump goes on. `Program.isMatch`
answers exactly whether such a run starts at some place of the text (`Program.isMatch_iff`).

The run keeps the threads that wait on the text; `closure` adds every instruction that the
moves reading nothing reach (`Program.Moves`), visiting each instruction once. Its invariant
(`Program.Visit`) says that what it found and what it visited is reachable, and that every
visited instruction has handed its moves on, to a visited instruction or to one still pending;
once nothing is pending, what it found is exactly what the seeds reach
(`Program.mem_closure_iff`). Each round lowers the pending threads plus twice the unvisited
instructions, which bounds the fuel `run` gives it.
-/

namespace FieldSelection.Regex

/-- The character read last after reading `u` from a place where `before` was read last. -/
def lastRead (before : Option Char) (u : List Char) : Option Char :=
  u.foldl (fun _ c => some c) before

@[simp] theorem lastRead_nil (before : Option Char) : lastRead before [] = before := rfl

@[simp] theorem lastRead_cons (before : Option Char) (c : Char) (u : List Char) :
    lastRead before (c :: u) = lastRead (some c) u := rfl

theorem lastRead_append (before : Option Char) (u v : List Char) :
    lastRead before (u ++ v) = lastRead (lastRead before u) v :=
  List.foldl_append

theorem lastRead_some_ne_none (c : Char) : ∀ u, lastRead (some c) u ≠ none
  | [] => by simp
  | d :: u => by simpa using lastRead_some_ne_none d u

@[simp] theorem lastRead_none_eq_none {u : List Char} : lastRead none u = none ↔ u = [] := by
  cases u with
  | nil => simp
  | cons c u => simpa using lastRead_some_ne_none c u

namespace Program

variable (prog : Program)

/-- Runs of the automaton from instruction `pc`, with `before` the character read last, that
reach the accepting instruction within `s`. -/
inductive Accepts : Nat → Option Char → List Char → Prop where
  | accept {pc before s} : prog.insts[pc]? = some .accept → Accepts pc before s
  | chars {pc before set next c s} : prog.insts[pc]? = some (.chars set next) →
      set.contains c = true → Accepts next (some c) s → Accepts pc before (c :: s)
  | look {pc before l next s} : prog.insts[pc]? = some (.look l next) →
      l.holds before s.head? = true → Accepts next before s → Accepts pc before s
  | forkFirst {pc before a b s} : prog.insts[pc]? = some (.fork a b) → Accepts a before s →
      Accepts pc before s
  | forkSecond {pc before a b s} : prog.insts[pc]? = some (.fork a b) → Accepts b before s →
      Accepts pc before s
  | jump {pc before next s} : prog.insts[pc]? = some (.jump next) → Accepts next before s →
      Accepts pc before s

/-- The instructions that one move reading nothing leads to, between `before` and `after`. -/
def moves (before after : Option Char) : Option Inst → List Nat
  | some (.look l next) => if l.holds before after then [next] else []
  | some (.fork a b) => [a, b]
  | some (.jump next) => [next]
  | _ => []

/-- Whether a thread at the instruction waits on the text: it reads a character or accepts. -/
def waits : Option Inst → Bool
  | some (.chars _ _) => true
  | some .accept => true
  | _ => false

/-- A move from `pc` to `next` that reads nothing, between `before` and `after`. -/
def Moves (before after : Option Char) (pc next : Nat) : Prop :=
  next ∈ moves before after prog.insts[pc]?

/-- The instructions waiting on the text that moves reading nothing reach from `seeds`. -/
def Reached (before after : Option Char) (seeds : List Nat) (q : Nat) : Prop :=
  waits prog.insts[q]? = true ∧ ∃ p ∈ seeds, Relation.ReflTransGen (prog.Moves before after) p q

theorem moves_length_le (before after : Option Char) (i : Option Inst) :
    (moves before after i).length ≤ 2 := by
  unfold moves
  split <;> (try split) <;> simp

/-! ## The closure -/

section Closure

variable {prog} {before after : Option Char} {seeds : List Nat}

/-- The invariant of `closure` from `seeds`: what it found is reached; what is pending or
visited is reachable; every seed is visited or pending; and every visited instruction is found
when it waits and has handed each of its moves on, to a visited instruction or a pending one.
An index past the program counts as visited. -/
structure Visit (before after : Option Char) (seeds pending : List Nat) (seen : Array Bool)
    (out : List Nat) : Prop where
  size : seen.size = prog.insts.size
  out_reached : ∀ q ∈ out, prog.Reached before after seeds q
  pending_reachable : ∀ p ∈ pending,
    ∃ s ∈ seeds, Relation.ReflTransGen (prog.Moves before after) s p
  seen_reachable : ∀ p < prog.insts.size, seen.getD p true = true →
    ∃ s ∈ seeds, Relation.ReflTransGen (prog.Moves before after) s p
  seeds_visited : ∀ s ∈ seeds, seen.getD s true = true ∨ s ∈ pending
  seen_out : ∀ p, seen.getD p true = true → waits prog.insts[p]? = true → p ∈ out
  seen_moves : ∀ p q, seen.getD p true = true → prog.Moves before after p q →
    seen.getD q true = true ∨ q ∈ pending

theorem getD_replicate {n p : Nat} : (Array.replicate n false).getD p true = true ↔ n ≤ p := by
  rw [Array.getD_eq_getD_getElem?, Array.getElem?_replicate]
  split
  · rename_i inside
    exact iff_of_false Bool.false_ne_true (Nat.not_le.2 inside)
  · rename_i outside
    exact iff_of_true rfl (Nat.le_of_not_lt outside)

theorem insts_none_of_le {p : Nat} (past : prog.insts.size ≤ p) : prog.insts[p]? = none :=
  Array.getElem?_eq_none past

/-- Nothing is visited yet and every seed is pending. -/
theorem visit_start : prog.Visit before after seeds seeds
    (Array.replicate prog.insts.size false) [] where
  size := Array.size_replicate
  out_reached := by simp
  pending_reachable := fun p mem => ⟨p, mem, .refl⟩
  seen_reachable := fun p inside marked => absurd (getD_replicate.1 marked) (by omega)
  seeds_visited := fun _ mem => .inr mem
  seen_out := fun p marked => by simp [insts_none_of_le (getD_replicate.1 marked), waits]
  seen_moves := fun p q marked => by
    simp [Moves, insts_none_of_le (getD_replicate.1 marked), moves]

/-- Once nothing is pending, everything the seeds reach is visited. -/
theorem Visit.seen_of_reachable {seen : Array Bool} {out : List Nat} {s q : Nat}
    (visit : prog.Visit before after seeds [] seen out) (seed : s ∈ seeds)
    (path : Relation.ReflTransGen (prog.Moves before after) s q) : seen.getD q true = true := by
  induction path with
  | refl => simpa using visit.seeds_visited s seed
  | tail _ move visited => simpa using visit.seen_moves _ _ visited move

/-- Once nothing is pending, what was found is exactly what the seeds reach. -/
theorem Visit.mem_iff {seen : Array Bool} {out : List Nat}
    (visit : prog.Visit before after seeds [] seen out) (q : Nat) :
    q ∈ out ↔ prog.Reached before after seeds q :=
  ⟨visit.out_reached q, fun ⟨waiting, _, seed, path⟩ =>
    visit.seen_out q (visit.seen_of_reachable seed path) waiting⟩

/-- A visited instruction is dropped from the pending ones. -/
theorem Visit.skip {pc : Nat} {pending : List Nat} {seen : Array Bool} {out : List Nat}
    (visit : prog.Visit before after seeds (pc :: pending) seen out)
    (marked : seen.getD pc true = true) : prog.Visit before after seeds pending seen out where
  size := visit.size
  out_reached := visit.out_reached
  pending_reachable := fun p mem => visit.pending_reachable p (List.mem_cons_of_mem _ mem)
  seen_reachable := visit.seen_reachable
  seeds_visited := fun s seed => by
    rcases visit.seeds_visited s seed with visited | mem
    · exact .inl visited
    · rcases List.mem_cons.1 mem with rfl | mem
      · exact .inl marked
      · exact .inr mem
  seen_out := visit.seen_out
  seen_moves := fun p q visited move => by
    rcases visit.seen_moves p q visited move with visited' | mem
    · exact .inl visited'
    · rcases List.mem_cons.1 mem with rfl | mem
      · exact .inl marked
      · exact .inr mem

theorem getD_setIfInBounds {seen : Array Bool} {pc p : Nat} (inside : pc < seen.size) :
    (seen.setIfInBounds pc true).getD p true = true ↔ p = pc ∨ seen.getD p true = true := by
  by_cases same : p = pc
  · subst same
    simp [Array.getD_eq_getD_getElem?, inside]
  · simp [Array.getD_eq_getD_getElem?, Ne.symm same, same]

theorem lt_size_of_getD_false {seen : Array Bool} {pc : Nat} (fresh : seen.getD pc true = false) :
    pc < seen.size := by
  rcases Nat.lt_or_ge pc seen.size with inside | past
  · exact inside
  · simp [Array.getD_eq_getD_getElem?, Array.getElem?_eq_none past] at fresh

/-- Visiting a fresh instruction: it is marked, found when it waits, and its moves are pending. -/
theorem Visit.mark {pc : Nat} {pending : List Nat} {seen : Array Bool} {out : List Nat}
    (visit : prog.Visit before after seeds (pc :: pending) seen out)
    (fresh : seen.getD pc true = false) :
    prog.Visit before after seeds (moves before after prog.insts[pc]? ++ pending)
      (seen.setIfInBounds pc true) (if waits prog.insts[pc]? then pc :: out else out) := by
  have inside := lt_size_of_getD_false fresh
  obtain ⟨s, seed, path⟩ := visit.pending_reachable pc List.mem_cons_self
  have marked := fun {p} => getD_setIfInBounds (p := p) inside
  refine ⟨by simp [visit.size], fun q mem => ?_, fun p mem => ?_, fun p _ visited => ?_,
    fun s' seed' => ?_, fun p visited waiting => ?_, fun p q visited move => ?_⟩
  · split at mem
    · rcases List.mem_cons.1 mem with rfl | mem
      · exact ⟨by assumption, s, seed, path⟩
      · exact visit.out_reached q mem
    · exact visit.out_reached q mem
  · rcases List.mem_append.1 mem with next | mem
    · exact ⟨s, seed, path.tail next⟩
    · exact visit.pending_reachable p (List.mem_cons_of_mem _ mem)
  · rcases marked.1 visited with rfl | visited
    · exact ⟨s, seed, path⟩
    · exact visit.seen_reachable p (by omega) visited
  · rcases visit.seeds_visited s' seed' with visited | mem
    · exact .inl (marked.2 (.inr visited))
    · rcases List.mem_cons.1 mem with rfl | mem
      · exact .inl (marked.2 (.inl rfl))
      · exact .inr (List.mem_append_right _ mem)
  · rcases marked.1 visited with rfl | visited
    · simp [waiting]
    · have found := visit.seen_out p visited waiting
      split <;> simp [found]
  · rcases marked.1 visited with rfl | visited
    · exact .inr (List.mem_append_left _ move)
    · rcases visit.seen_moves p q visited move with visited' | mem
      · exact .inl (marked.2 (.inr visited'))
      · rcases List.mem_cons.1 mem with rfl | mem
        · exact .inl (marked.2 (.inl rfl))
        · exact .inr (List.mem_append_right _ mem)

theorem count_setIfInBounds {seen : Array Bool} {pc : Nat} (fresh : seen.getD pc true = false) :
    (seen.setIfInBounds pc true).count false + 1 = seen.count false := by
  have inside := lt_size_of_getD_false fresh
  have at_pc : seen[pc] = false := by
    simpa [Array.getD_eq_getD_getElem?, Array.getElem?_eq_getElem inside] using fresh
  have positive : 0 < seen.count false := Array.count_pos_iff.2 (at_pc ▸ Array.getElem_mem inside)
  rw [Array.setIfInBounds, dif_pos inside, Array.count_set inside]
  simp [at_pc]
  omega

/-- A round of `closure` on a visited instruction drops it. -/
theorem closure_marked {fuel pc : Nat} {pending : List Nat} {seen : Array Bool} {out : List Nat}
    (marked : seen.getD pc true = true) :
    prog.closure before after (fuel + 1) (pc :: pending) seen out =
      prog.closure before after fuel pending seen out := by
  simp [closure, marked]

/-- A round of `closure` on a fresh instruction marks it, finds it when it waits, and pends its
moves. -/
theorem closure_fresh {fuel pc : Nat} {pending : List Nat} {seen : Array Bool} {out : List Nat}
    (fresh : seen.getD pc true = false) :
    prog.closure before after (fuel + 1) (pc :: pending) seen out =
      prog.closure before after fuel (moves before after prog.insts[pc]? ++ pending)
        (seen.setIfInBounds pc true) (if waits prog.insts[pc]? then pc :: out else out) := by
  simp only [closure, fresh, Bool.false_eq_true, if_false]
  split <;> simp [moves, waits, *]
  split <;> simp

/-- `closure` finds exactly what the seeds reach, given fuel for the pending instructions and
twice the unvisited ones. -/
theorem closure_reached : ∀ (fuel : Nat) {pending : List Nat} {seen : Array Bool}
    {out : List Nat}, prog.Visit before after seeds pending seen out →
    pending.length + 2 * seen.count false ≤ fuel →
    ∀ q, q ∈ (prog.closure before after fuel pending seen out).1 ↔
      prog.Reached before after seeds q
  | 0, pending, seen, out, visit, enough => by
    have done : pending = [] := List.eq_nil_of_length_eq_zero (by omega)
    subst done
    exact visit.mem_iff
  | fuel + 1, [], seen, out, visit, _ => visit.mem_iff
  | fuel + 1, pc :: pending, seen, out, visit, enough => by
    cases marked : seen.getD pc true with
    | true =>
      rw [closure_marked marked]
      exact closure_reached fuel (visit.skip marked) (by simp at enough; omega)
    | false =>
      rw [closure_fresh marked]
      have fewer := count_setIfInBounds marked
      have bounded := moves_length_le before after prog.insts[pc]?
      exact closure_reached fuel (visit.mark marked) (by simp at enough ⊢; omega)

/-- `closure` with the fuel and the fresh marks that `run` gives it finds exactly what the
seeds reach. -/
theorem mem_closure_iff (q : Nat) :
    q ∈ (prog.closure before after (2 * prog.insts.size + seeds.length + 1) seeds
      (Array.replicate prog.insts.size false) []).1 ↔ prog.Reached before after seeds q :=
  closure_reached _ visit_start (by simp; omega) q

end Closure

/-! ## Runs -/

section Runs

variable {prog}

theorem accepts_of_moves {pc q : Nat} {before : Option Char} {s : List Char}
    (move : prog.Moves before s.head? pc q) (accepted : prog.Accepts q before s) :
    prog.Accepts pc before s := by
  unfold Moves moves at move
  split at move
  · split at move
    · obtain rfl := List.mem_singleton.1 move
      exact .look (by assumption) (by assumption) accepted
    · cases move
  · rcases List.mem_cons.1 move with rfl | move
    · exact .forkFirst (by assumption) accepted
    obtain rfl := List.mem_singleton.1 move
    · exact .forkSecond (by assumption) accepted
  · obtain rfl := List.mem_singleton.1 move
    exact .jump (by assumption) accepted
  · cases move

/-- What a thread waiting at `q` does with the text `s`: it accepts, or reads the next
character and runs on. -/
def Finishes (prog : Program) (q : Nat) (s : List Char) : Prop :=
  prog.insts[q]? = some .accept ∨
    ∃ set next c rest, prog.insts[q]? = some (.chars set next) ∧ s = c :: rest ∧
      set.contains c = true ∧ prog.Accepts next (some c) rest

theorem waits_of_finishes {q : Nat} {s : List Char} (finishes : prog.Finishes q s) :
    waits prog.insts[q]? = true := by
  rcases finishes with at_q | ⟨_, _, _, _, at_q, _⟩ <;> simp [at_q, waits]

theorem accepts_of_finishes {q : Nat} {before : Option Char} {s : List Char}
    (finishes : prog.Finishes q s) : prog.Accepts q before s := by
  rcases finishes with at_q | ⟨_, _, _, _, at_q, rfl, contains, rest⟩
  · exact .accept at_q
  · exact .chars at_q contains rest

/-- A run moves without reading to a thread that waits on the text, and finishes there. -/
theorem accepts_iff_finishes {pc : Nat} {before : Option Char} {s : List Char} :
    prog.Accepts pc before s ↔
      ∃ q, Relation.ReflTransGen (prog.Moves before s.head?) pc q ∧ prog.Finishes q s := by
  constructor
  · intro accepted
    induction accepted with
    | accept at_pc => exact ⟨_, .refl, .inl at_pc⟩
    | chars at_pc contains rest => exact ⟨_, .refl, .inr ⟨_, _, _, _, at_pc, rfl, contains, rest⟩⟩
    | look at_pc holds _ ih =>
      obtain ⟨q, path, finishes⟩ := ih
      exact ⟨q, .head (by simp [Moves, moves, at_pc, holds]) path, finishes⟩
    | forkFirst at_pc _ ih =>
      obtain ⟨q, path, finishes⟩ := ih
      exact ⟨q, .head (by simp [Moves, moves, at_pc]) path, finishes⟩
    | forkSecond at_pc _ ih =>
      obtain ⟨q, path, finishes⟩ := ih
      exact ⟨q, .head (by simp [Moves, moves, at_pc]) path, finishes⟩
    | jump at_pc _ ih =>
      obtain ⟨q, path, finishes⟩ := ih
      exact ⟨q, .head (by simp [Moves, moves, at_pc]) path, finishes⟩
  · rintro ⟨q, path, finishes⟩
    induction path using Relation.ReflTransGen.head_induction_on with
    | refl => exact accepts_of_finishes finishes
    | head move _ ih => exact accepts_of_moves move ih

theorem accepts_threads_iff {threads : List Nat} {before : Option Char} {s : List Char}
    {reached : List Nat}
    (found : ∀ q, q ∈ reached ↔ prog.Reached before s.head? threads q) :
    (∃ t ∈ threads, prog.Accepts t before s) ↔ ∃ q ∈ reached, prog.Finishes q s := by
  simp only [found, Reached]
  constructor
  · rintro ⟨t, thread, accepted⟩
    obtain ⟨q, path, finishes⟩ := accepts_iff_finishes.1 accepted
    exact ⟨q, ⟨waits_of_finishes finishes, t, thread, path⟩, finishes⟩
  · rintro ⟨q, ⟨-, t, thread, path⟩, finishes⟩
    exact ⟨t, thread, accepts_iff_finishes.2 ⟨q, path, finishes⟩⟩

theorem accepts_eq_true_iff {threads : List Nat} :
    prog.accepts threads = true ↔ ∃ q ∈ threads, prog.insts[q]? = some .accept := by
  unfold accepts
  simp only [List.any_eq_true]
  refine exists_congr fun q => and_congr_right fun _ => ?_
  rcases prog.insts[q]? with _ | ⟨_ | _ | _ | _ | _⟩ <;> simp

theorem mem_advance {threads : List Nat} {c : Char} {n : Nat} :
    n ∈ prog.advance threads c ↔
      ∃ q ∈ threads, ∃ set, prog.insts[q]? = some (.chars set n) ∧ set.contains c = true := by
  unfold advance
  simp only [List.mem_filterMap]
  refine exists_congr fun q => and_congr_right fun _ => ?_
  rcases prog.insts[q]? with _ | ⟨_ | _ | _ | _ | _⟩ <;> simp [and_assoc, and_comm]

/-- At the end of the text a thread finishes only by accepting. -/
theorem finishes_nil_iff {q : Nat} : prog.Finishes q [] ↔ prog.insts[q]? = some .accept := by
  simp [Finishes]

/-- Before a character a thread finishes by accepting, or by reading it and running on. -/
theorem exists_finishes_cons {reached : List Nat} {c : Char} {rest : List Char} :
    (∃ q ∈ reached, prog.Finishes q (c :: rest)) ↔
      prog.accepts reached = true ∨ ∃ n ∈ prog.advance reached.reverse c,
        prog.Accepts n (some c) rest := by
  simp only [Finishes, accepts_eq_true_iff, mem_advance, List.mem_reverse]
  constructor
  · rintro ⟨q, mem, at_q | ⟨set, next, d, more, at_q, same, contains, accepted⟩⟩
    · exact .inl ⟨q, mem, at_q⟩
    · obtain ⟨rfl, rfl⟩ := List.cons.inj same
      exact .inr ⟨next, ⟨q, mem, set, at_q, contains⟩, accepted⟩
  · rintro (⟨q, mem, at_q⟩ | ⟨n, ⟨q, mem, set, at_q, contains⟩, accepted⟩)
    · exact ⟨q, mem, .inl at_q⟩
    · exact ⟨q, mem, .inr ⟨set, n, c, rest, at_q, rfl, contains, accepted⟩⟩

theorem exists_split_nil {P : List Char → List Char → Prop} :
    (∃ u v, [] = u ++ v ∧ P u v) ↔ P [] [] := by
  constructor
  · rintro ⟨u, v, split, holds⟩
    obtain ⟨rfl, rfl⟩ := List.nil_eq_append_iff.1 split
    exact holds
  · exact fun holds => ⟨[], [], rfl, holds⟩

theorem exists_split_cons {P : List Char → List Char → Prop} {c : Char} {rest : List Char} :
    (∃ u v, c :: rest = u ++ v ∧ P u v) ↔ P [] (c :: rest) ∨ ∃ u v, rest = u ++ v ∧ P (c :: u) v := by
  constructor
  · rintro ⟨u, v, split, holds⟩
    rcases List.cons_eq_append_iff.1 split with ⟨rfl, rfl⟩ | ⟨u', rfl, rfl⟩
    · exact .inl holds
    · exact .inr ⟨u', v, rfl, holds⟩
  · rintro (holds | ⟨u, v, rfl, holds⟩)
    · exact ⟨[], c :: rest, rfl, holds⟩
    · exact ⟨c :: u, v, rfl, holds⟩

/-- The run from `threads`, with a new thread started at every place, accepts exactly when one
of the threads accepts or a run from the start accepts from some place on. -/
theorem exists_seeds_iff {threads : List Nat} {before : Option Char} {s : List Char} :
    ((∃ t ∈ threads, prog.Accepts t before s) ∨ prog.Accepts prog.start before s) ↔
      ∃ t ∈ threads ++ [prog.start], prog.Accepts t before s := by
  simp [or_comm]

theorem run_iff (before : Option Char) (threads : List Nat) (s : List Char) :
    prog.run before threads s = true ↔
      (∃ t ∈ threads, prog.Accepts t before s) ∨
        ∃ u v, s = u ++ v ∧ prog.Accepts prog.start (lastRead before u) v := by
  induction s generalizing before threads with
  | nil =>
    have found := @mem_closure_iff prog before none (threads ++ [prog.start])
    rw [run, accepts_eq_true_iff, exists_split_nil, lastRead_nil, exists_seeds_iff,
      accepts_threads_iff (s := []) found]
    simp only [finishes_nil_iff]
  | cons c rest ih =>
    rw [run]
    have found := @mem_closure_iff prog before (some c) (threads ++ [prog.start])
    rw [exists_split_cons, lastRead_nil, ← or_assoc, exists_seeds_iff,
      accepts_threads_iff (s := c :: rest) found, exists_finishes_cons]
    simp only [lastRead_cons]
    rw [or_assoc, ← ih]
    split
    · rename_i accepted
      exact iff_of_true rfl (.inl accepted)
    · rename_i rejected
      exact ⟨.inr, fun held => held.resolve_left rejected⟩

/-- The automaton matches the text exactly when a run from its start accepts from some place
of the text on. -/
theorem isMatch_iff (s : String) :
    prog.isMatch s = true ↔
      ∃ u v, s.toList = u ++ v ∧ prog.Accepts prog.start (lastRead none u) v := by
  simp [isMatch, run_iff]

end Runs

/-! ## Runs at one instruction -/

section Instructions

variable {prog} {pc : Nat} {before : Option Char} {s : List Char}

theorem accepts_at_accept (at_pc : prog.insts[pc]? = some .accept) : prog.Accepts pc before s :=
  .accept at_pc

theorem accepts_at_chars {set : CharSet} {next : Nat}
    (at_pc : prog.insts[pc]? = some (.chars set next)) :
    prog.Accepts pc before s ↔
      ∃ c rest, s = c :: rest ∧ set.contains c = true ∧ prog.Accepts next (some c) rest := by
  constructor
  · intro accepted
    cases accepted with
    | chars at_pc' contains rest =>
      rw [at_pc] at at_pc'
      cases at_pc'
      exact ⟨_, _, rfl, contains, rest⟩
    | _ => simp_all
  · rintro ⟨c, rest, rfl, contains, accepted⟩
    exact .chars at_pc contains accepted

theorem accepts_at_look {l : Look} {next : Nat} (at_pc : prog.insts[pc]? = some (.look l next)) :
    prog.Accepts pc before s ↔ l.holds before s.head? = true ∧ prog.Accepts next before s := by
  constructor
  · intro accepted
    cases accepted with
    | look at_pc' holds rest =>
      rw [at_pc] at at_pc'
      cases at_pc'
      exact ⟨holds, rest⟩
    | _ => simp_all
  · rintro ⟨holds, accepted⟩
    exact .look at_pc holds accepted

theorem accepts_at_fork {a b : Nat} (at_pc : prog.insts[pc]? = some (.fork a b)) :
    prog.Accepts pc before s ↔ prog.Accepts a before s ∨ prog.Accepts b before s := by
  constructor
  · intro accepted
    cases accepted with
    | forkFirst at_pc' rest =>
      rw [at_pc] at at_pc'
      cases at_pc'
      exact .inl rest
    | forkSecond at_pc' rest =>
      rw [at_pc] at at_pc'
      cases at_pc'
      exact .inr rest
    | _ => simp_all
  · rintro (accepted | accepted)
    · exact .forkFirst at_pc accepted
    · exact .forkSecond at_pc accepted

end Instructions

end Program

end FieldSelection.Regex
