import FieldSelection.Regex.Syntax
import FieldSelection.Text.Word
/-!
# Matching regular expressions

A `Pattern` compiles to a `Program`, a nondeterministic automaton whose instructions read one
character of a set, test a zero-width condition, fork, jump or accept. `Program.isMatch` runs
all threads of the automaton in step over the text (Thompson's construction), starting a new
thread at every position, and answers whether some thread accepts: whether the pattern matches
somewhere in the text. The run is total: each step visits each instruction at most once.
-/

namespace FieldSelection.Regex

/-- One instruction of an automaton; targets are indices of instructions. -/
inductive Inst where
  | chars (set : CharSet) (next : Nat)
  | look (l : Look) (next : Nat)
  | fork (first second : Nat)
  | jump (next : Nat)
  | accept
  deriving Repr

/-- An automaton and the index of its first instruction. -/
structure Program where
  insts : Array Inst
  start : Nat
  deriving Repr

/-- Whether `c` counts as a word character for the boundary tests. -/
def isWordAt (unicode : Bool) (c : Option Char) : Bool :=
  match c with
  | some c => if unicode then Text.isWordChar c else c.toNat < 128 && (c.isAlphanum || c == '_')
  | none => false

/-- Whether a condition holds between `before` and `after`. -/
def Look.holds (l : Look) (before after : Option Char) : Bool :=
  match l with
  | .textStart => before.isNone
  | .textEnd => after.isNone
  | .lineStart => before.isNone || before == some '\n'
  | .lineEnd => after.isNone || after == some '\n'
  | .wordBoundary u => isWordAt u before != isWordAt u after
  | .notWordBoundary u => isWordAt u before == isWordAt u after
  | .wordStart u => !isWordAt u before && isWordAt u after
  | .wordEnd u => isWordAt u before && !isWordAt u after

namespace Program

/-- Appends an instruction, returning its index. -/
def emit (insts : Array Inst) (i : Inst) : Array Inst × Nat := (insts.push i, insts.size)

mutual

/-- Appends the instructions of `p` that continue at `next`, returning the entry index. -/
def compileAt (insts : Array Inst) (next : Nat) : Pattern → Array Inst × Nat
  | .empty => (insts, next)
  | .chars s => emit insts (.chars s next)
  | .look l => emit insts (.look l next)
  | .seq parts => compileSeq insts next parts
  | .alt [] => (insts, next)
  | .alt (b :: bs) => compileAlt insts next b bs
  | .rep body lo hi =>
    match hi with
    | none =>
      -- a loop: the fork at `loop` either runs the body again or leaves
      let (insts, loop) := emit insts (.jump 0)
      let (insts, entry) := compileAt insts loop body
      let insts := insts.setIfInBounds loop (.fork entry next)
      compileCopies insts loop body lo
    | some hi =>
      let (insts, optional) := compileOptional insts next next body (hi - lo)
      compileCopies insts optional body lo
termination_by p => (sizeOf p, 0)

/-- Appends parts one after another before `next`, the last first. -/
def compileSeq (insts : Array Inst) (next : Nat) : List Pattern → Array Inst × Nat
  | [] => (insts, next)
  | p :: ps =>
    let (insts, entry) := compileSeq insts next ps
    compileAt insts entry p
termination_by ps => (sizeOf ps, 0)

/-- Appends the branches `b :: bs`, chained by forks that try them in order. -/
def compileAlt (insts : Array Inst) (next : Nat) (b : Pattern) : List Pattern → Array Inst × Nat
  | [] => compileAt insts next b
  | c :: cs =>
    let (insts, rest) := compileAlt insts next c cs
    let (insts, entry) := compileAt insts next b
    emit insts (.fork entry rest)
termination_by bs => (sizeOf b + sizeOf bs, 0)

/-- Appends `n` copies of the body in a row before `next`. -/
def compileCopies (insts : Array Inst) (next : Nat) (body : Pattern) : Nat → Array Inst × Nat
  | 0 => (insts, next)
  | n + 1 =>
    let (insts, entry) := compileAt insts next body
    compileCopies insts entry body n
termination_by n => (sizeOf body, n + 1)

/-- Appends `n` optional copies of the body before `next`, each of which may leave to `exit`. -/
def compileOptional (insts : Array Inst) (next exit : Nat) (body : Pattern) :
    Nat → Array Inst × Nat
  | 0 => (insts, next)
  | n + 1 =>
    let (insts, entry) := compileAt insts next body
    let (insts, fork) := emit insts (.fork entry exit)
    compileOptional insts fork exit body n
termination_by n => (sizeOf body, n + 1)

end

/-- The automaton of a pattern. -/
def compile (p : Pattern) : Program :=
  let (insts, accept) := emit #[] .accept
  let (insts, start) := compileAt insts accept p
  ⟨insts, start⟩

/-- The threads reachable from `pending` without reading, added to `seen`; each instruction is
visited once, so `fuel` of the program's size suffices. Answers the reached reading and
accepting instructions and the visited marks. -/
def closure (prog : Program) (before after : Option Char) :
    Nat → List Nat → Array Bool → List Nat → List Nat × Array Bool
  | 0, _, seen, out => (out, seen)
  | _ + 1, [], seen, out => (out, seen)
  | fuel + 1, pc :: pending, seen, out =>
    if seen.getD pc true then closure prog before after fuel pending seen out
    else
      let seen := seen.setIfInBounds pc true
      match prog.insts[pc]? with
      | some (.chars _ _) => closure prog before after fuel pending seen (pc :: out)
      | some .accept => closure prog before after fuel pending seen (pc :: out)
      | some (.look l next) =>
        if l.holds before after then closure prog before after fuel (next :: pending) seen out
        else closure prog before after fuel pending seen out
      | some (.fork a b) => closure prog before after fuel (a :: b :: pending) seen out
      | some (.jump next) => closure prog before after fuel (next :: pending) seen out
      | none => closure prog before after fuel pending seen out

/-- Whether one of the threads accepts. -/
def accepts (prog : Program) (threads : List Nat) : Bool :=
  threads.any fun (pc : Nat) => match (prog.insts[pc]? : Option Inst) with
    | some .accept => true
    | _ => false

/-- The threads after reading `c`. -/
def advance (prog : Program) (threads : List Nat) (c : Char) : List Nat :=
  threads.filterMap fun (pc : Nat) => match (prog.insts[pc]? : Option Inst) with
    | some (.chars s next) => if s.contains c then some next else none
    | _ => none

/-- Runs the threads over the rest of the text, `before` being the character just read. -/
def run (prog : Program) (before : Option Char) : List Nat → List Char → Bool
  | threads, [] =>
    let seeds := threads ++ [prog.start]
    let (reached, _) := closure prog before none (2 * prog.insts.size + seeds.length + 1) seeds
      (Array.replicate prog.insts.size false) []
    accepts prog reached
  | threads, c :: rest =>
    let seeds := threads ++ [prog.start]
    let (reached, _) := closure prog before (some c) (2 * prog.insts.size + seeds.length + 1)
      seeds (Array.replicate prog.insts.size false) []
    if accepts prog reached then true
    else run prog (some c) (advance prog reached.reverse c) rest

/-- Whether the pattern of the program matches somewhere in `s`. -/
def isMatch (prog : Program) (s : String) : Bool := run prog none [] s.toList

end Program

end FieldSelection.Regex
