import Mathlib.Data.List.DropRight
import Mathlib.Data.List.Nodup
import FieldSelection.Selection.Parser
/-!
# What an expression compiles to

Compilation numbers the nodes of a forest in preorder from one (`Draft.freeze`), and a cache
hands the forest out as shared lists named by those numbers: the top level is slot zero of its
compilation, the nested nodes of a node are at the node's slot. That naming is sound only if
no two nodes of one compilation share a slot and none takes slot zero. This file proves it:

* `Node.preorder` lists a forest's nodes at every depth, each before its nested nodes, and
  `preorder_children_subset` says the nested nodes of any of them are among them;
* `Draft.freezeList_slots`: the slots along the preorder of a frozen forest count up from the
  first free number, so `Draft.numbered_compile` and `Selection.numbered_parse`: every forest an
  expression compiles to is `Node.Numbered`;
* `Selection.parse_trim`: compiling the trimmed text is compiling the text, which is why a cache
  of compiled expressions may key them by their trimmed text.
-/

namespace FieldSelection

namespace Node

mutual

/-- A node followed by its nested nodes at every depth, in preorder. -/
def subtree : Node → List Node
  | .mk m f s cs => .mk m f s cs :: preorder cs

/-- The nodes of a forest at every depth, each before its nested nodes. -/
def preorder : List Node → List Node
  | [] => []
  | n :: ns => subtree n ++ preorder ns

end

theorem subtree_eq (n : Node) : n.subtree = n :: preorder n.children := by
  cases n
  rfl

@[simp] theorem preorder_nil : preorder [] = [] := rfl

theorem preorder_cons (n : Node) (ns : List Node) :
    preorder (n :: ns) = n.subtree ++ preorder ns := rfl

@[simp] theorem mem_preorder_cons {m n : Node} {ns : List Node} :
    m ∈ preorder (n :: ns) ↔ m = n ∨ m ∈ preorder n.children ∨ m ∈ preorder ns := by
  simp [preorder_cons, subtree_eq]

@[simp] theorem preorder_append (ns ms : List Node) :
    preorder (ns ++ ms) = preorder ns ++ preorder ms := by
  induction ns with
  | nil => rfl
  | cons n ns ih => rw [List.cons_append, preorder_cons, preorder_cons, ih, List.append_assoc]

theorem mem_preorder_of_mem {n : Node} {ns : List Node} (present : n ∈ ns) :
    n ∈ preorder ns := by
  induction ns with
  | nil => simp at present
  | cons head tail ih =>
    rcases List.mem_cons.1 present with rfl | inTail
    · exact mem_preorder_cons.2 (.inl rfl)
    · exact mem_preorder_cons.2 (.inr (.inr (ih inTail)))

mutual

/-- The nested nodes of a node of a subtree, at every depth, are in the subtree. -/
theorem subtree_children_subset : ∀ (top : Node) {n : Node}, n ∈ top.subtree →
    preorder n.children ⊆ top.subtree
  | .mk m f s cs, n, present => by
    rw [subtree] at present ⊢
    rcases List.mem_cons.1 present with rfl | below
    · exact List.subset_cons_self _ _
    · exact List.Subset.trans (preorder_children_subset cs below) (List.subset_cons_self _ _)

/-- The nested nodes of a node of a forest, at every depth, are in the forest. -/
theorem preorder_children_subset : ∀ (ns : List Node) {n : Node}, n ∈ preorder ns →
    preorder n.children ⊆ preorder ns
  | [], _, present => by simp at present
  | top :: rest, n, present => by
    rw [preorder_cons] at present ⊢
    rcases List.mem_append.1 present with inTop | inRest
    · exact List.Subset.trans (subtree_children_subset top inTop) (List.subset_append_left _ _)
    · exact List.Subset.trans (preorder_children_subset rest inRest) (List.subset_append_right _ _)

end

/-- Pooling the nested nodes of some nodes of a forest gives nodes of the forest. -/
theorem preorder_flatMap_subset {ws ns : List Node} (chosen : ∀ w ∈ ws, w ∈ ns) :
    preorder (ws.flatMap children) ⊆ preorder ns := by
  induction ws with
  | nil => simp
  | cons w ws ih =>
    rw [List.flatMap_cons, preorder_append]
    refine List.append_subset.2 ⟨?_, ih fun x mem => chosen x (List.mem_cons_of_mem _ mem)⟩
    exact preorder_children_subset ns (mem_preorder_of_mem (chosen w List.mem_cons_self))

/-- A forest whose nodes have distinct slots at every depth, none of them zero. -/
structure Numbered (ns : List Node) : Prop where
  distinct : ((preorder ns).map slot).Nodup
  positive : ∀ n ∈ preorder ns, 0 < n.slot

theorem numbered_nil : Numbered [] := ⟨List.nodup_nil, by simp⟩

/-- In a numbered forest a slot names one node. -/
theorem Numbered.eq_of_slot {ns : List Node} (numbered : Numbered ns) {n m : Node}
    (hn : n ∈ preorder ns) (hm : m ∈ preorder ns) (same : n.slot = m.slot) : n = m :=
  List.inj_on_of_nodup_map numbered.distinct hn hm same

end Node

namespace Draft

open Node

mutual

/-- Freezing a node numbers its subtree with the consecutive slots from `next` up to the next
free number. -/
theorem freeze_slots : ∀ (next : Nat) (d : Draft),
    (freeze next d).1.subtree.map slot = List.range' next ((freeze next d).2 - next) ∧
      next < (freeze next d).2
  | next, .mk m f cs => by
    have below := freezeList_slots (next + 1) cs
    rcases frozen : freezeList (next + 1) cs with ⟨children, after⟩
    rw [frozen] at below
    obtain ⟨slots, bound⟩ := below
    simp only [freeze, frozen, subtree_eq, Node.children_mk, slot_mk, List.map_cons]
    refine ⟨?_, by omega⟩
    rw [slots, show after - next = after - (next + 1) + 1 by omega, List.range'_succ]

/-- Freezing siblings numbers their subtrees one after another with the consecutive slots from
`next` up to the next free number. -/
theorem freezeList_slots : ∀ (next : Nat) (ds : List Draft),
    (preorder (freezeList next ds).1).map slot =
        List.range' next ((freezeList next ds).2 - next) ∧
      next ≤ (freezeList next ds).2
  | next, [] => by simp [freezeList]
  | next, c :: cs => by
    have here := freeze_slots next c
    rcases frozen : freeze next c with ⟨n, after⟩
    rw [frozen] at here
    have rest := freezeList_slots after cs
    rcases frozenRest : freezeList after cs with ⟨ns, last⟩
    rw [frozenRest] at rest
    obtain ⟨slots, bound⟩ := here
    obtain ⟨slotsRest, boundRest⟩ := rest
    simp only [freezeList, frozen, frozenRest, preorder_cons, List.map_append, slots, slotsRest]
    refine ⟨?_, by omega⟩
    obtain ⟨k, rfl⟩ : ∃ k, after = next + k := ⟨after - next, by omega⟩
    obtain ⟨j, rfl⟩ : ∃ j, last = next + k + j := ⟨last - (next + k), by omega⟩
    rw [show next + k - next = k by omega, show next + k + j - (next + k) = j by omega,
      show next + k + j - next = k + j by omega]
    exact List.range'_append_1

end

/-- A compiled forest is numbered: its slots count up from one along its preorder. -/
theorem numbered_compile (d : Draft) : Numbered d.compile := by
  obtain ⟨slots, -⟩ := freezeList_slots 1 d.children
  refine ⟨?_, fun n present => ?_⟩
  · rw [compile, slots]
    exact List.nodup_range'
  · have counted := List.mem_map_of_mem (f := slot) present
    rw [compile, slots, List.mem_range'_1] at counted
    omega

end Draft

namespace Selection

/-- Whatever an expression compiles to is numbered. -/
theorem numbered_parse {text : String} {ns : List Node} (compiled : parse text = .ok ns) :
    Node.Numbered ns := by
  dsimp only [parse] at compiled
  split at compiled
  · cases compiled
    exact Node.numbered_nil
  · dsimp only [parseTrimmed] at compiled
    cases ran : (Reader.expressionList [] none (4 * (Text.trimBlanks text.toList).length + 8)).run
        ⟨⟨Text.trimBlanks text.toList, 0⟩, Draft.root⟩ with
    | error e => simp [ran, Bind.bind, Except.bind] at compiled
    | ok result =>
      simp only [ran, Bind.bind, Except.bind, pure, Except.pure, Except.ok.injEq] at compiled
      rw [← compiled]
      exact Draft.numbered_compile _

end Selection

namespace Text

/-- Trimming trimmed text changes nothing. -/
theorem trimBlanks_trimBlanks (cs : List Char) : trimBlanks (trimBlanks cs) = trimBlanks cs := by
  have asDrops : ∀ xs : List Char, trimBlanks xs = (dropBlanks xs).rdropWhile isBlank :=
    fun _ => rfl
  rw [asDrops, asDrops]
  suffices kept : dropBlanks ((dropBlanks cs).rdropWhile isBlank) =
      (dropBlanks cs).rdropWhile isBlank by
    rw [kept, List.rdropWhile_idempotent]
  obtain ⟨tail, joined⟩ := List.rdropWhile_prefix (p := isBlank) (l := dropBlanks cs)
  match front : (dropBlanks cs).rdropWhile isBlank with
  | [] => rfl
  | c :: rest =>
    rw [front] at joined
    have headNotBlank := List.head?_dropWhile_not isBlank cs
    rw [← dropBlanks, ← joined, List.cons_append, List.head?_cons] at headNotBlank
    exact List.dropWhile_cons_of_neg (by simp [headNotBlank])

end Text

namespace Selection

/-- Compiling the trimmed text is compiling the text. -/
theorem parse_trim (text : String) : parse (Text.trim text) = parse text := by
  simp only [parse, Text.trim, String.toList_ofList, Text.trimBlanks_trimBlanks]

/-- Text that trims to nothing compiles to the empty forest. -/
theorem parse_of_trim_isEmpty {text : String} (blank : (Text.trim text).isEmpty = true) :
    parse text = .ok [] := by
  rw [Text.trim] at blank
  have empty : Text.trimBlanks text.toList = [] := by simpa using blank
  simp [parse, empty]

end Selection

end FieldSelection
