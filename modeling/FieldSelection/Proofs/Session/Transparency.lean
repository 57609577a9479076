import FieldSelection.Proofs.Projection.Uncached
import FieldSelection.Proofs.Decision.Content
import FieldSelection.Proofs.Selection.Compiled
/-!
# The caches are transparent

A session remembers compiled expressions under their trimmed text and decisions under the
identity of the node set, the name of the type and the property. Main statement,
`Session.applyAll_uncached`: from a fresh session, every answer of a run of requests is the
answer `Session.applyUncached` gives, which compiles every expression and makes every decision
afresh, whatever the cache bounds, as long as the registry's type names identify the views it
provides (`Registry.NamesViews`), which is what the decision cache takes for granted when it
keys a decision by a type name. A registry read from a schema does, unless the schema declares a
closed type named `object`, the name the views of untyped objects carry
(`Registry.namesViews_ofSchema`); with such a type, a decision remembered for an untyped object
answers for an object of the declared type.

The proof keeps a `Heap` beside the session, ghost state recording what every list identity
handed out so far stands for. Compilations and pooled lists only ever take fresh identities, so
the heap only grows, and every remembered list and decision stays sound against it:

* a remembered compiled list is what its text compiles to, and the heap holds it
  (`ParserSound`);
* a remembered decision was made under a node set the heap names, and is, up to the identity of
  what it hands down, what `decide` gives for every views table of its type name
  (`EngineSound`).

Against such an engine a decision asked of the engine is the one `decide` gives
(`EngineSound.decide_step`), which makes the engine an `EngineSimulation`; the traversal then
agrees with the uncached one by `EngineSimulation.projectValue_agrees`.
-/

namespace FieldSelection

open Json

/-! ## What list identities stand for -/

/-- What the lists handed out so far stand for: the lists of each compilation by slot, and the
pooled lists by serial number. -/
structure Heap where
  compiled : Nat → Nat → Option (List Node)
  pooled : Nat → Option (List Node)

namespace Heap

/-- The nodes of the list of identity `i`, if it was handed out; the blank list is empty. -/
def find (H : Heap) : ListIdent → Option (List Node)
  | .blank => some []
  | .compiled run slot => H.compiled run slot
  | .pooled serial => H.pooled serial

/-- Nothing handed out yet. -/
def empty : Heap := ⟨fun _ _ => none, fun _ => none⟩

/-- `H'` knows every list `H` knows, as `H` knows it. -/
def Extends (H H' : Heap) : Prop := ∀ i ls, H.find i = some ls → H'.find i = some ls

/-- `H'` is `H` with more pooled lists. -/
structure Pools (H H' : Heap) : Prop where
  compiled : H'.compiled = H.compiled
  pooled : ∀ j ls, H.pooled j = some ls → H'.pooled j = some ls

/-- `H'` is `H` with more compiled lists. -/
structure Compiles (H H' : Heap) : Prop where
  pooled : H'.pooled = H.pooled
  compiled : ∀ r k ls, H.compiled r k = some ls → H'.compiled r k = some ls

theorem Pools.refl (H : Heap) : H.Pools H := ⟨rfl, fun _ _ known => known⟩

theorem Pools.trans {H H' H'' : Heap} (first : H.Pools H') (second : H'.Pools H'') :
    H.Pools H'' :=
  ⟨second.compiled.trans first.compiled,
    fun j ls known => second.pooled j ls (first.pooled j ls known)⟩

theorem Compiles.refl (H : Heap) : H.Compiles H := ⟨rfl, fun _ _ _ known => known⟩

theorem Pools.toExtends {H H' : Heap} (grown : H.Pools H') : H.Extends H' := by
  intro i ls known
  cases i with
  | blank => exact known
  | compiled run slot =>
    show H'.compiled run slot = some ls
    rw [grown.compiled]
    exact known
  | pooled serial => exact grown.pooled serial ls known

theorem Compiles.toExtends {H H' : Heap} (grown : H.Compiles H') : H.Extends H' := by
  intro i ls known
  cases i with
  | blank => exact known
  | compiled run slot => exact grown.compiled run slot ls known
  | pooled serial =>
    show H'.pooled serial = some ls
    rw [grown.pooled]
    exact known

/-- The heap has node set `s`'s list under the list's identity. -/
def Names (H : Heap) : NodeSet → Prop
  | .nodes l => H.find l.ident = some l.nodes
  | _ => True

/-- The heap has list `l` under its identity, and the nested nodes of each of its nodes, at
every depth, under the identity a decision gives them. -/
structure Holds (H : Heap) (l : NodeList) : Prop where
  top : H.find l.ident = some l.nodes
  nested : ∀ n ∈ Node.preorder l.nodes, H.find (.compiled l.run n.slot) = some n.children

/-- The heap holds node set `s`'s list, if it has one. -/
def HoldsSet (H : Heap) : NodeSet → Prop
  | .nodes l => H.Holds l
  | _ => True

theorem names_of_holdsSet {H : Heap} : ∀ {s : NodeSet}, H.HoldsSet s → H.Names s
  | .nodes _, held => held.top
  | .anyDeep, _ | .nothing, _ | .unfiltered, _ | .view _, _ => trivial

theorem Names.mono {H H' : Heap} (grown : H.Extends H') :
    ∀ {s : NodeSet}, H.Names s → H'.Names s
  | .nodes l, named => grown l.ident l.nodes named
  | .anyDeep, _ | .nothing, _ | .unfiltered, _ | .view _, _ => trivial

theorem Holds.mono {H H' : Heap} (grown : H.Extends H') {l : NodeList} (held : H.Holds l) :
    H'.Holds l :=
  ⟨grown _ _ held.top, fun n present => grown _ _ (held.nested n present)⟩

theorem HoldsSet.mono {H H' : Heap} (grown : H.Extends H') :
    ∀ {s : NodeSet}, H.HoldsSet s → H'.HoldsSet s
  | .nodes _, held => Holds.mono grown held
  | .anyDeep, _ | .nothing, _ | .unfiltered, _ | .view _, _ => trivial

/-- Node sets of one key that the heap names select alike. -/
theorem content_eq_of_names {H : Heap} {s t : NodeSet} (named : H.Names s) (named' : H.Names t)
    (sameKey : s.key = t.key) : s.content = t.content := by
  cases s <;> cases t <;>
    simp only [NodeSet.key, reduceCtorEq, SetKey.list.injEq, SetKey.view.injEq] at sameKey
  case nodes.nodes l l' =>
    simp only [Names, sameKey] at named named'
    rw [NodeSet.content_nodes]
    exact Option.some.inj (named.symm.trans named')
  case view.view v v' => rw [sameKey]
  all_goals rfl

/-- A list drawn from a held list is held, once the heap has a pooled one under the pool
identity. -/
theorem Holds.handsDown {H : Heap} {l l' : NodeList} {pool : ListIdent} (held : H.Holds l)
    (drawn : l.HandsDown pool l') (pooledKnown : H.find pool = some l'.nodes) : H.Holds l' := by
  cases drawn with
  | whole => exact held
  | nested present =>
    have deep := Node.mem_preorder_of_mem present
    exact ⟨held.nested _ deep, fun m below =>
      held.nested m (Node.preorder_children_subset _ deep below)⟩
  | pooled chosen =>
    exact ⟨pooledKnown, fun m below => held.nested m (Node.preorder_flatMap_subset chosen below)⟩

/-- A decision under a held node set hands down a held one, once the heap has a pooled list
under the pool identity. -/
theorem holdsSet_decide {H : Heap} {s : NodeSet} {p : String} {info : TypeViews}
    {cfg : FilterConfig} {pool : ListIdent} (held : H.HoldsSet s)
    (pooledKnown : ∀ l', (decide s p info cfg pool).children = .nodes l' →
      H.find pool = some l'.nodes) :
    H.HoldsSet (decide s p info cfg pool).children := by
  cases handed : (decide s p info cfg pool).children with
  | nodes l' =>
    obtain ⟨l, rfl, drawn⟩ := decide_handsDown handed
    exact Holds.handsDown held drawn (pooledKnown l' handed)
  | anyDeep | nothing | unfiltered | view _ => trivial

/-! ## Handing out lists -/

/-- The heap with `ls` as pooled list number `j`. -/
def pool (H : Heap) (j : Nat) (ls : List Node) : Heap :=
  { H with pooled := fun k => if k = j then some ls else H.pooled k }

theorem pools_pool {H : Heap} {j : Nat} (fresh : H.pooled j = none) (ls : List Node) :
    H.Pools (H.pool j ls) := by
  refine ⟨rfl, fun k ks known => ?_⟩
  have other : k ≠ j := by
    rintro rfl
    rw [fresh] at known
    cases known
  show (if k = j then some ls else H.pooled k) = some ks
  rw [if_neg other]
  exact known

/-- The lists of one compiled forest by slot: the forest at slot zero, and the nested nodes of
each of its nodes, at every depth, at the node's slot. -/
def forestList (ns : List Node) (slot : Nat) : Option (List Node) :=
  if slot = 0 then some ns else ((Node.preorder ns).find? (·.slot == slot)).map Node.children

/-- The heap with the lists of forest `ns` as compilation number `run`. -/
def compile (H : Heap) (run : Nat) (ns : List Node) : Heap :=
  { H with compiled := fun r k => if r = run then forestList ns k else H.compiled r k }

theorem compiles_compile {H : Heap} {run : Nat} (fresh : ∀ k, H.compiled run k = none)
    (ns : List Node) : H.Compiles (H.compile run ns) := by
  refine ⟨rfl, fun r k ls known => ?_⟩
  have other : r ≠ run := by
    rintro rfl
    rw [fresh] at known
    cases known
  show (if r = run then forestList ns k else H.compiled r k) = some ls
  rw [if_neg other]
  exact known

/-- A numbered forest is held once it is handed out as a compilation: its slots name its lists
without clashes. -/
theorem holds_compile (H : Heap) (run : Nat) {ns : List Node} (numbered : Node.Numbered ns) :
    (H.compile run ns).Holds ⟨.compiled run 0, run, ns⟩ := by
  refine ⟨by simp [find, compile, forestList], fun n present => ?_⟩
  show (if run = run then forestList ns n.slot else H.compiled run n.slot) = some n.children
  rw [if_pos rfl, forestList, if_neg (Nat.pos_iff_ne_zero.1 (numbered.positive n present))]
  obtain ⟨m, found⟩ : ∃ m, (Node.preorder ns).find? (·.slot == n.slot) = some m := by
    refine Option.ne_none_iff_exists'.1 fun missing => ?_
    have := List.find?_eq_none.1 missing n present
    simp at this
  have sameSlot : m.slot = n.slot := by simpa using List.find?_some found
  rw [found, numbered.eq_of_slot (List.mem_of_find?_eq_some found) present sameSlot]
  rfl

end Heap

/-! ## What the caches keep true -/

/-- The registry's type names identify the views tables it provides: two provided tables of one
name are the same table. -/
def Registry.NamesViews (reg : Registry) : Prop :=
  ∀ info info' : TypeViews, reg.Provides info → reg.Provides info' →
    info.typeName = info'.typeName → info = info'

/-- The nodes of a node set's list; none for the other kinds. -/
def NodeSet.listed : NodeSet → List Node
  | .nodes l => l.nodes
  | _ => []

theorem NodeSet.isAnyDeep_content (s : NodeSet) : s.content.isAnyDeep = s.isAnyDeep := by
  cases s <;> rfl

theorem NodeSet.eq_anyDeep_of_isAnyDeep : ∀ {s : NodeSet}, s.isAnyDeep = true → s = .anyDeep
  | .anyDeep, _ => rfl
  | .nodes _, h | .nothing, h | .unfiltered, h | .view _, h => by cases h

theorem NodeSet.eq_anyDeep_of_content : ∀ {s : NodeSet}, s.content = .anyDeep → s = .anyDeep
  | .anyDeep, _ => rfl
  | .nodes _, h | .nothing, h | .unfiltered, h | .view _, h => by cases h

section Soundness

variable (reg : Registry) (cfg : FilterConfig)

/-- A remembered decision is sound against heap `H`: the heap holds what it hands down, and it
was made under a node set of the key's kind and identity that the heap names, where it is, up
to the identity of what it hands down, what `decide` gives for every views table of the key's
type name that the registry provides. -/
def EntrySound (H : Heap) (k : DecisionKey) (d : Decision) : Prop :=
  H.HoldsSet d.children ∧ ∃ s : NodeSet, s.key = k.1 ∧ H.Names s ∧
    ∀ info, info.typeName = k.2.1 → reg.Provides info →
      d.content = (decide s k.2.2 info cfg).content

/-- What an engine keeps true against heap `H`. -/
structure EngineSound (H : Heap) (e : Engine) : Prop where
  /-- the engine decides under the settings `cfg` -/
  config : e.config = cfg
  /-- every remembered decision is sound -/
  entries : e.cache.AllEntries (EntrySound reg cfg H)
  /-- the serial numbers the engine will pool under are unused -/
  fresh : ∀ j, e.pooled ≤ j → H.pooled j = none

/-- What an expression cache keeps true against heap `H`. -/
structure ParserSound (H : Heap) (c : ExpressionCache) : Prop where
  /-- a remembered list is what its text compiles to, and the heap holds it -/
  entries : c.cache.AllEntries fun text l => Selection.parse text = .ok l.nodes ∧ H.Holds l
  /-- the compilation numbers to come are unused -/
  fresh : ∀ r k, c.runs < r → H.compiled r k = none

/-- What a session keeps true against heap `H`. -/
structure SessionSound (H : Heap) (s : Session) : Prop where
  registry : s.registry = reg
  parser : ParserSound H s.parser
  engine : EngineSound reg cfg H s.engine

theorem sessionSound_new : SessionSound reg cfg Heap.empty (Session.new reg cfg) where
  registry := rfl
  parser := ⟨fun _ absent => (by cases absent), fun _ _ _ => rfl⟩
  engine := ⟨rfl, fun _ absent => (by cases absent), fun _ _ => rfl⟩

variable {reg cfg}

theorem EntrySound.mono {H H' : Heap} (grown : H.Extends H') {k : DecisionKey} {d : Decision}
    (sound : EntrySound reg cfg H k d) : EntrySound reg cfg H' k d := by
  obtain ⟨held, s, key, named, decided⟩ := sound
  exact ⟨held.mono grown, s, key, named.mono grown, decided⟩

theorem EngineSound.mono {H H' : Heap} (grown : H.Compiles H') {e : Engine}
    (kept : EngineSound reg cfg H e) : EngineSound reg cfg H' e where
  config := kept.config
  entries := kept.entries.mono fun _ _ sound => sound.mono grown.toExtends
  fresh j later := by rw [grown.pooled]; exact kept.fresh j later

theorem ParserSound.mono {H H' : Heap} (grown : H.Pools H') {c : ExpressionCache}
    (kept : ParserSound H c) : ParserSound H' c where
  entries := kept.entries.mono fun _ _ ⟨compiled, held⟩ => ⟨compiled, held.mono grown.toExtends⟩
  fresh r k later := by rw [grown.compiled]; exact kept.fresh r k later

/-! ## Compiling through the cache -/

/-- Compiling through a sound cache answers what compiling afresh answers, with a list the heap
holds, and keeps the cache sound against a heap with at most one more compilation. -/
theorem ParserSound.parse_step {H : Heap} {c : ExpressionCache} (kept : ParserSound H c)
    (text : String) :
    ∃ H', H.Compiles H' ∧ ParserSound H' (c.parse text).2 ∧
      (∀ e, (c.parse text).1 = .error e → Selection.parse text = .error e) ∧
      (∀ l, (c.parse text).1 = .ok l → Selection.parse text = .ok l.nodes ∧ H'.Holds l) := by
  unfold ExpressionCache.parse
  dsimp only
  split
  · rename_i blank
    refine ⟨H, .refl H, kept, fun _ answered => (by cases answered), fun l answered => ?_⟩
    cases answered
    exact ⟨Selection.parse_of_trim_isEmpty blank, rfl, by simp [ExpressionCache.blankList]⟩
  · have keptCache := Lru.allEntries_get kept.entries (Text.trim text)
    rcases found : c.cache.get (Text.trim text) with ⟨_ | l, lru⟩ <;>
      rw [found] at keptCache <;> simp only
    · rcases compiled : Selection.parse (Text.trim text) with e | nodes <;> simp only
      · refine ⟨H, .refl H, ⟨keptCache, kept.fresh⟩, fun _ answered => ?_,
          fun _ answered => (by cases answered)⟩
        cases answered
        rw [← Selection.parse_trim, compiled]
      · have fresh : ∀ k, H.compiled (c.runs + 1) k = none :=
          fun k => kept.fresh (c.runs + 1) k (Nat.lt_succ_self _)
        have grown := Heap.compiles_compile fresh nodes
        have held := Heap.holds_compile H (c.runs + 1) (Selection.numbered_parse compiled)
        refine ⟨H.compile (c.runs + 1) nodes, grown, ⟨?_, fun r k later => ?_⟩,
          fun _ answered => (by cases answered), fun l answered => ?_⟩
        · exact Lru.allEntries_insert
            (keptCache.mono fun _ _ ⟨parsed, held'⟩ => ⟨parsed, held'.mono grown.toExtends⟩)
            ⟨compiled, held⟩
        · have later : c.runs + 1 < r := later
          show (if r = c.runs + 1 then _ else H.compiled r k) = none
          rw [if_neg (by omega)]
          exact kept.fresh r k (by omega)
        · cases answered
          exact ⟨by rw [← Selection.parse_trim, compiled], held⟩
    · obtain ⟨x, mem, sameKey, rfl⟩ := Lru.get_found (v := l) (by rw [found])
      obtain ⟨parsed, held⟩ := kept.entries x mem
      rw [beq_iff_eq.1 sameKey, Selection.parse_trim] at parsed
      exact ⟨H, .refl H, ⟨keptCache, kept.fresh⟩, fun _ answered => (by cases answered),
        fun l answered => (by cases answered; exact ⟨parsed, held⟩)⟩

/-- Building a request through a sound cache selects what the freshly compiled expression
selects, with a set the heap holds, and keeps the cache sound. -/
theorem ParserSound.build_step {H : Heap} {c : ExpressionCache} (kept : ParserSound H c)
    (filter : Option String) (root : String) :
    ∃ H', H.Compiles H' ∧ ParserSound H' (Context.build c filter root).2 ∧
      (∀ e, (Context.build c filter root).1 = .error e → NodeSet.ofExpression filter = .error e) ∧
      (∀ x, (Context.build c filter root).1 = .ok x → x.rootType = root ∧ H'.HoldsSet x.nodes ∧
        ∃ t, NodeSet.ofExpression filter = .ok t ∧ x.nodes.content = t.content) := by
  unfold Context.build
  cases filter with
  | none =>
    refine ⟨H, .refl H, kept, fun _ answered => (by cases answered), fun x answered => ?_⟩
    cases answered
    exact ⟨rfl, trivial, .anyDeep, rfl, rfl⟩
  | some f =>
    dsimp only
    split
    · rename_i anyDeep
      refine ⟨H, .refl H, kept, fun _ answered => (by cases answered), fun x answered => ?_⟩
      cases answered
      exact ⟨rfl, trivial, .anyDeep, by simp [NodeSet.ofExpression, anyDeep], rfl⟩
    · rename_i notAnyDeep
      obtain ⟨H', grown, kept', failed, compiled⟩ := kept.parse_step f
      have fresh : NodeSet.ofExpression (some f) =
          (Selection.parse f).map fun nodes => .nodes (NodeList.ofForest nodes) := by
        simp [NodeSet.ofExpression, notAnyDeep]
      rcases parsed : c.parse f with ⟨e | l, c'⟩ <;> rw [parsed] at failed compiled kept' <;>
        refine ⟨H', grown, kept', fun _ answered => ?_, fun x answered => ?_⟩ <;>
        cases answered
      · rw [fresh, failed e rfl]
        rfl
      · obtain ⟨same, held⟩ := compiled l rfl
        exact ⟨rfl, held, .nodes (NodeList.ofForest l.nodes), by rw [fresh, same]; rfl, rfl⟩

/-! ## The engine stands in for `decide` -/

/-- A decision asked of a sound engine, under a node set the heap holds, is the one `decide`
gives under any set that selects alike, up to the identity of what it hands down; the heap then
holds that, and the engine stays sound against a heap with at most one more pooled list. -/
theorem EngineSound.decide_step (names : reg.NamesViews) {H : Heap} {e : Engine}
    {s t : NodeSet} (kept : EngineSound reg cfg H e) (held : H.HoldsSet s)
    (same : s.content = t.content) (p : String) {info : TypeViews} (provided : reg.Provides info) :
    ∃ H', H.Pools H' ∧ EngineSound reg cfg H' (e.decide s p info).2 ∧
      (e.decide s p info).1.content = (decide t p info cfg).content ∧
      H'.HoldsSet (e.decide s p info).1.children := by
  rcases e.decide_cases s p info with ⟨anyDeep, bypass⟩ | ⟨d, c, found, ran⟩ | ⟨c, missed, ran⟩
  · obtain rfl := NodeSet.eq_anyDeep_of_isAnyDeep anyDeep
    obtain rfl := NodeSet.eq_anyDeep_of_content same.symm
    rw [bypass]
    exact ⟨H, .refl H, kept, by rw [decide_anyDeep], trivial⟩
  · obtain ⟨x, mem, sameKey, rfl⟩ := Lru.get_found (v := d) (by rw [found])
    have entry := kept.entries x mem
    rw [beq_iff_eq.1 sameKey] at entry
    obtain ⟨heldChildren, s₀, key₀, named₀, decided₀⟩ := entry
    have alike : s₀.content = t.content :=
      (Heap.content_eq_of_names named₀ (Heap.names_of_holdsSet held) key₀).trans same
    have keptCache := Lru.allEntries_get kept.entries (s.key, info.typeName, p)
    rw [found] at keptCache
    rw [ran]
    refine ⟨H, .refl H, ⟨kept.config, keptCache, kept.fresh⟩, ?_, heldChildren⟩
    rw [decided₀ info rfl provided]
    exact decide_congr alike p info cfg _ _
  · let d := FieldSelection.decide s p info e.config (.pooled e.pooled)
    let H' := H.pool e.pooled d.children.listed
    have grown : H.Pools H' := Heap.pools_pool (kept.fresh e.pooled (Nat.le_refl _)) _
    have heldChildren : H'.HoldsSet d.children :=
      Heap.holdsSet_decide (held.mono grown.toExtends) fun l' handed => by
        show (if e.pooled = e.pooled then some d.children.listed else H.pooled e.pooled) =
          some l'.nodes
        rw [if_pos rfl, handed]
        rfl
    have sound : EntrySound reg cfg H' (s.key, info.typeName, p) d := by
      refine ⟨heldChildren, s, rfl, (Heap.names_of_holdsSet held).mono grown.toExtends,
        fun info' sameName provided' => ?_⟩
      obtain rfl := names _ _ provided' provided sameName
      rw [← kept.config]
      exact decide_congr rfl p info' e.config _ _
    have keptCache := Lru.allEntries_get kept.entries (s.key, info.typeName, p)
    rw [missed] at keptCache
    rw [ran]
    refine ⟨H', grown, ⟨kept.config,
      Lru.allEntries_insert (keptCache.mono fun _ _ old => old.mono grown.toExtends) sound,
      fun j later => ?_⟩, ?_, heldChildren⟩
    · have later : e.pooled + 1 ≤ j := later
      show (if j = e.pooled then some d.children.listed else H.pooled j) = none
      rw [if_neg (by omega)]
      exact kept.fresh j (by omega)
    · rw [← kept.config]
      exact decide_congr same p info e.config _ _

/-- A sound engine stands in for `decide` on node sets the heap holds, as long as type names
identify the views the registry provides. -/
def cacheSimulation (names : reg.NamesViews) : EngineSimulation reg cfg where
  World := Heap
  grows := Heap.Pools
  grows_refl := Heap.Pools.refl
  grows_trans := Heap.Pools.trans
  inv H e := EngineSound reg cfg H e
  rel H s t := H.HoldsSet s ∧ s.content = t.content
  rel_grows grown related := ⟨related.1.mono grown.toExtends, related.2⟩
  inv_notes _ kept := ⟨kept.config, kept.entries, kept.fresh⟩
  decide_step p _ kept related provided := by
    obtain ⟨H', grown, kept', decided, held'⟩ :=
      kept.decide_step names related.1 related.2 p provided
    have included := congrArg Decision.included decided
    have below := congrArg Decision.children decided
    exact ⟨H', grown, kept', included, held', below⟩

/-! ## Requests -/

/-- A request's projection from a sound engine answers what the uncached traversal answers under
any node set that selects alike. -/
theorem EngineSound.filterValue_step (names : reg.NamesViews) {H : Heap} {e : Engine}
    (kept : EngineSound reg cfg H e) {x : Context} {t : NodeSet} (held : H.HoldsSet x.nodes)
    (alike : x.nodes.content = t.content) (doc : Value) :
    ∃ H' e', H.Pools H' ∧ EngineSound reg cfg H' e' ∧
      Projecting.exec (filterValue reg x doc) e =
        (if reg.contains x.rootType then Uncached.projectValue reg cfg t (some x.rootType) doc
          else .error (.unknownType x.rootType), e') := by
  unfold filterValue
  by_cases known : reg.contains x.rootType = true
  · rw [if_pos known, if_pos known]
    exact (cacheSimulation names).projectValue_agrees x.nodes (some x.rootType) doc kept
      ⟨held, alike⟩
  · rw [if_neg known, if_neg known]
    exact ⟨H, e, .refl H, kept, rfl⟩

/-- A request through a sound session answers what it answers with everything compiled and
decided afresh, and leaves the session sound against a grown heap. -/
theorem SessionSound.apply_step (names : reg.NamesViews) {H : Heap} {s : Session}
    (kept : SessionSound reg cfg H s) (filter root : Option String) (doc : Value) :
    ∃ H', SessionSound reg cfg H' (s.apply filter root doc).2 ∧
      (s.apply filter root doc).1 = Session.applyUncached reg cfg filter root doc := by
  have registry := kept.registry
  subst registry
  unfold Session.apply Session.applyUncached
  cases root <|> s.registry.root with
  | none => exact ⟨H, kept, rfl⟩
  | some r =>
    dsimp only
    obtain ⟨H1, compiled, parserKept, failed, built⟩ := kept.parser.build_step filter r
    have engineKept := kept.engine.mono compiled
    rcases building : Context.build s.parser filter r with ⟨e | x, p⟩ <;>
      rw [building] at parserKept failed built <;> dsimp only
    · rw [failed e rfl]
      exact ⟨H1, ⟨rfl, parserKept, engineKept⟩, rfl⟩
    · obtain ⟨rooted, held, t, fresh, alike⟩ := built x rfl
      subst rooted
      obtain ⟨H2, e', grown, engineKept', ran⟩ :=
        engineKept.filterValue_step names held alike doc
      have ran' : ((filterValue s.registry x doc).run).run s.engine = _ := ran
      have filtering : x.filteringEnabled = !t.isAnyDeep := by
        rw [Context.filteringEnabled, ← NodeSet.isAnyDeep_content, alike,
          NodeSet.isAnyDeep_content]
      have kept' : SessionSound s.registry cfg H2 { s with parser := p, engine := e' } :=
        ⟨rfl, parserKept.mono grown, engineKept'⟩
      rw [fresh, ran']
      dsimp only
      by_cases known : s.registry.contains x.rootType = true
      · rw [if_pos known, if_pos known]
        cases Uncached.projectValue s.registry cfg t (some x.rootType) doc with
        | ok v => exact ⟨H2, kept', by rw [filtering]⟩
        | error err => exact ⟨H2, kept', rfl⟩
      · rw [if_neg known, if_neg known]
        exact ⟨H2, kept', rfl⟩

/-- One request of a run: its expression, its root type and its document. -/
structure Request where
  filter : Option String
  root : Option String
  document : Value

/-- The answers to a run of requests, each through the session the one before leaves, and the
session after the last. -/
def Session.applyAll (s : Session) : List Request → List (Except ApplyError Applied) × Session
  | [] => ([], s)
  | r :: rs =>
    let step := s.apply r.filter r.root r.document
    let rest := step.2.applyAll rs
    (step.1 :: rest.1, rest.2)

/-- The answer to a request with everything compiled and decided afresh. -/
def Request.answerUncached (reg : Registry) (cfg : FilterConfig) (r : Request) :
    Except ApplyError Applied :=
  Session.applyUncached reg cfg r.filter r.root r.document

/-- Every answer of a run through a sound session is the uncached one. -/
theorem SessionSound.applyAll (names : reg.NamesViews) :
    ∀ (rs : List Request) {H : Heap} {s : Session}, SessionSound reg cfg H s →
      (s.applyAll rs).1 = rs.map (Request.answerUncached reg cfg)
  | [], _, _, _ => rfl
  | r :: rs, _, s, kept => by
    obtain ⟨H', kept', answered⟩ := kept.apply_step names r.filter r.root r.document
    show (s.apply r.filter r.root r.document).1 ::
      ((s.apply r.filter r.root r.document).2.applyAll rs).1 = _
    rw [answered, SessionSound.applyAll names rs kept', List.map_cons]
    rfl

end Soundness

/-! ## Registries read from a schema -/

/-- Every registered type's views carry its name, and a type named `object` has the views of
untyped objects. -/
def Registry.Consistent (reg : Registry) : Prop :=
  ∀ n e, (n, e) ∈ reg.types → e.views.typeName = n ∧ (n = "object" → e.views = Registry.untyped)

theorem TypeDecl.typeName_viewsUnder (t : TypeDecl) (cfg : FilterConfig) :
    (t.viewsUnder cfg).typeName = t.name := by
  unfold TypeDecl.viewsUnder
  split <;> rfl

/-- An entry of a registry after registering `t` is an entry from before, or `t`'s own. -/
theorem Registry.mem_register {reg : Registry} {t : TypeDecl} {n : String} {e : RegisteredType}
    (mem : (n, e) ∈ (reg.register t).types) :
    (n, e) ∈ reg.types ∨ n = t.name ∧ e = ⟨t.viewsUnder reg.config, t.fields⟩ := by
  unfold Registry.register at mem
  split at mem
  · obtain ⟨⟨n₀, e₀⟩, mem₀, replaced⟩ := List.mem_map.1 mem
    dsimp only at replaced
    by_cases same : (n₀ == t.name) = true
    · rw [if_pos same] at replaced
      cases replaced
      exact .inr ⟨beq_iff_eq.1 same, rfl⟩
    · rw [if_neg same] at replaced
      cases replaced
      exact .inl mem₀
  · rcases List.mem_append.1 mem with old | added
    · exact .inl old
    · simp only [List.mem_singleton, Prod.mk.injEq] at added
      exact .inr added

/-- Registering a type keeps a registry consistent, unless it is a closed type named
`object`. -/
theorem Registry.consistent_register {reg : Registry} (kept : reg.Consistent) {t : TypeDecl}
    (openObject : t.name = "object" → t.isOpen = true) : (reg.register t).Consistent := by
  intro n e mem
  rcases Registry.mem_register mem with old | ⟨rfl, rfl⟩
  · exact kept n e old
  · refine ⟨t.typeName_viewsUnder _, fun named => ?_⟩
    rw [TypeDecl.viewsUnder, if_pos (openObject named), named]
    rfl

theorem Registry.consistent_foldl {types : List TypeDecl}
    (openObject : ∀ t ∈ types, t.name = "object" → t.isOpen = true) :
    ∀ {reg : Registry}, reg.Consistent → (types.foldl Registry.register reg).Consistent := by
  induction types with
  | nil => exact fun kept => kept
  | cons t ts ih =>
    intro reg kept
    exact ih (fun u mem => openObject u (List.mem_cons_of_mem t mem))
      (Registry.consistent_register kept (openObject t List.mem_cons_self))

/-- The views a consistent registry describes a type with carry the type's name. -/
theorem Registry.Consistent.introspect {reg : Registry} (kept : reg.Consistent) {n : String}
    {info : TypeViews} (described : reg.introspect n = .ok info) :
    info.typeName = n ∧ (n = "object" → info = Registry.untyped) := by
  unfold Registry.introspect at described
  split at described
  · rename_i e found
    cases described
    obtain ⟨before, after, split, -⟩ := List.lookup_eq_some_iff.1 found
    exact kept n e (by rw [split]; exact List.mem_append_right _ List.mem_cons_self)
  · cases described

/-- A consistent registry identifies views by type name: a name looks up one entry, and an
entry named `object` holds the views of untyped objects. -/
theorem Registry.Consistent.namesViews {reg : Registry} (kept : reg.Consistent) :
    reg.NamesViews := by
  intro info info' provided provided' sameName
  rcases provided with ⟨n, found⟩ | rfl <;> rcases provided' with ⟨n', found'⟩ | rfl
  · obtain ⟨named, -⟩ := kept.introspect found
    obtain ⟨named', -⟩ := kept.introspect found'
    obtain rfl : n = n' := named.symm.trans (sameName.trans named')
    rw [found] at found'
    cases found'
    rfl
  · exact (kept.introspect found).2 ((kept.introspect found).1.symm.trans sameName)
  · exact ((kept.introspect found').2 ((kept.introspect found').1.symm.trans sameName.symm)).symm
  · rfl

/-- A registry read from a schema identifies views by type name, unless the schema declares a
closed type named `object`. -/
theorem Registry.namesViews_ofSchema (sf : SchemaFile) (cfg : FilterConfig)
    (openObject : ∀ t ∈ sf.types, t.name = "object" → t.isOpen = true) :
    (Registry.ofSchemaUnchecked sf cfg).NamesViews := by
  have empty : (Registry.empty cfg).Consistent := fun _ _ absent => by cases absent
  exact Registry.Consistent.namesViews (Registry.consistent_foldl openObject empty)

/-! ## The caches are transparent -/

/-- From a fresh session, every answer of a run of requests is the answer with everything
compiled and decided afresh, whatever the cache bounds, when the registry's type names identify
the views it provides. -/
theorem Session.applyAll_uncached (reg : Registry) (cfg : FilterConfig) (names : reg.NamesViews)
    (requests : List Request) :
    ((Session.new reg cfg).applyAll requests).1 = requests.map (Request.answerUncached reg cfg) :=
  (sessionSound_new reg cfg).applyAll names requests

/-- A schema with an open type named `object`, and a type `T` with an untyped member `u` and a
member `o` of type `object`. -/
def openObjectSchema : SchemaFile :=
  { types := [{ name := "T", fields := [{ name := "u" }, { name := "o", valueType := some "object" }] },
      { name := "object", isOpen := true }] }

/-- Two requests that share the session, over a schema that declares an open type named
`object`. -/
theorem Session.applyAll_uncached_openObject :
    (Registry.ofSchemaUnchecked openObjectSchema {}).NamesViews ∧
      ((Session.new (Registry.ofSchemaUnchecked openObjectSchema {}) {}).applyAll
        [⟨some "u,o", some "T", .object [("u", .object [("p", .ofInt 1)]),
            ("o", .object [("p", .ofInt 2)])]⟩,
          ⟨some " u , o ", some "T", .object [("o", .object [("p", .ofInt 3)])]⟩]).1 =
        [⟨some "u,o", some "T", .object [("u", .object [("p", .ofInt 1)]),
            ("o", .object [("p", .ofInt 2)])]⟩,
          ⟨some " u , o ", some "T", .object [("o", .object [("p", .ofInt 3)])]⟩].map
          (Request.answerUncached (Registry.ofSchemaUnchecked openObjectSchema {}) {}) := by
  have names : (Registry.ofSchemaUnchecked openObjectSchema {}).NamesViews :=
    Registry.namesViews_ofSchema openObjectSchema {} (by decide)
  exact ⟨names, Session.applyAll_uncached _ {} names _⟩

end FieldSelection
