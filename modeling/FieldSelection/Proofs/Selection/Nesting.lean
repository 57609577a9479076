import FieldSelection.Proofs.Selection.Boundaries
import FieldSelection.Cli.Program
/-!
# Nested lists start past the list around them

A nested list is read from the offset just past its opening bracket, once for each field of the
field list before it: after the first field the reader rewinds to that offset. Each of these
readings starts strictly past the offset at which the list around it started, since the
expression that carries the brackets reads at least its first field before them.

To say which offsets nested lists are read from, the reader is written once more with the
reading of nested lists left open (`Reader.expressionListWith`): `inner` reads them. With
`inner` the reader itself, this is the reader (`Reader.expressionList_eq_with`). Any other
`inner` that agrees with it on every state at a boundary strictly past the start of a list
leaves the reading of the list unchanged (`Reader.expressionList_eq_with_of_agree`), so the
reader never reads a nested list at or before the start of the list around it.

`Selection.parse_terminates_in_bounds` gathers this with the boundaries every step of the reader
keeps (`Reader.reading_keepsToBoundaries`), the bound on its fuel
(`Reader.expressionList_fuel_eq`), the caret of its faults (`describeSelectionError_caret`) and
the paths it puts fields under, which keep naming nodes (`Draft.nodeAt?_addChild_child`).
-/

namespace FieldSelection.Selection

namespace Cursor

variable {t : List Char} {c c' : Cursor}

theorem utf8Length_pos : ∀ {cs : List Char}, cs ≠ [] → 0 < Text.utf8Length cs
  | c :: cs, _ => by
    rw [Text.utf8Length_cons, Text.utf8Width]
    have := Char.utf8Size_pos c
    omega

/-- Of two cursors at boundaries, the one with less text unread is at least as far. -/
theorem Fits.pos_le (fits : c.Fits t) (fits' : c'.Fits t)
    (shorter : c'.rest.length ≤ c.rest.length) : c.pos ≤ c'.pos := by
  obtain ⟨k, within, rest, pos⟩ := fits
  obtain ⟨k', within', rest', pos'⟩ := fits'
  have later : k ≤ k' := by
    rw [rest, rest', List.length_drop, List.length_drop] at shorter
    omega
  rw [pos, pos', show k' = k + (k' - k) by omega, List.take_add, Text.utf8Length_append]
  omega

/-- Of two cursors at boundaries, the one with strictly less text unread is strictly farther. -/
theorem Fits.pos_lt (fits : c.Fits t) (fits' : c'.Fits t)
    (shorter : c'.rest.length < c.rest.length) : c.pos < c'.pos := by
  obtain ⟨k, within, rest, pos⟩ := fits
  obtain ⟨k', within', rest', pos'⟩ := fits'
  have later : k < k' := by
    rw [rest, rest', List.length_drop, List.length_drop] at shorter
    omega
  have read : (t.drop k).take (k' - k) ≠ [] := by
    rw [← List.length_pos_iff, List.length_take, List.length_drop]
    omega
  have wide := utf8Length_pos read
  rw [pos, pos', show k' = k + (k' - k) by omega, List.take_add, Text.utf8Length_append]
  omega

theorem pos_le_skipBlanks (c : Cursor) : c.pos ≤ c.skipBlanks.pos := Nat.le_add_right _ _

theorem pos_le_bump (c : Cursor) : c.pos ≤ c.bump.pos := by
  obtain ⟨rest, pos⟩ := c
  cases rest with
  | nil => exact le_rfl
  | cons ch rest => exact Nat.le_add_right _ _

theorem pos_lt_bump {c : Cursor} (ahead : c.rest ≠ []) : c.pos < c.bump.pos := by
  obtain ⟨rest, pos⟩ := c
  cases rest with
  | nil => exact absurd rfl ahead
  | cons ch rest =>
    show pos < pos + ch.utf8Size
    have := Char.utf8Size_pos ch
    omega

end Cursor

namespace Reader

/-- The reader of the nested list of a field under `node`, closed by `close`. -/
def nestedList (node : List String) (close : Char) (fuel : Nat) : ReadM Unit :=
  expressionList node (some close) fuel

/-- `nestedEach`, with the nested list read by `inner`. -/
def nestedEachWith (inner : List String → Char → Nat → ReadM Unit) (parent : List String)
    (close : Char) (start : Cursor) : List Field → Nat → ReadM Unit
  | [], _ => pure ()
  | _, 0 => failUnexpected .field
  | f :: rest, fuel + 1 => do
    let node ← addChild parent f.matcher {}
    modify fun r => { r with cursor := start }
    brace node
    inner node close fuel
    nestedEachWith inner parent close start rest fuel

/-- `attach`, with the nested lists read by `inner`. -/
def attachWith (inner : List String → Char → Nat → ReadM Unit) (parent : List String)
    (fields : List Field) : Nat → ReadM Unit
  | 0 => failUnexpected .field
  | fuel + 1 => do
    match closer (← peek) with
    | none =>
      for f in fields do
        let _ ← addChild parent f.matcher {}
    | some close =>
      bump
      let start := (← get).cursor
      let empty := (← peek) == some close
      if empty then
        for f in fields do
          let _ ← addChild parent f.matcher { emptyNested := true }
        bump
      else
        nestedEachWith inner parent close start fields fuel

/-- `expression`, with the nested lists read by `inner`. -/
def expressionWith (inner : List String → Char → Nat → ReadM Unit) (parent : List String) :
    Nat → ReadM Unit
  | 0 => failUnexpected .field
  | fuel + 1 => do
    match ← peek with
    | some '-' => bump; negated parent
    | some '(' =>
      bump
      let fields ← fieldList ((← get).cursor.rest.length + 1) []
      attachWith inner parent fields fuel
    | _ =>
      let steps ← path
      match steps.reverse with
      | [] => failUnexpected .field
      | last :: before =>
        let parent ← do
          if before.isEmpty then pure parent
          else
            brace parent
            pathPrefix parent before.reverse
        attachWith inner parent [last] fuel

/-- `expressionList`, with the nested lists of its expressions read by `inner`. -/
def expressionListWith (inner : List String → Char → Nat → ReadM Unit) (parent : List String)
    (close : Option Char) : Nat → ReadM Unit
  | 0 => failUnexpected .field
  | fuel + 1 => do
    expressionWith inner parent fuel
    match ← peek with
    | some ',' => bump; expressionListWith inner parent close fuel
    | some c =>
      if some c == close then bump
      else failUnexpected (match close with
        | some k => .commaOrClose k
        | none => .commaOrEnd)
    | none =>
      match close with
      | none => pure ()
      | some k => failUnexpected (.commaOrClose k)

/-! ## The reader is the open reader closed by itself -/

theorem nestedEach_eq_with (parent : List String) (close : Char) (start : Cursor) :
    ∀ (fields : List Field) (fuel : Nat),
      nestedEach parent close start fields fuel =
        nestedEachWith nestedList parent close start fields fuel
  | [], _ => by simp only [nestedEach, nestedEachWith]
  | _ :: _, 0 => by simp only [nestedEach, nestedEachWith]
  | f :: rest, fuel + 1 => by
    simp only [nestedEach, nestedEachWith, nestedEach_eq_with parent close start rest fuel,
      nestedList]

theorem attach_eq_with (parent : List String) (fields : List Field) :
    ∀ fuel, attach parent fields fuel = attachWith nestedList parent fields fuel
  | 0 => by simp only [attach, attachWith]
  | fuel + 1 => by
    have same : nestedEach parent = nestedEachWith nestedList parent :=
      funext fun close => funext fun start => funext fun fields => funext fun fuel =>
        nestedEach_eq_with parent close start fields fuel
    rw [attach, same]
    rfl

theorem expression_eq_with (parent : List String) :
    ∀ fuel, expression parent fuel = expressionWith nestedList parent fuel
  | 0 => by simp only [expression, expressionWith]
  | fuel + 1 => by
    have same : attach = attachWith nestedList :=
      funext fun parent => funext fun fields => funext (attach_eq_with parent fields)
    rw [expression, same]
    rfl

theorem expressionList_eq_with (parent : List String) (close : Option Char) :
    ∀ fuel, expressionList parent close fuel = expressionListWith nestedList parent close fuel
  | 0 => by simp only [expressionList, expressionListWith]
  | fuel + 1 => by
    have same : expression = expressionWith nestedList :=
      funext fun parent => funext (expression_eq_with parent)
    rw [expressionList.eq_def]
    dsimp only
    rw [same, expressionList_eq_with parent close fuel]
    rfl

/-! ## Every step keeps to boundaries -/

/-- A reading step keeps to the boundaries of `t`: started at one, it stops at one with its
result, or reports its fault at one. -/
def KeepsToBoundaries {α : Type} (t : List Char) (m : ReadM α) : Prop :=
  ∀ r : Reading, r.cursor.Fits t → Lands t (fun _ => True) (m.run r)

theorem Lands.weaken {α : Type} {t : List Char} {P Q : α → Prop}
    {out : Except SelectionError (α × Reading)} (lands : Lands t P out)
    (implies : ∀ a, P a → Q a) : Lands t Q out :=
  ⟨fun a r' ran => ⟨implies a (lands.1 a r' ran).1, (lands.1 a r' ran).2⟩, lands.2⟩

/-- Every step of the reader keeps to the boundaries of the text it reads, the nested lists read
again from one start included. -/
theorem reading_keepsToBoundaries (t : List Char) :
    KeepsToBoundaries t field ∧ KeepsToBoundaries t path ∧
      (∀ fuel acc, KeepsToBoundaries t (fieldList fuel acc)) ∧
      (∀ parent, KeepsToBoundaries t (negated parent)) ∧
      (∀ fuel parent close, KeepsToBoundaries t (expressionList parent close fuel)) ∧
      (∀ fuel parent, KeepsToBoundaries t (expression parent fuel)) ∧
      (∀ fuel parent fields, KeepsToBoundaries t (attach parent fields fuel)) ∧
      ∀ fuel parent close (start : Cursor) fields, start.Fits t →
        KeepsToBoundaries t (nestedEach parent close start fields fuel) :=
  ⟨fun _ fits => (field_lands fits).weaken fun _ _ => trivial, fun _ fits => path_lands fits,
    fun fuel acc _ fits => fieldList_lands fuel acc fits,
    fun parent _ fits => negated_lands parent fits,
    fun fuel _ _ _ fits => expressionList_lands fuel fits,
    fun fuel _ _ fits => expression_lands fuel fits,
    fun fuel _ _ _ fits => attach_lands fuel fits,
    fun fuel _ _ _ _ from₀ _ fits => nestedEach_lands fuel from₀ fits⟩

/-! ## Nested lists are read past the start of the list around them -/

/-- Two readers of nested lists that agree on every state at a boundary of `t` strictly past
offset `o`. -/
def AgreePast (t : List Char) (o : Nat) (inner₁ inner₂ : List String → Char → Nat → ReadM Unit) :
    Prop :=
  ∀ node close fuel (r : Reading), r.cursor.Fits t → o < r.cursor.pos →
    (inner₁ node close fuel).run r = (inner₂ node close fuel).run r

section

variable {t : List Char} {o : Nat} {inner₁ inner₂ : List String → Char → Nat → ReadM Unit}

theorem nestedEachWith_congr (agree : AgreePast t o inner₁ inner₂) (parent : List String)
    (close : Char) {start : Cursor} (fits : start.Fits t) (past : o < start.pos) :
    ∀ (fields : List Field) (fuel : Nat) (r : Reading),
      (nestedEachWith inner₁ parent close start fields fuel).run r =
        (nestedEachWith inner₂ parent close start fields fuel).run r
  | [], _, _ => rfl
  | _ :: _, 0, _ => rfl
  | f :: rest, fuel + 1, r => by
    simp only [nestedEachWith]
    refine run_bind_congr rfl fun node _ _ => ?_
    simp only [run_modify_bind]
    refine run_bind_congr rfl fun _ r₂ ran₂ => ?_
    have here : r₂.cursor = start := (treeOnly_brace node).cursor_eq ran₂
    refine run_bind_congr (agree node close fuel r₂ (here ▸ fits) (here ▸ past)) fun _ _ _ => ?_
    exact nestedEachWith_congr agree parent close fits past rest fuel _

theorem attachWith_congr (agree : AgreePast t o inner₁ inner₂) (parent : List String)
    (fields : List Field) {r : Reading} (fits : r.cursor.Fits t) (atLeast : o ≤ r.cursor.pos) :
    ∀ fuel, (attachWith inner₁ parent fields fuel).run r =
      (attachWith inner₂ parent fields fuel).run r
  | 0 => rfl
  | fuel + 1 => by
    simp only [attachWith, run_peek_bind]
    split
    · rfl
    · rename_i close opened
      obtain ⟨b, first, -⟩ := closer_eq_some opened
      have ahead : r.cursor.skipBlanks.rest ≠ [] := by
        rw [Cursor.skipBlanks_rest]
        intro empty
        rw [empty] at first
        cases first
      have past : o < r.cursor.skipBlanks.bump.pos :=
        lt_of_le_of_lt (atLeast.trans (Cursor.pos_le_skipBlanks _)) (Cursor.pos_lt_bump ahead)
      simp only [run_bump_bind, run_get_bind, run_peek_bind]
      split
      · rfl
      · exact nestedEachWith_congr agree parent close fits.skipBlanks.bump past fields fuel _

theorem expressionWith_congr (agree : AgreePast t o inner₁ inner₂) (parent : List String)
    {r : Reading} (fits : r.cursor.Fits t) (atLeast : o ≤ r.cursor.pos) :
    ∀ fuel, (expressionWith inner₁ parent fuel).run r = (expressionWith inner₂ parent fuel).run r
  | 0 => rfl
  | fuel + 1 => by
    have skipped := (blanks_dropBlanks r.cursor.rest).suffix.length_le
    simp only [expressionWith, run_peek_bind]
    split
    · rfl
    · simp only [run_bump_bind, run_get_bind]
      refine run_bind_congr rfl fun fields r₁ ran => ?_
      have fits₁ := ((fieldList_lands _ [] fits.skipBlanks.bump).1 fields r₁ ran).2
      have read := fieldList_shortens ran (Nat.lt_succ_self _)
      simp only [Cursor.bump_rest, Cursor.skipBlanks_rest, List.length_tail] at read
      exact attachWith_congr agree parent fields fits₁
        (atLeast.trans (fits.pos_le fits₁ (by omega))) fuel
    · refine run_bind_congr rfl fun steps r₁ ran => ?_
      have fits₁ := ((path_lands fits.skipBlanks).1 steps r₁ ran).2
      have read := path_shortens ran
      simp only [Cursor.skipBlanks_rest] at read
      have beyond := atLeast.trans (fits.pos_le fits₁ (by omega))
      split
      · rfl
      · split
        · simp only [run_pure_bind]
          exact attachWith_congr agree _ _ fits₁ beyond fuel
        · refine run_bind_congr rfl fun _ r₂ ran₂ => ?_
          refine run_bind_congr rfl fun node r₃ ran₃ => ?_
          have here := ((treeOnly_pathPrefix _ _).cursor_eq ran₃).trans
            ((treeOnly_brace _).cursor_eq ran₂)
          exact attachWith_congr agree _ _ (here ▸ fits₁) (here ▸ beyond) fuel

end

theorem expressionListWith_congr {t : List Char} {o : Nat}
    {inner : List String → Char → Nat → ReadM Unit} (agree : AgreePast t o nestedList inner)
    (parent : List String) (close : Option Char) :
    ∀ fuel {r : Reading}, r.cursor.Fits t → o ≤ r.cursor.pos →
      (expressionListWith nestedList parent close fuel).run r =
        (expressionListWith inner parent close fuel).run r
  | 0, _, _, _ => rfl
  | fuel + 1, r, fits, atLeast => by
    simp only [expressionListWith]
    refine run_bind_congr (expressionWith_congr agree parent fits atLeast fuel)
      fun _ r₁ ran => ?_
    rw [← expression_eq_with] at ran
    have fits₁ := ((expression_lands fuel fits).1 _ r₁ ran).2
    have beyond := atLeast.trans (fits.pos_le fits₁ (expression_shortens ran).le)
    simp only [run_peek_bind]
    split
    · simp only [run_bump_bind]
      exact expressionListWith_congr agree parent close fuel fits₁.skipBlanks.bump
        (beyond.trans ((Cursor.pos_le_skipBlanks _).trans (Cursor.pos_le_bump _)))
    · rfl
    · rfl

/-- A list read from `r` reads its nested lists only at boundaries strictly past `r`: reading
them with any reader that agrees with the reader there changes nothing. -/
theorem expressionList_eq_with_of_agree {t : List Char}
    {inner : List String → Char → Nat → ReadM Unit} (parent : List String) (close : Option Char)
    (fuel : Nat) {r : Reading} (fits : r.cursor.Fits t)
    (agree : AgreePast t r.cursor.pos nestedList inner) :
    (expressionList parent close fuel).run r =
      (expressionListWith inner parent close fuel).run r := by
  rw [expressionList_eq_with]
  exact expressionListWith_congr agree parent close fuel fits le_rfl

end Reader

/-- **Reading terminates and stays in bounds.** The reader names nodes by the paths of keys that
lead to them: the path that putting a field under a node hands back names a node, and no change
of the tree stops a path from naming one. Every step of the reader started at a character
boundary of a text stops at one, or reports its fault at one. A list read from a boundary reads
its nested lists only at boundaries strictly past its start: any reader of nested lists that
agrees with the reader there reads the list alike. The fuel a trimmed expression is read with
never runs out: any fuel beyond four times its length and three reads it alike. Every fault is
reported at the byte length of the first `k` characters of the trimmed expression, for some `k`
up to its length, and the caret of its description stands `k` columns in. -/
theorem parse_terminates_in_bounds :
    (∀ (d : Draft) (path : List String) (m : NameMatcher) (f : NodeMarks),
      (Draft.nodeAt? path d).isSome →
        (Draft.nodeAt? (d.addChild path m f).2 (d.addChild path m f).1).isSome) ∧
    (∀ (d : Draft) (p : List String), (Draft.nodeAt? p d).isSome → ∀ path : List String,
      (∀ m f, (Draft.nodeAt? p (d.addChild path m f).1).isSome) ∧
        ∀ g, (Draft.nodeAt? p (d.modifyMarks path g)).isSome) ∧
    (∀ t : List Char,
      Reader.KeepsToBoundaries t Reader.field ∧ Reader.KeepsToBoundaries t Reader.path ∧
      (∀ fuel acc, Reader.KeepsToBoundaries t (Reader.fieldList fuel acc)) ∧
      (∀ parent, Reader.KeepsToBoundaries t (Reader.negated parent)) ∧
      (∀ fuel parent close,
        Reader.KeepsToBoundaries t (Reader.expressionList parent close fuel)) ∧
      (∀ fuel parent, Reader.KeepsToBoundaries t (Reader.expression parent fuel)) ∧
      (∀ fuel parent fields, Reader.KeepsToBoundaries t (Reader.attach parent fields fuel)) ∧
      ∀ fuel parent close (start : Cursor) fields, start.Fits t →
        Reader.KeepsToBoundaries t (Reader.nestedEach parent close start fields fuel)) ∧
    (∀ (t : List Char) (parent : List String) (close : Option Char) (fuel : Nat) (r : Reading)
        (inner : List String → Char → Nat → ReadM Unit),
      r.cursor.Fits t → Reader.AgreePast t r.cursor.pos Reader.nestedList inner →
        (Reader.expressionList parent close fuel).run r =
          (Reader.expressionListWith inner parent close fuel).run r) ∧
    ∀ text : String,
      (∀ n, 4 * (Text.trimBlanks text.toList).length + 3 ≤ n →
        (Reader.expressionList [] none n).run ⟨⟨Text.trimBlanks text.toList, 0⟩, Draft.root⟩ =
          (Reader.expressionList [] none (4 * (Text.trimBlanks text.toList).length + 8)).run
            ⟨⟨Text.trimBlanks text.toList, 0⟩, Draft.root⟩) ∧
      ∀ e, parse text = .error e → ∃ k ≤ (Text.trimBlanks text.toList).length,
        e.position = Text.utf8Length ((Text.trimBlanks text.toList).take k) ∧
        Cli.describeSelectionError text e = e.message ++ "\n  " ++ Text.trim text ++ "\n  " ++
          String.ofList (List.replicate k ' ') ++ "^" := by
  refine ⟨fun d path m f named => Draft.nodeAt?_addChild_child m f path d named,
    fun d p named path => ⟨fun m f => Draft.nodeAt?_addChild path m f named,
      fun g => Draft.nodeAt?_modifyMarks path g named⟩,
    Reader.reading_keepsToBoundaries,
    fun _ parent close fuel _ _ fits agree =>
      Reader.expressionList_eq_with_of_agree parent close fuel fits agree,
    fun text => ⟨fun n enough => parseTrimmed_fuel_eq _ n enough, fun e refused => ?_⟩⟩
  obtain ⟨k, within, boundary⟩ := parse_error_boundary refused
  exact ⟨k, within, boundary, describeSelectionError_caret within boundary⟩

/-- A field put under the synthetic root is named by the path handed back, and the root stays
named once a field is put under it. In ` a,(b,\u3000**) ` the any-deep token of the field list
is refused at byte 8, past the three-byte ideographic space, and any larger fuel reads it
alike. In `(a,b)[c]` the nested list is read from byte 6 once for `a` and once for `b`, and a
reader of nested lists that refuses to start at byte 0 reads the whole text alike. -/
theorem wide_blank_fault_in_bounds :
    (Draft.nodeAt? (Draft.root.addChild [] (.exact "a") {}).2
        (Draft.root.addChild [] (.exact "a") {}).1).isSome ∧
      (Draft.nodeAt? [] (Draft.root.addChild [] (.exact "a") {}).1).isSome ∧
      (Draft.nodeAt? [] (Draft.root.modifyMarks [] id)).isSome ∧
      Reader.Lands (Text.trimBlanks " a,(b,\u3000**) ".toList) (fun _ => True)
        ((Reader.expressionList [] none 100).run
          ⟨⟨Text.trimBlanks " a,(b,\u3000**) ".toList, 0⟩, Draft.root⟩) ∧
      Reader.AgreePast "(a,b)[c]".toList 0 Reader.nestedList
        (fun node close fuel => do
          if (← Reader.pos) ≤ 0 then Reader.failUnexpected .field
          else Reader.nestedList node close fuel) ∧
      (Reader.expressionList [] none 100).run ⟨⟨"(a,b)[c]".toList, 0⟩, Draft.root⟩ =
        (Reader.expressionListWith
          (fun node close fuel => do
            if (← Reader.pos) ≤ 0 then Reader.failUnexpected .field
            else Reader.nestedList node close fuel) [] none 100).run
          ⟨⟨"(a,b)[c]".toList, 0⟩, Draft.root⟩ ∧
      (Reader.expressionList [] none 100).run
          ⟨⟨Text.trimBlanks " a,(b,\u3000**) ".toList, 0⟩, Draft.root⟩ =
        (Reader.expressionList [] none
            (4 * (Text.trimBlanks " a,(b,\u3000**) ".toList).length + 8)).run
          ⟨⟨Text.trimBlanks " a,(b,\u3000**) ".toList, 0⟩, Draft.root⟩ ∧
      parse " a,(b,\u3000**) " = .error (.malformed 8 .anyDeepInFieldList) ∧
      ∃ k ≤ (Text.trimBlanks " a,(b,\u3000**) ".toList).length,
        (SelectionError.malformed 8 .anyDeepInFieldList).position =
          Text.utf8Length ((Text.trimBlanks " a,(b,\u3000**) ".toList).take k) ∧
        Cli.describeSelectionError " a,(b,\u3000**) " (.malformed 8 .anyDeepInFieldList) =
          (SelectionError.malformed 8 .anyDeepInFieldList).message ++ "\n  " ++
            Text.trim " a,(b,\u3000**) " ++ "\n  " ++ String.ofList (List.replicate k ' ') ++
            "^" := by
  have refused : parse " a,(b,\u3000**) " = .error (.malformed 8 .anyDeepInFieldList) := rfl
  have guarded : Reader.AgreePast "(a,b)[c]".toList 0 Reader.nestedList
      (fun node close fuel => do
        if (← Reader.pos) ≤ 0 then Reader.failUnexpected .field
        else Reader.nestedList node close fuel) := by
    intro node close fuel r _ past
    rw [Reader.run_pos_bind, if_neg (Nat.not_le.2 past)]
  obtain ⟨child, kept, keeps, nested, read⟩ := parse_terminates_in_bounds
  exact ⟨child Draft.root [] (.exact "a") {} rfl, (kept Draft.root [] rfl []).1 (.exact "a") {},
    (kept Draft.root [] rfl []).2 id,
    (keeps _).2.2.2.2.1 100 [] none _ (Cursor.fits_start _), guarded,
    nested _ [] none 100 _ _ (Cursor.fits_start _) guarded,
    (read " a,(b,\u3000**) ").1 100 (by decide), refused, (read " a,(b,\u3000**) ").2 _ refused⟩

end FieldSelection.Selection
