import FieldSelection.Cache.Spec
/-!
# Spec texts read back

The text of a cache spec lists its bounds as `key=value` items joined by commas, each lifetime
in the largest unit that divides it. Reading that text gives the spec back, as long as every
bound fits in a 64-bit word, the range of bounds a reader can produce.

The proof follows the reader's stages. Numbers: the decimal digits of `n` read back as `n`
(`readDigits_repr`, `readWord_repr`), and a lifetime's amount and unit read back as the amount
times the unit (`readDuration_text`). Items: an item whose key has no `=` and whose key and
value have no blank is split into that key and value (`applyItem_entry`). Text: items with no
comma, no blank and no empty one are what the comma-joined text splits into
(`specItems_intercalate`).

Main statement: `CacheSpec.text_reads_back`. Every spec in range reads back from its text, and
every spec read from some text is in range (`parse_inRange`), so a text and the text written
from what it reads read the same.
-/

namespace FieldSelection

/-- Every bound of the spec fits in a 64-bit word. -/
def CacheSpec.InRange (spec : CacheSpec) : Prop :=
  (∀ n ∈ spec.maximumSize, n ≤ wordLimit) ∧ (∀ secs ∈ spec.expireAfterAccess, secs ≤ wordLimit) ∧
    ∀ secs ∈ spec.expireAfterWrite, secs ≤ wordLimit

/-! ## Numbers -/

theorem le_ofDigitChars (cs : List Char) (acc : Nat) : acc ≤ Nat.ofDigitChars 10 cs acc := by
  rw [Nat.ofDigitChars_eq_ofDigitChars_zero]
  have positive : 0 < 10 ^ cs.length := Nat.pow_pos (by decide)
  calc acc ≤ 10 ^ cs.length * acc := Nat.le_mul_of_pos_left acc positive
    _ ≤ _ := Nat.le_add_right _ _

/-- Digits whose value fits read as that value: no partial value on the way is larger. -/
theorem readDigits_of_isDigit {cs : List Char} {acc : Nat}
    (digits : ∀ c ∈ cs, c.isDigit = true) (fits : Nat.ofDigitChars 10 cs acc ≤ wordLimit) :
    readDigits cs acc = .ok (Nat.ofDigitChars 10 cs acc) := by
  induction cs generalizing acc with
  | nil => simp [readDigits]
  | cons c rest ih =>
    have isDigit : c.isDigit = true := digits c (by simp)
    rw [Nat.ofDigitChars_cons] at fits ⊢
    have below := le_ofDigitChars rest (10 * acc + (c.toNat - '0'.toNat))
    have step : acc * 10 + (c.toNat - '0'.toNat) = 10 * acc + (c.toNat - '0'.toNat) := by
      rw [Nat.mul_comm]
    simp only [readDigits, isDigit, if_true, step]
    rw [if_neg (by omega)]
    exact ih (fun d mem => digits d (by simp [mem])) fits

theorem isDigit_of_mem_repr {n : Nat} {c : Char} (mem : c ∈ (toString n).toList) :
    c.isDigit = true := by
  simp only [Nat.toString_eq_repr, Nat.toList_repr] at mem
  exact Nat.isDigit_of_mem_toDigits (by decide) (by decide) mem

theorem readDigits_repr {n : Nat} (fits : n ≤ wordLimit) :
    readDigits (toString n).toList 0 = .ok n := by
  have value : Nat.ofDigitChars 10 (toString n).toList 0 = n := by
    simp only [Nat.toString_eq_repr, Nat.toList_repr, Nat.ofDigitChars_ten_toDigits]
  rw [readDigits_of_isDigit (fun c mem => isDigit_of_mem_repr mem) (by rw [value]; exact fits),
    value]

/-- A number written in decimal reads back as itself when it fits in a word: its digits carry
no sign. -/
theorem readWord_repr {n : Nat} (fits : n ≤ wordLimit) :
    readWord (toString n).toList = .ok n := by
  obtain ⟨c, rest, split⟩ : ∃ c rest, (toString n).toList = c :: rest :=
    List.exists_cons_of_ne_nil (by simp)
  have mem : c ∈ (toString n).toList := by rw [split]; simp
  have isDigit : c.isDigit = true := isDigit_of_mem_repr mem
  have notPlus : c ≠ '+' := by
    rintro rfl
    simp at isDigit
  rw [← readDigits_repr fits, split]
  unfold readWord
  split <;> simp_all

/-- An amount followed by a one-letter unit reads as the amount times the unit. -/
theorem readDuration_amount {q k : Nat} {u : String} {uc : Char} (unitChars : u.toList = [uc])
    (notDigit : uc.isDigit = false) (unitValue : unitSeconds u = some k) (positive : 0 < k)
    (fits : q * k ≤ wordLimit) :
    readDuration (toString q ++ u) = .ok (q * k) := by
  have chars : (toString q ++ u).toList = (toString q).toList ++ [uc] := by simp [unitChars]
  have digits :
      ((toString q).toList ++ [uc]).takeWhile (fun c => c.isDigit) = (toString q).toList := by
    rw [List.takeWhile_append_of_pos]
    · simp [notDigit]
    · intro c mem
      exact isDigit_of_mem_repr mem
  have unit :
      String.ofList (((toString q).toList ++ [uc]).drop (toString q).toList.length) = u := by
    rw [List.drop_left, ← unitChars, String.ofList_toList]
  have amountFits : q ≤ wordLimit := Nat.le_trans (Nat.le_mul_of_pos_right q positive) fits
  have nonEmpty : (toString q).toList.isEmpty = false := by simp
  have notAll : ((toString q).toList.length == ((toString q).toList ++ [uc]).length) = false := by
    simp
  simp only [readDuration, chars, digits, unit, readDigits_repr amountFits, nonEmpty, unitValue,
    notAll, Bool.false_eq_true, if_false, scaledLifetime, gt_iff_lt, Nat.not_lt.2 fits]

theorem readDuration_text {secs : Nat} (fits : secs ≤ wordLimit) :
    readDuration (durationText secs) = .ok secs := by
  unfold durationText
  split
  · rename_i days
    simp only [Bool.and_eq_true, decide_eq_true_eq, beq_iff_eq] at days
    have whole : secs / 86400 * 86400 = secs := Nat.div_mul_cancel (Nat.dvd_of_mod_eq_zero days.2)
    rw [readDuration_amount rfl rfl rfl (by decide) (by rw [whole]; exact fits), whole]
  · split
    · rename_i hours
      simp only [Bool.and_eq_true, decide_eq_true_eq, beq_iff_eq] at hours
      have whole : secs / 3600 * 3600 = secs :=
        Nat.div_mul_cancel (Nat.dvd_of_mod_eq_zero hours.2)
      rw [readDuration_amount rfl rfl rfl (by decide) (by rw [whole]; exact fits), whole]
    · split
      · rename_i minutes
        simp only [Bool.and_eq_true, decide_eq_true_eq, beq_iff_eq] at minutes
        have whole : secs / 60 * 60 = secs := Nat.div_mul_cancel (Nat.dvd_of_mod_eq_zero minutes.2)
        rw [readDuration_amount rfl rfl rfl (by decide) (by rw [whole]; exact fits), whole]
      · rw [readDuration_amount rfl rfl rfl (by decide) (by rw [Nat.mul_one]; exact fits),
          Nat.mul_one]

theorem mem_durationText {secs : Nat} {c : Char} (mem : c ∈ (durationText secs).toList) :
    c.isDigit = true ∨ c = 'd' ∨ c = 'h' ∨ c = 'm' ∨ c = 's' := by
  unfold durationText at mem
  split at mem <;> (try split at mem) <;> (try split at mem) <;>
  · simp only [String.toList_append, List.mem_append] at mem
    rcases mem with digit | unit
    · exact .inl (isDigit_of_mem_repr digit)
    · simp at unit
      simp [unit]

/-! ## Items -/

theorem takeWhile_item (key value : String) (noEquals : ∀ c ∈ key.toList, c ≠ '=') :
    (key ++ "=" ++ value).toList.takeWhile (· != '=') = key.toList := by
  have chars : (key ++ "=" ++ value).toList = key.toList ++ '=' :: value.toList := by simp
  rw [chars, List.takeWhile_append_of_pos]
  · simp
  · intro c mem
    simpa using noEquals c mem

theorem drop_item (key value : String) :
    (key ++ "=" ++ value).toList.drop (key.toList.length + 1) = value.toList := by
  simp

theorem length_item (key value : String) :
    (key.toList.length == (key ++ "=" ++ value).toList.length) = false := by
  simp

/-- An item splits at its first `=` into its key and its value, which trimming leaves alone. -/
theorem applyItem_entry {spec : CacheSpec} {key value : String}
    (keyChars : key.toList.all (fun c => c != '=' && !Text.isBlank c) = true)
    (valuePlain : ∀ c ∈ value.toList, Text.isBlank c = false) :
    applyItem spec (key ++ "=" ++ value) = applyEntry spec key value := by
  have noEquals : ∀ c ∈ key.toList, c ≠ '=' := fun c mem => by
    have both := List.all_eq_true.1 keyChars c mem
    simp only [Bool.and_eq_true, bne_iff_ne] at both
    exact both.1
  have keyPlain : ∀ c ∈ key.toList, Text.isBlank c = false := fun c mem => by
    have both := List.all_eq_true.1 keyChars c mem
    simp only [Bool.and_eq_true, Bool.not_eq_true'] at both
    exact both.2
  simp only [applyItem, takeWhile_item key value noEquals, length_item, drop_item,
    String.ofList_toList, Text.trim_of_forall keyPlain, Text.trim_of_forall valuePlain,
    Bool.false_eq_true, if_false]

theorem isBlank_of_mem_durationText {secs : Nat} {c : Char}
    (mem : c ∈ (durationText secs).toList) : Text.isBlank c = false := by
  rcases mem_durationText mem with digit | rfl | rfl | rfl | rfl
  · exact Text.isBlank_of_isDigit digit
  all_goals decide

theorem applyItem_size {spec : CacheSpec} {n : Nat} (fits : n ≤ wordLimit) :
    applyItem spec ("maximumSize=" ++ toString n) = .ok { spec with maximumSize := some n } := by
  have split : "maximumSize=" ++ toString n = "maximumSize" ++ "=" ++ toString n := by simp
  rw [split, applyItem_entry (by decide)
    (fun c mem => Text.isBlank_of_isDigit (isDigit_of_mem_repr mem))]
  simp only [applyEntry, readWord_repr fits]
  rfl

theorem applyItem_access {spec : CacheSpec} {secs : Nat} (fits : secs ≤ wordLimit) :
    applyItem spec ("expireAfterAccess=" ++ durationText secs) =
      .ok { spec with expireAfterAccess := some secs } := by
  have split : "expireAfterAccess=" ++ durationText secs =
      "expireAfterAccess" ++ "=" ++ durationText secs := by simp
  rw [split, applyItem_entry (by decide) (fun c mem => isBlank_of_mem_durationText mem)]
  simp only [applyEntry, readDuration_text fits]
  rfl

theorem applyItem_write {spec : CacheSpec} {secs : Nat} (fits : secs ≤ wordLimit) :
    applyItem spec ("expireAfterWrite=" ++ durationText secs) =
      .ok { spec with expireAfterWrite := some secs } := by
  have split : "expireAfterWrite=" ++ durationText secs =
      "expireAfterWrite" ++ "=" ++ durationText secs := by simp
  rw [split, applyItem_entry (by decide) (fun c mem => isBlank_of_mem_durationText mem)]
  simp only [applyEntry, readDuration_text fits]
  rfl

/-- Applying the items of a spec in range to the empty spec builds the spec. -/
theorem foldlM_items {spec : CacheSpec} (fits : spec.InRange) :
    spec.items.foldlM applyItem {} = .ok spec := by
  obtain ⟨size, access, write⟩ := spec
  obtain ⟨sizeFits, accessFits, writeFits⟩ := fits
  cases size <;> cases access <;> cases write <;>
    simp only [CacheSpec.items, Option.map_some, Option.map_none, Option.toList_some,
      Option.toList_none, List.nil_append, List.cons_append, List.foldlM_cons, List.foldlM_nil,
      Option.mem_def, forall_eq', Option.some.injEq, reduceCtorEq, false_implies,
      implies_true] at sizeFits accessFits writeFits ⊢ <;>
    (try simp only [applyItem_size, applyItem_access, applyItem_write, *]) <;> rfl

/-! ## Text -/

/-- Whether a character may stand in an item of a written spec: no comma and no blank. -/
def plainChar (c : Char) : Bool := c != ',' && !Text.isBlank c

theorem plainChar_of_isDigit {c : Char} (digit : c.isDigit = true) : plainChar c = true := by
  have range := Text.toNat_of_isDigit digit
  have notComma : c ≠ ',' := by
    rintro rfl
    simp at range
  simp [plainChar, notComma, Text.isBlank_of_isDigit digit]

theorem plainChar_of_mem_durationText {secs : Nat} {c : Char}
    (mem : c ∈ (durationText secs).toList) : plainChar c = true := by
  rcases mem_durationText mem with digit | rfl | rfl | rfl | rfl
  · exact plainChar_of_isDigit digit
  all_goals decide

theorem plainChar_of_mem_append {lead value : String} {c : Char}
    (leadPlain : ∀ c ∈ lead.toList, plainChar c = true)
    (valuePlain : ∀ c ∈ value.toList, plainChar c = true)
    (mem : c ∈ (lead ++ value).toList) : plainChar c = true := by
  rw [String.toList_append, List.mem_append] at mem
  rcases mem with inLead | inValue
  · exact leadPlain c inLead
  · exact valuePlain c inValue

/-- Every item of a written spec is non-empty and made of plain characters. -/
theorem item_plain {spec : CacheSpec} {item : String} (mem : item ∈ spec.items) :
    item ≠ "" ∧ ∀ c ∈ item.toList, plainChar c = true := by
  simp only [CacheSpec.items, List.mem_append, Option.mem_toList, Option.map_eq_some_iff] at mem
  rcases mem with (⟨n, -, rfl⟩ | ⟨secs, -, rfl⟩) | ⟨secs, -, rfl⟩
  · refine ⟨by simp [← String.toList_inj], fun c => plainChar_of_mem_append ?_ ?_⟩
    · exact List.all_eq_true.1 (by decide)
    · intro c mem
      exact plainChar_of_isDigit (isDigit_of_mem_repr mem)
  all_goals
    refine ⟨by simp [← String.toList_inj], fun c => plainChar_of_mem_append ?_ ?_⟩
    · exact List.all_eq_true.1 (by decide)
    · intro c mem
      exact plainChar_of_mem_durationText mem

/-- Items without commas, blanks or empty ones are what their comma-joined text splits into. -/
theorem specItems_intercalate {items : List String}
    (noComma : ∀ s ∈ items, ',' ∉ s.toList)
    (plain : ∀ s ∈ items, ∀ c ∈ s.toList, Text.isBlank c = false)
    (nonEmpty : ∀ s ∈ items, s ≠ "") :
    specItems (",".intercalate items) = items := by
  cases items with
  | nil => rfl
  | cons first rest =>
    have pieces : (",".intercalate (first :: rest)).toList.splitOn ',' =
        (first :: rest).map String.toList := by
      rw [String.toList_intercalate]
      exact List.splitOn_intercalate ',' (by simpa using noComma) (by simp)
    have trimmed : ∀ s ∈ first :: rest,
        ((fun cs => Text.trim (String.ofList cs)) ∘ String.toList) s = id s := by
      intro s mem
      simp only [Function.comp_apply, String.ofList_toList, Text.trim_of_forall (plain s mem), id]
    unfold specItems
    rw [pieces, List.map_map, List.map_congr_left trimmed, List.map_id]
    exact List.filter_eq_self.2 fun s mem => by simpa using nonEmpty s mem

theorem parse_text_of_inRange {spec : CacheSpec} (fits : spec.InRange) :
    CacheSpec.parse spec.text = .ok spec := by
  have noComma : ∀ s ∈ spec.items, ',' ∉ s.toList := fun s mem inside =>
    absurd ((item_plain mem).2 ',' inside) (by decide)
  have noBlank : ∀ s ∈ spec.items, ∀ c ∈ s.toList, Text.isBlank c = false := fun s mem c inside => by
    have both := (item_plain mem).2 c inside
    simp only [plainChar, Bool.and_eq_true, Bool.not_eq_true'] at both
    exact both.2
  rw [CacheSpec.parse, CacheSpec.text,
    specItems_intercalate noComma noBlank (fun s mem => (item_plain mem).1), foldlM_items fits]
  rfl

/-! ## Specs that are read are in range -/

theorem readDigits_le {cs : List Char} {acc n : Nat} (start : acc ≤ wordLimit)
    (read : readDigits cs acc = .ok n) : n ≤ wordLimit := by
  induction cs generalizing acc with
  | nil =>
    simp only [readDigits, Except.ok.injEq] at read
    exact read ▸ start
  | cons c rest ih =>
    simp only [readDigits] at read
    split at read
    · split at read
      · cases read
      · exact ih (by omega) read
    · cases read

theorem readWord_le {cs : List Char} {n : Nat} (read : readWord cs = .ok n) : n ≤ wordLimit := by
  unfold readWord at read
  split at read
  · cases read
  · cases read
  · exact readDigits_le (Nat.zero_le _) read
  · exact readDigits_le (Nat.zero_le _) read

theorem readDuration_le {value : String} {secs : Nat} (read : readDuration value = .ok secs) :
    secs ≤ wordLimit := by
  unfold readDuration at read
  dsimp only at read
  split at read
  · cases read
  · split at read
    · unfold scaledLifetime at read
      split at read
      · cases read
      · rename_i fits
        simp only [Except.ok.injEq] at read
        omega
    · cases read
    · cases read

theorem applyEntry_inRange {spec result : CacheSpec} {key value : String} (fits : spec.InRange)
    (applied : applyEntry spec key value = .ok result) : result.InRange := by
  obtain ⟨sizeFits, accessFits, writeFits⟩ := fits
  unfold applyEntry at applied
  split at applied
  · split at applied
    · rename_i n read
      cases applied
      exact ⟨fun m mem => by cases mem; exact readWord_le read, accessFits, writeFits⟩
    · cases applied
  · cases read : readDuration value with
    | error f =>
      simp only [read] at applied
      cases applied
    | ok secs =>
      simp only [read] at applied
      cases applied
      exact ⟨sizeFits, fun m mem => by cases mem; exact readDuration_le read, writeFits⟩
  · cases read : readDuration value with
    | error f =>
      simp only [read] at applied
      cases applied
    | ok secs =>
      simp only [read] at applied
      cases applied
      exact ⟨sizeFits, accessFits, fun m mem => by cases mem; exact readDuration_le read⟩
  · cases applied

theorem applyItem_inRange {spec result : CacheSpec} {item : String} (fits : spec.InRange)
    (applied : applyItem spec item = .ok result) : result.InRange := by
  unfold applyItem at applied
  dsimp only at applied
  split at applied
  · cases applied
  · exact applyEntry_inRange fits applied

theorem foldlM_inRange {items : List String} {spec result : CacheSpec} (fits : spec.InRange)
    (applied : items.foldlM applyItem spec = .ok result) : result.InRange := by
  induction items generalizing spec with
  | nil =>
    simp only [List.foldlM_nil] at applied
    cases applied
    exact fits
  | cons item rest ih =>
    simp only [List.foldlM_cons] at applied
    cases first : applyItem spec item with
    | error f =>
      simp only [first] at applied
      cases applied
    | ok next =>
      simp only [first] at applied
      exact ih (applyItem_inRange fits first) applied

theorem parse_inRange {text : String} {spec : CacheSpec}
    (read : CacheSpec.parse text = .ok spec) : spec.InRange := by
  unfold CacheSpec.parse at read
  cases applied : (specItems text).foldlM applyItem {} with
  | error f =>
    simp only [applied] at read
    cases read
  | ok result =>
    simp only [applied] at read
    cases read
    have empty : ({} : CacheSpec).InRange :=
      ⟨(fun _ mem => nomatch mem), (fun _ mem => nomatch mem), (fun _ mem => nomatch mem)⟩
    exact foldlM_inRange empty applied

/-! ## The round trip -/

theorem CacheSpec.text_reads_back :
    (∀ spec : CacheSpec, spec.InRange → CacheSpec.parse spec.text = .ok spec) ∧
      ∀ (text : String) (spec : CacheSpec),
        CacheSpec.parse text = .ok spec → CacheSpec.parse spec.text = .ok spec :=
  ⟨fun _ fits => parse_text_of_inRange fits,
    fun _ _ read => parse_text_of_inRange (parse_inRange read)⟩

theorem CacheSpec.largest_reads_back :
    (⟨some wordLimit, some 5400, some 0⟩ : CacheSpec).InRange ∧
      CacheSpec.parse (⟨some wordLimit, some 5400, some 0⟩ : CacheSpec).text =
        .ok ⟨some wordLimit, some 5400, some 0⟩ ∧
      CacheSpec.parse " maximumSize = 10 ,, expireAfterWrite=7200s" =
        .ok ⟨some 10, none, some 7200⟩ ∧
      CacheSpec.parse (⟨some 10, none, some 7200⟩ : CacheSpec).text =
        .ok ⟨some 10, none, some 7200⟩ := by
  have fits : (⟨some wordLimit, some 5400, some 0⟩ : CacheSpec).InRange :=
    ⟨fun _ mem => by cases mem; exact Nat.le_refl _,
      fun _ mem => by cases mem; decide, fun _ mem => by cases mem; decide⟩
  have read : CacheSpec.parse " maximumSize = 10 ,, expireAfterWrite=7200s" =
      .ok ⟨some 10, none, some 7200⟩ := by rfl
  exact ⟨fits, CacheSpec.text_reads_back.1 _ fits, read, CacheSpec.text_reads_back.2 _ _ read⟩

end FieldSelection
