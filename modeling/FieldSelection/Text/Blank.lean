/-!
# Blank characters

The characters with the Unicode property White_Space: the ASCII controls from tab to carriage
return, space, next line, no-break space, ogham space mark, the spaces from en quad to hair
space, line and paragraph separator, narrow no-break space, medium mathematical space and
ideographic space. Selection expressions are trimmed of these, and they may stand between the
tokens of an expression.

Main statements: `isBlank_of_isWhitespace` (every blank of the ASCII classification is a
blank here), `dropBlanks_utf8` (dropping blanks shortens the text by their bytes) and
`trim_of_forall` (a text without blanks is its own trimmed form).
-/

namespace FieldSelection.Text

/-- Whether `c` has the Unicode property White_Space. -/
def isBlank (c : Char) : Bool :=
  let n := c.toNat
  (9 ≤ n && n ≤ 13) || n == 0x20 || n == 0x85 || n == 0xA0 || n == 0x1680 ||
    (0x2000 ≤ n && n ≤ 0x200A) || n == 0x2028 || n == 0x2029 || n == 0x202F ||
    n == 0x205F || n == 0x3000

/-- The number of bytes of `c` in UTF-8. -/
def utf8Width (c : Char) : Nat := c.utf8Size

/-- The number of bytes of a character sequence in UTF-8. -/
def utf8Length : List Char → Nat
  | [] => 0
  | c :: cs => utf8Width c + utf8Length cs

/-- The sequence without its leading blanks. -/
def dropBlanks (cs : List Char) : List Char := cs.dropWhile isBlank

/-- The sequence without leading and trailing blanks. -/
def trimBlanks (cs : List Char) : List Char :=
  (dropBlanks (dropBlanks cs).reverse).reverse

/-- The text without leading and trailing blanks. -/
def trim (s : String) : String := String.ofList (trimBlanks s.toList)

theorem isBlank_of_isWhitespace {c : Char} (h : c.isWhitespace = true) : isBlank c = true := by
  simp only [Char.isWhitespace, Bool.or_eq_true, decide_eq_true_eq] at h
  simp only [isBlank, Bool.or_eq_true, Bool.and_eq_true, decide_eq_true_eq, beq_iff_eq]
  rcases h with ((h | h) | h) | h <;> subst h <;> decide

@[simp] theorem utf8Length_nil : utf8Length [] = 0 := rfl

@[simp] theorem utf8Length_cons (c : Char) (cs : List Char) :
    utf8Length (c :: cs) = utf8Width c + utf8Length cs := rfl

theorem utf8Length_append (xs ys : List Char) :
    utf8Length (xs ++ ys) = utf8Length xs + utf8Length ys := by
  induction xs with
  | nil => simp
  | cons c cs ih => simp [ih, Nat.add_assoc]

/-- A decimal digit lies between code points 48 and 57. -/
theorem toNat_of_isDigit {c : Char} (digit : c.isDigit = true) :
    48 ≤ c.toNat ∧ c.toNat ≤ 57 := by
  simp only [Char.isDigit, Bool.and_eq_true, decide_eq_true_eq] at digit
  exact digit

theorem isBlank_of_isDigit {c : Char} (digit : c.isDigit = true) : isBlank c = false := by
  have range := toNat_of_isDigit digit
  simp only [isBlank, Bool.or_eq_false_iff, Bool.and_eq_false_iff, decide_eq_false_iff_not,
    beq_eq_false_iff_ne]
  omega

theorem dropBlanks_of_forall {cs : List Char} (plain : ∀ c ∈ cs, isBlank c = false) :
    dropBlanks cs = cs := by
  cases cs with
  | nil => rfl
  | cons c rest => simp [dropBlanks, plain c (by simp)]

theorem trim_of_forall {s : String} (plain : ∀ c ∈ s.toList, isBlank c = false) :
    trim s = s := by
  have reversed : ∀ c ∈ s.toList.reverse, isBlank c = false :=
    fun c mem => plain c (List.mem_reverse.1 mem)
  simp [trim, trimBlanks, dropBlanks_of_forall plain, dropBlanks_of_forall reversed]

theorem dropBlanks_utf8 (cs : List Char) :
    utf8Length cs = utf8Length (cs.takeWhile isBlank) + utf8Length (dropBlanks cs) := by
  rw [dropBlanks, ← utf8Length_append, List.takeWhile_append_dropWhile]

end FieldSelection.Text
