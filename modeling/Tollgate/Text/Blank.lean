set_option autoImplicit false

/-!
# Blanks

Which characters count as white space, and how white space is trimmed from the ends of a text.
There are two sets: the white space of Unicode, which may surround an integer, and the blanks,
which separate a verb from its path and may surround a decimal. The blanks hold the four ASCII
information separators besides.
-/

namespace Tollgate.Text

/-- White space: the spaces of all widths, tabs, line and page breaks, and the line and paragraph
separators. -/
def isWhiteSpace (c : Char) : Bool :=
  let n := c.toNat
  (0x09 ≤ n && n ≤ 0x0d) || n == 0x20 || n == 0x85 || n == 0xa0 || n == 0x1680 ||
    (0x2000 ≤ n && n ≤ 0x200a) || n == 0x2028 || n == 0x2029 || n == 0x202f || n == 0x205f ||
    n == 0x3000

/-- White space and the four ASCII information separators. -/
def isBlank (c : Char) : Bool :=
  isWhiteSpace c || (0x1c ≤ c.toNat && c.toNat ≤ 0x1f)

/-- The text without the characters of a class at its two ends. -/
def trimBy (p : Char → Bool) (cs : List Char) : List Char :=
  ((cs.dropWhile p).reverse.dropWhile p).reverse

/-- The space, the tab, the line feed and the carriage return are white space. -/
theorem isWhiteSpace_of_isWhitespace {c : Char} (h : c.isWhitespace = true) :
    isWhiteSpace c = true := by
  simp only [Char.isWhitespace, Bool.or_eq_true, decide_eq_true_eq] at h
  rcases h with ((rfl | rfl) | rfl) | rfl <;> decide

/-- White space is blank. -/
theorem isBlank_of_isWhiteSpace {c : Char} (h : isWhiteSpace c = true) : isBlank c = true := by
  simp [isBlank, h]

/-- A text whose two ends are outside the class is left as it is. -/
theorem trimBy_eq_self {p : Char → Bool} {cs : List Char} (hfront : cs.dropWhile p = cs)
    (hback : cs.reverse.dropWhile p = cs.reverse) : trimBy p cs = cs := by
  rw [trimBy, hfront, hback, List.reverse_reverse]

end Tollgate.Text
