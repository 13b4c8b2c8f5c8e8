/-!
# White space

The characters of the Unicode property `White_Space`, and trimming by them.  A text is trimmed on
both ends at once, so a trimmed text begins and ends with a character that is not white
(`dropBlanks_head`).
-/

namespace ResourceMoves.Text

/-- The code points of `White_Space`, as inclusive ranges. -/
def blankRanges : List (Nat × Nat) :=
  [(0x09, 0x0d), (0x20, 0x20), (0x85, 0x85), (0xa0, 0xa0), (0x1680, 0x1680), (0x2000, 0x200a),
   (0x2028, 0x2029), (0x202f, 0x202f), (0x205f, 0x205f), (0x3000, 0x3000)]

/-- `c` is white space. -/
def isBlank (c : Char) : Bool :=
  blankRanges.any fun r => r.1 ≤ c.toNat && c.toNat ≤ r.2

/-- The characters after the leading white space. -/
def dropBlanks (s : List Char) : List Char := s.dropWhile isBlank

/-- The characters before the trailing white space. -/
def dropBlanksEnd (s : List Char) : List Char := (dropBlanks s.reverse).reverse

/-- The characters between the leading and the trailing white space. -/
def trim (s : List Char) : List Char := dropBlanksEnd (dropBlanks s)

/-- `s` without the white space around it. -/
def trimmed (s : String) : String := .ofList (trim s.toList)

/-- What white space leaves in front is not white. -/
theorem dropBlanks_head {s : List Char} {c : Char} {r : List Char} (h : dropBlanks s = c :: r) :
    isBlank c = false := by
  induction s with
  | nil => simp [dropBlanks] at h
  | cons d s ih =>
      simp only [dropBlanks, List.dropWhile_cons] at h
      split at h
      · exact ih h
      · simp_all

example : trimmed "\u2003 a\u200b\u00a0\n" = "a\u200b" := by decide +kernel

end ResourceMoves.Text
