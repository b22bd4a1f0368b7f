/-!
# Blank text

A text is blank if it is empty or holds nothing but characters with the Unicode property
`White_Space`. The property is a finite table of ranges.
-/

namespace SessionPool.Text

/-- The ranges of code points that have the property `White_Space`, in order. -/
def whiteSpaceRanges : List (Nat × Nat) :=
  [(0x0009, 0x000D), (0x0020, 0x0020), (0x0085, 0x0085), (0x00A0, 0x00A0), (0x1680, 0x1680),
   (0x2000, 0x200A), (0x2028, 0x2029), (0x202F, 0x202F), (0x205F, 0x205F), (0x3000, 0x3000)]

/-- Whether a character is white space. -/
def isWhiteSpace (character : Char) : Bool :=
  whiteSpaceRanges.any fun range => range.1 ≤ character.toNat && character.toNat ≤ range.2

/-- Whether a text has no character but white space. -/
def isBlank (text : String) : Bool :=
  text.toList.all isWhiteSpace

/-- The white space of ASCII text, as the core library knows it, is white space. -/
theorem isWhiteSpace_of_isWhitespace {character : Char} (ascii : character.isWhitespace = true) :
    isWhiteSpace character = true := by
  simp only [Char.isWhitespace, Bool.or_eq_true, decide_eq_true_eq] at ascii
  rcases ascii with ((rfl | rfl) | rfl) | rfl <;> decide

/-- The property holds of twenty-five characters. -/
example : whiteSpaceRanges.foldl (fun count range => count + (range.2 + 1 - range.1)) 0 = 25 := by
  decide

example : isBlank "" = true ∧ isBlank " \t" = true ∧ isBlank " x " = false := by decide

end SessionPool.Text
