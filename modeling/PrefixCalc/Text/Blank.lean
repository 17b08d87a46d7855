/-!
# Blank characters

The characters that separate atoms and that are trimmed from the ends of a text. There are 29 of
them: the six ASCII blanks, the four information separators `U+001C` to `U+001F`, and the Unicode
spaces and line separators. Zero-width characters are not blank.

## Main definitions

* `isBlank`: the class itself.
* `isSpace`: the same class without the information separators, as number fields use it.
* `trim`: a text without the blanks at its two ends.
-/

namespace PrefixCalc.Text

/-- The inclusive code point ranges of the blank characters, in ascending order. -/
def blankRanges : List (Nat × Nat) :=
  [(0x09, 0x0D), (0x1C, 0x20), (0x85, 0x85), (0xA0, 0xA0), (0x1680, 0x1680), (0x2000, 0x200A),
    (0x2028, 0x2029), (0x202F, 0x202F), (0x205F, 0x205F), (0x3000, 0x3000)]

/-- A code point lies in one of the ranges. -/
def inRanges (ranges : List (Nat × Nat)) (n : Nat) : Bool :=
  ranges.any fun r => r.1 ≤ n && n ≤ r.2

/-- A blank character separates atoms. -/
def isBlank (c : Char) : Bool :=
  inRanges blankRanges c.toNat

/-- A space is a blank character other than the four information separators. -/
def isSpace (c : Char) : Bool :=
  isBlank c && !(0x1C ≤ c.toNat && c.toNat ≤ 0x1F)

/-- Every ASCII white space character of the core library is blank. -/
theorem isBlank_of_isWhitespace {c : Char} (h : c.isWhitespace = true) : isBlank c = true := by
  simp only [Char.isWhitespace, Bool.or_eq_true, decide_eq_true_eq] at h
  rcases h with ((rfl | rfl) | rfl) | rfl <;> decide

/-! ### Trimming -/

/-- The list without the elements of a class at its two ends. -/
def trimEnds (p : Char → Bool) (cs : List Char) : List Char :=
  (((cs.dropWhile p).reverse).dropWhile p).reverse

/-- A text without the blanks at its two ends. -/
def trim (s : String) : String :=
  String.ofList (trimEnds isBlank s.toList)

/-- A text without the given character at its end. -/
def trimRight (c : Char) (s : String) : String :=
  String.ofList ((s.toList.reverse.dropWhile (· == c)).reverse)

@[simp] theorem toList_trim (s : String) : (trim s).toList = trimEnds isBlank s.toList := by
  simp [trim]

@[simp] theorem trimEnds_nil (p : Char → Bool) : trimEnds p [] = [] := rfl

/-! ### Letters -/

/-- A text with its ASCII capitals made small; names of settings and headers are matched so. -/
def toLower (s : String) : String :=
  String.ofList (s.toList.map Char.toLower)

end PrefixCalc.Text
