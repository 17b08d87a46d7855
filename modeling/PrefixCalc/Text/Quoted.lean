import PrefixCalc.Text.Hex
import PrefixCalc.Text.Printable

/-!
# Quoted texts

A text as it is shown inside a message: between single quotes, or between double quotes when it
holds a single quote and no double quote. A backslash, the enclosing quote and the characters
that are not printable are escaped.

A text in which half of a character stands alone is given by its code points.

## Main definitions

* `points`, `isWhole`, `ofPoints`: texts as code points, and back.
* `enclosingQuote`: which quote a text gets.
* `quoted`: the text with its quotes.
* `quotedPoints`: the same for a text in which halves of characters stand alone.
* `consolePoints`: such a text as a console shows it, without quotes.
-/

namespace PrefixCalc.Text

/-! ### Code points -/

/-- The code points of a text. -/
def points (s : String) : List Nat :=
  s.toList.map Char.toNat

/-- No half of a character stands alone among code points. -/
def isWhole (points : List Nat) : Bool :=
  points.all Nat.isValidChar

/-- The text that code points are, if they are whole. -/
def ofPoints (points : List Nat) : String :=
  String.ofList (points.map Char.ofNat)

@[simp] theorem isWhole_points (s : String) : isWhole (points s) = true := by
  simp only [isWhole, points, List.all_map, List.all_eq_true, Function.comp_apply,
    decide_eq_true_eq]
  exact fun c _ => c.valid

@[simp] theorem ofPoints_points (s : String) : ofPoints (points s) = s := by
  simp [ofPoints, points, List.map_map, Function.comp_def]

theorem points_ofPoints {ns : List Nat} (h : isWhole ns = true) : points (ofPoints ns) = ns := by
  have hpoint : ∀ n ∈ ns, (Char.toNat ∘ Char.ofNat) n = n := by
    intro n hn
    have hvalid : n.isValidChar := of_decide_eq_true (List.all_eq_true.mp h n hn)
    rw [Function.comp_apply, Char.ofNat, dif_pos hvalid]
    rfl
  rw [points, ofPoints, String.toList_ofList, List.map_map, List.map_congr_left hpoint,
    List.map_id']

theorem points_inj {s t : String} : points s = points t ↔ s = t :=
  ⟨fun h => by rw [← ofPoints_points s, h, ofPoints_points], fun h => by rw [h]⟩

/-! ### Quotes -/

/-- Single quotes enclose every text but one that holds a single and no double quote. -/
def enclosingQuote (cs : List Char) : Char :=
  if cs.contains '\'' && !cs.contains '"' then '"' else '\''

/-- A character that is not printable is written by its code point, with as few of 2, 4 or 8
hexadecimal digits as hold it. -/
def codePointEscape (c : Char) : List Char :=
  let n := c.toNat
  if n < 0x100 then '\\' :: 'x' :: hexNumeral .lower 2 n
  else if n < 0x10000 then '\\' :: 'u' :: hexNumeral .lower 4 n
  else '\\' :: 'U' :: hexNumeral .lower 8 n

/-- One character between the given quotes. -/
def quotedChar (quote c : Char) : List Char :=
  if c = quote ∨ c = '\\' then ['\\', c]
  else if c = '\n' then ['\\', 'n']
  else if c = '\r' then ['\\', 'r']
  else if c = '\t' then ['\\', 't']
  else if isPrintable c then [c]
  else codePointEscape c

/-- A text between its quotes, where halves of characters may stand alone; they are escaped. -/
def quotedPoints (points : List Nat) : String :=
  let quote := enclosingQuote (points.map Char.ofNat)
  let written := points.flatMap fun n =>
    if n.isValidChar then quotedChar quote (Char.ofNat n)
    else '\\' :: 'u' :: hexNumeral .lower 4 n
  String.ofList (quote :: written ++ [quote])

/-- A text in which halves of characters stand alone, these escaped and the rest as it is. -/
def consolePoints (points : List Nat) : String :=
  String.ofList (points.flatMap fun n =>
    if n.isValidChar then [Char.ofNat n] else '\\' :: 'u' :: hexNumeral .lower 4 n)

/-- A text between its quotes. -/
def quoted (s : String) : String :=
  let quote := enclosingQuote s.toList
  String.ofList (quote :: s.toList.flatMap (quotedChar quote) ++ [quote])

/-- A text is quoted as its code points are. -/
theorem quotedPoints_points (s : String) : quotedPoints (points s) = quoted s := by
  have hchars : (points s).map Char.ofNat = s.toList := by
    simp [points, List.map_map, Function.comp_def]
  have hwritten : ∀ quote, ((points s).flatMap fun n =>
      if n.isValidChar then quotedChar quote (Char.ofNat n)
      else '\\' :: 'u' :: hexNumeral .lower 4 n) = s.toList.flatMap (quotedChar quote) := by
    intro quote
    rw [points, List.flatMap_map]
    congr 1
    funext c
    have hvalid : c.toNat.isValidChar := c.valid
    rw [if_pos hvalid, Char.ofNat_toNat]
  simp only [quotedPoints, quoted, hchars, hwritten]

end PrefixCalc.Text
