/-!
# Splitting

A text cut at every occurrence of a separator, or at the first.

## Main definitions

* `splitAt`: the parts between all separators, at least one.
* `cut`: the parts before and behind the first separator.
-/

namespace PrefixCalc.Text

/-- The parts between the separators; a text without separator is one part. -/
def splitAt (separator : Char) : List Char → List (List Char)
  | [] => [[]]
  | c :: cs =>
    if c = separator then [] :: splitAt separator cs
    else
      match splitAt separator cs with
      | part :: parts => (c :: part) :: parts
      | [] => [[c]]

/-- What stands before the first separator, and behind it if there is one. -/
def cut (separator : Char) (cs : List Char) : List Char × Option (List Char) :=
  (cs.takeWhile (· != separator), (cs.dropWhile (· != separator)).tail?)

/-- There is at least one part. -/
theorem splitAt_ne_nil (separator : Char) (cs : List Char) : splitAt separator cs ≠ [] := by
  cases cs with
  | nil => simp [splitAt]
  | cons c cs =>
    unfold splitAt
    split
    · simp
    · split <;> simp

/-- The parts, joined by the separator, are the text. -/
theorem intercalate_splitAt (separator : Char) (cs : List Char) :
    List.intercalate [separator] (splitAt separator cs) = cs := by
  induction cs with
  | nil => rfl
  | cons c cs ih =>
    obtain ⟨part, parts, hs⟩ := List.exists_cons_of_ne_nil (splitAt_ne_nil separator cs)
    rw [hs] at ih
    by_cases h : c = separator
    · simp_all [splitAt, List.intercalate]
    · cases parts <;> simp_all [splitAt, List.intercalate]

end PrefixCalc.Text
