import PrefixCalc.Proofs.Descent
import PrefixCalc.Proofs.Grammar

/-!
# The Bracket Scan

Two things decide where a parenthesis closes. The scan (`closingIndex`) counts parentheses and
knows no grammar; it is asked once, before a line is read, whether the parenthesis in front is the
one around the line. The descent knows the grammar, and a closed application takes the
parenthesis behind its operands, whatever the scan has said.

Here the scan may start at any index (`closingIndexAt`), and wherever both come to an answer it is
the same: an application that the descent has read behind a parenthesis is written with as many
opening as closing parentheses, so the scan passes over it and stops at the lexeme that the
descent has taken last. On a line that the scan takes for parenthesised nothing can be left over
behind the application, and a parenthesis that the scan finds unclosed no descent can close.

## Main results

* `Reads.closingIndexAt_eq`: the descent takes the parenthesis that the scan finds.
* `Line.ne_expectedEnd`: nothing is left over on a parenthesised line.
* `scan_agrees_with_descent`: what the scan says of the reader.
-/

namespace PrefixCalc

namespace Descent

variable {ls : List Lexeme} {routine : Routine} {c c' : Cursor} {es : List Event}
  {ts : List Tree} {k : Complaint}

/-! ### The scan from any index -/

/-- Where the parentheses that are opened from an index on have all closed again. -/
def closingIndexAt (ls : List Lexeme) (i : Nat) : Option Nat :=
  (closingIndex (ls.drop i)).map (· + i)

@[simp] theorem closingIndexAt_zero (ls : List Lexeme) :
    closingIndexAt ls 0 = closingIndex ls := by
  simp [closingIndexAt]

/-- A line that starts with a parenthesis is taken for parenthesised when the scan finds its last
index, or none. -/
theorem isParenthesised_iff (h : ls[0]? = some .opening) :
    isParenthesised ls = true ↔
      closingIndexAt ls 0 = none ∨ closingIndexAt ls 0 = some (ls.length - 1) := by
  obtain ⟨rest, rfl⟩ : ∃ rest, ls = .opening :: rest := by
    cases ls with
    | nil => cases h
    | cons l rest => exact ⟨rest, by simpa using h⟩
  rw [closingIndexAt_zero, isParenthesised]
  cases closingIndex (.opening :: rest) <;> simp

/-- The scan that starts where an application is written stops at its last lexeme. -/
theorem Consumes.closingIndexAt_eq {i q : Nat} {operator : String} {operands : List Tree}
    (h : Consumes ls i (Tree.application operator operands).yield q) :
    ∃ j, q = j + 1 ∧ ls[j]? = some .closing ∧ closingIndexAt ls i = some j := by
  have hscan := closingIndex_yield_append operator operands (ls.drop q)
  have hcloses := hscan
  rw [Tree.yield_application, List.cons_append, closingIndex_eq_some_iff, ← List.cons_append,
    ← Tree.yield_application, ← h.lexemes] at hcloses
  have hposition := h.position
  rw [Tree.yield_application, List.length_cons, List.length_append, List.length_singleton]
    at hposition
  refine ⟨i + ((Tree.application operator operands).line.length + 1), hposition, ?_, ?_⟩
  · rw [← List.getElem?_drop]
    exact hcloses.closing
  · rw [closingIndexAt, h.lexemes, hscan, Option.map_some, Nat.add_comm i]

/-! ### The descent and the scan -/

/-- **The descent takes the parenthesis that the scan finds**, behind any opening parenthesis and
whatever its counter shows. -/
theorem Reads.closingIndexAt_eq {i : Nat} {d : Int}
    (h : Reads ls (.application true) ⟨i + 1, d⟩ es ts c') (hopening : ls[i]? = some .opening) :
    ∃ j, c'.position = j + 1 ∧ ls[j]? = some .closing ∧ closingIndexAt ls i = some j := by
  obtain ⟨operator, operands, -, rfl⟩ := h.eq_application
  have hyield : Consumes ls i (Tree.application operator operands).yield c'.position := by
    simpa [Routine.written, Tree.yield_application] using
      (Consumes.single hopening).append h.consumes
  exact hyield.closingIndexAt_eq

/-- On a parenthesised line an application that is read takes all of it. -/
theorem Reads.position_eq_length (h : Reads ls (.application true) ⟨1, 0⟩ es ts c')
    (hp : isParenthesised ls = true) : c'.position = ls.length := by
  have hopening : ls[0]? = some .opening := by
    obtain ⟨rest, rfl⟩ := exists_eq_opening_cons hp
    rfl
  obtain ⟨j, hposition, hclosing, hscan⟩ := h.closingIndexAt_eq hopening
  have hin : j < ls.length := (List.getElem?_eq_some_iff.mp hclosing).1
  rw [isParenthesised_iff hopening, hscan] at hp
  rcases hp with hnone | hlast
  · cases hnone
  · rw [Option.some.injEq] at hlast
    omega

/-- Only behind the application of a line the end of the line is missed. -/
theorem Fails.ne_expectedEnd (h : Fails ls routine c es k c') : k ≠ .expectedEnd := by
  induction h with
  | tooDeep => simp
  | nested _ _ _ ih => exact ih
  | first _ ih => exact ih
  | rest _ _ ih => exact ih
  | operator => simp
  | operands _ _ ih => exact ih
  | expression => simp
  | closing => simp

section Lines

variable {r : Except Complaint Tree}

theorem start_eq (hp : isParenthesised ls = true) : start ls = ⟨1, 0⟩ := by
  rw [start, hp]
  rfl

/-- **Nothing is left over on a parenthesised line.** -/
theorem Line.ne_expectedEnd (h : Line ls es r c) (hp : isParenthesised ls = true) :
    r ≠ .error .expectedEnd := by
  cases h with
  | reads => simp
  | fails h => simpa using h.ne_expectedEnd
  | behind h hnext =>
      rw [hp, start_eq hp] at h
      have hin := (List.getElem?_eq_some_iff.mp hnext).1
      rw [h.position_eq_length hp] at hin
      exact absurd hin (lt_irrefl _)

/-- What is answered on a parenthesised line has been read from behind the first parenthesis to
the end. -/
theorem Line.reads_of_isParenthesised {t : Tree} (h : Line ls es (.ok t) c)
    (hp : isParenthesised ls = true) :
    Reads ls (.application true) ⟨1, 0⟩ es [t] ⟨ls.length, 0⟩ := by
  cases h with
  | reads h _ =>
      rw [hp, start_eq hp] at h
      obtain ⟨position, depth⟩ := c
      obtain rfl : position = ls.length := h.position_eq_length hp
      obtain rfl : depth = 0 := h.depth
      exact h

end Lines

section Tokens

variable {ks : List Token}

/-- A tree that is read from a parenthesised line has been read up to the end. -/
theorem exists_reads_of_ok {t : Tree} {endColumn : Nat}
    (hp : isParenthesised (ks.map Token.lexeme) = true)
    (ht : Tree.ofTokens endColumn ks = .ok t) :
    ∃ es, Reads (ks.map Token.lexeme) (.application true) ⟨1, 0⟩ es [t]
      ⟨(ks.map Token.lexeme).length, 0⟩ := by
  obtain ⟨es, c, hline⟩ := exists_line_of_ok ht
  exact ⟨es, hline.reads_of_isParenthesised hp⟩

/-- A parenthesised line is not refused because it goes on. -/
theorem complaint_ne_expectedEnd {e : ReadError} {endColumn : Nat}
    (hp : isParenthesised (ks.map Token.lexeme) = true)
    (he : Tree.ofTokens endColumn ks = .error e) : e.complaint ≠ .expectedEnd := by
  have hks : ks ≠ [] := by
    rintro rfl
    cases hp
  obtain ⟨es, c, hline⟩ := exists_line_of_error hks he
  simpa using hline.ne_expectedEnd hp

/-- A line whose first parenthesis is never closed is refused. -/
theorem exists_error_of_closingIndexAt_eq_none
    (hopening : (ks.map Token.lexeme)[0]? = some .opening)
    (hnone : closingIndexAt (ks.map Token.lexeme) 0 = none) (endColumn : Nat) :
    ∃ e, Tree.ofTokens endColumn ks = .error e := by
  have hp := (isParenthesised_iff hopening).mpr (.inl hnone)
  cases hanswer : Tree.ofTokens endColumn ks with
  | error e => exact ⟨e, rfl⟩
  | ok t =>
      -- the descent would have closed it
      obtain ⟨es, h⟩ := exists_reads_of_ok hp hanswer
      obtain ⟨j, -, -, hscan⟩ := h.closingIndexAt_eq hopening
      rw [hnone] at hscan
      cases hscan

end Tokens

/-- **The scan agrees with the descent.** When the parenthesis in front of a line closes with its
last lexeme, every descent that starts behind the one has taken the other when it returns, and
that is how the line is read if it is. So a line that is taken for parenthesised is never refused
because it goes on; a line whose first parenthesis is never closed is always refused; and behind
any opening parenthesis of any line, the parenthesis that a descent takes last is the one that the
scan from there finds. -/
theorem scan_agrees_with_descent (ks : List Token) (endColumn : Nat) :
    let ls := ks.map Token.lexeme
    (ls[0]? = some .opening → closingIndexAt ls 0 = some (ls.length - 1) →
      (∀ es ts c, Reads ls (.application true) ⟨1, 0⟩ es ts c →
        c.position = ls.length ∧ ls[ls.length - 1]? = some .closing) ∧
      ∀ t, Tree.ofTokens endColumn ks = .ok t →
        ∃ es, Reads ls (.application true) ⟨1, 0⟩ es [t] ⟨ls.length, 0⟩) ∧
    (isParenthesised ls = true →
      ∀ e, Tree.ofTokens endColumn ks = .error e → e.complaint ≠ .expectedEnd) ∧
    (ls[0]? = some .opening → closingIndexAt ls 0 = none →
      ∃ e, Tree.ofTokens endColumn ks = .error e) ∧
    ∀ i d es ts c, ls[i]? = some .opening → Reads ls (.application true) ⟨i + 1, d⟩ es ts c →
      ∃ j, c.position = j + 1 ∧ ls[j]? = some .closing ∧ closingIndexAt ls i = some j := by
  intro ls
  refine ⟨?_, ?_, ?_, ?_⟩
  · intro hopening hlast
    have hp : isParenthesised ls = true := (isParenthesised_iff hopening).mpr (.inr hlast)
    constructor
    · intro es ts c h
      obtain ⟨j, -, hclosing, hscan⟩ := h.closingIndexAt_eq hopening
      rw [hlast, Option.some.injEq] at hscan
      exact ⟨h.position_eq_length hp, hscan ▸ hclosing⟩
    · intro t ht
      exact exists_reads_of_ok hp ht
  · intro hp e he
    exact complaint_ne_expectedEnd hp he
  · intro hopening hnone
    exact exists_error_of_closingIndexAt_eq_none hopening hnone endColumn
  · intro i d es ts c hopening h
    exact h.closingIndexAt_eq hopening

/-- A line in parentheses with an application inside, and the same line without its last
parenthesis. -/
theorem scan_agrees_with_descent_nested :
    let ls := (Token.scan "(+ 1 (* 2 3))").map Token.lexeme
    (∃ es, Reads ls (.application true) ⟨4, 1⟩ es
        [.application "*" [.leaf "2", .leaf "3"]] ⟨8, 1⟩) ∧
      closingIndexAt ls 3 = some 7 ∧ closingIndexAt ls 0 = some 8 ∧
      (∃ es t, Reads ls (.application true) ⟨1, 0⟩ es [t] ⟨9, 0⟩) ∧
      ∃ e, Tree.ofTokens 13 (Token.scan "(+ 1 (* 2 3)") = .error e := by
  intro ls
  have hinside : ∃ es, Reads ls (.application true) ⟨4, 1⟩ es
      [.application "*" [.leaf "2", .leaf "3"]] ⟨8, 1⟩ :=
    ⟨_, .closed ⟨rfl, by decide⟩
      (.more (.leaf rfl) (.more (.leaf rfl) (.stop (by decide)))) (by simp) rfl⟩
  obtain ⟨hlast, -, -, hfurther⟩ := scan_agrees_with_descent (Token.scan "(+ 1 (* 2 3))") 14
  obtain ⟨-, -, hunclosed, -⟩ := scan_agrees_with_descent (Token.scan "(+ 1 (* 2 3)") 13
  obtain ⟨es, hread⟩ := hinside
  obtain ⟨j, hposition, -, hscan⟩ := hfurther 3 1 es _ _ (by decide) hread
  obtain rfl : j = 7 := by
    simpa using hposition.symm
  obtain ⟨es', hline⟩ := (hlast (by decide) (by decide)).2
    (.application "+" [.leaf "1", .application "*" [.leaf "2", .leaf "3"]]) (by rfl)
  exact ⟨⟨es, hread⟩, hscan, by decide, ⟨es', _, hline⟩, hunclosed (by decide) (by decide)⟩

end Descent

end PrefixCalc
