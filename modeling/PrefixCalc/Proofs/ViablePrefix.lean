import Mathlib.Order.Bounds.Defs
import PrefixCalc.Proofs.Grammar

/-!
# Viable Prefixes

A sequence of lexemes is viable when an accepted text can start with it. The reader has the
viable-prefix property: as long as it takes the lexemes of a line they are viable, since from
every state a line can be completed (`exists_completion`); and the lexeme that it refuses makes
them unviable, since an accepted line is read in the same mode, with or without the parenthesis
around it, and would pass through the same state.

The mode is the one thing that the reader decides by looking ahead. On accepted lines it is
fixed by the first lexeme (`isParenthesised_of_parse`), and so it is for the statements below as
soon as the line does not start with a parenthesis that is read as if it were an operator.

## Main results

* `viable_of_reach`: what the reader has taken is viable.
* `not_viable_of_refused`: with the lexeme that it refuses it is not.
* `isGreatest_viable`: the longest viable prefix of a line.
-/

namespace PrefixCalc

open Reader

variable {parenthesised : Bool} {s : State}

/-- Some accepted text starts with these lexemes. -/
def Viable (ls : List Lexeme) : Prop :=
  ∃ text t, Tree.parse text = .ok t ∧ ls <+: lexemes text

theorem Viable.of_shorter {ls ms : List Lexeme} (h : Viable ms) (hls : ls <+: ms) :
    Viable ls := by
  obtain ⟨text, t, hparse, hms⟩ := h
  exact ⟨text, t, hparse, hls.trans hms⟩

/-- The parenthesis around a line, if there is one. -/
def lead (parenthesised : Bool) : List Lexeme :=
  if parenthesised then [.opening] else []

/-- A line is its parenthesis and what is read. -/
theorem lead_append_body (ls : List Lexeme) : lead (isParenthesised ls) ++ body ls = ls := by
  cases hp : isParenthesised ls with
  | false => simp [lead, body, hp]
  | true =>
      obtain ⟨rest, rfl⟩ := exists_eq_opening_cons hp
      simp [lead, body, hp]

/-! ### Every state can be completed -/

/-- Behind an operand, closing parentheses complete a line. -/
theorem exists_completion_of_operand {top : Frame} (outer : List Frame)
    (h : top.reversed ≠ []) :
    ∃ more s' t, (∀ l ∈ more, l.isProper = true) ∧
      reach parenthesised (.within top outer) more = .ok s' ∧
      finish parenthesised s' = .ok t := by
  induction outer generalizing top with
  | nil =>
      cases parenthesised with
      | false => exact ⟨[], _, top.tree, by simp, reach_nil, by simp [finish, h]⟩
      | true =>
          refine ⟨[.closing], .closed top.tree, top.tree, by simp [Lexeme.isProper], ?_, rfl⟩
          rw [reach_cons_of_step (.closeLine rfl h), reach_nil]
  | cons f outer ih =>
      have hadd : (f.add top.tree).reversed ≠ [] := by simp [Frame.add]
      obtain ⟨more, s', t, hproper, hreach, hfinish⟩ := ih hadd
      refine ⟨.closing :: more, s', t, List.forall_mem_cons.mpr ⟨rfl, hproper⟩, ?_, hfinish⟩
      rw [reach_cons_of_step (.close h), hreach]

/-- Inside an application, one more operand and closing parentheses complete a line. -/
theorem exists_completion_of_operator (top : Frame) (outer : List Frame) :
    ∃ more s' t, (∀ l ∈ more, l.isProper = true) ∧
      reach parenthesised (.within top outer) more = .ok s' ∧
      finish parenthesised s' = .ok t := by
  have hadd : (top.add (.leaf "1")).reversed ≠ [] := by simp [Frame.add]
  obtain ⟨more, s', t, hproper, hreach, hfinish⟩ := exists_completion_of_operand outer hadd
  have hone : Lexeme.isProper (.atom "1") = true := by decide
  refine ⟨.atom "1" :: more, s', t, List.forall_mem_cons.mpr ⟨hone, hproper⟩, ?_, hfinish⟩
  rw [reach_cons_of_step .operand, hreach]

/-- **From every state a line can be completed.** -/
theorem exists_completion (parenthesised : Bool) (s : State) :
    ∃ more s' t, (∀ l ∈ more, l.isProper = true) ∧
      reach parenthesised s more = .ok s' ∧ finish parenthesised s' = .ok t := by
  cases s with
  | opening outer =>
      obtain ⟨more, s', t, hproper, hreach, hfinish⟩ :=
        exists_completion_of_operator ⟨"+", []⟩ outer
      have hplus : Lexeme.isProper (.atom "+") = true := by decide
      refine ⟨.atom "+" :: more, s', t, List.forall_mem_cons.mpr ⟨hplus, hproper⟩, ?_, hfinish⟩
      rw [reach_cons_of_step (.operator (by decide)), hreach]
  | within top outer => exact exists_completion_of_operator top outer
  | closed t => exact ⟨[], .closed t, t, by simp, reach_nil, rfl⟩

/-- **What the reader has taken is viable.** -/
theorem viable_of_reach {ls : List Lexeme} (hls : ∀ l ∈ ls, l.isProper = true)
    (hreach : reach parenthesised (.opening []) ls = .ok s) :
    Viable (lead parenthesised ++ ls) := by
  obtain ⟨more, s', t, hmore, hrest, hfinish⟩ := exists_completion parenthesised s
  have hwhole : reach parenthesised (.opening []) (ls ++ more) = .ok s' := by
    rw [reach_append_of_reach hreach, hrest]
  obtain ⟨ht, hwritten⟩ := Tree.wellFormed_of_reach
    (List.forall_mem_append.mpr ⟨hls, hmore⟩) hwhole hfinish
  cases parenthesised with
  | false =>
      have htext := lexemes_spaced fun l => Tree.isProper_of_mem_line ht.proper (l := l)
      refine ⟨_, t, Tree.parse_eq_ok_iff.mpr ⟨ht, .inl htext⟩, more, ?_⟩
      rw [htext, lead, if_neg (by simp), List.nil_append, hwritten, if_neg (by simp)]
  | true =>
      have htext := lexemes_spaced fun l => Tree.isProper_of_mem_yield ht.proper (l := l)
      refine ⟨_, t, Tree.parse_eq_ok_iff.mpr ⟨ht, .inr htext⟩, more, ?_⟩
      obtain ⟨operator, operands, rfl⟩ := ht.root
      rw [htext, lead, if_pos rfl, List.append_assoc, hwritten, if_pos rfl,
        Tree.yield_application, List.singleton_append]

/-! ### A refused lexeme ends a viable prefix -/

/-- What is refused is not taken. -/
theorem Reader.Refused.not_step {l : Lexeme} {c : Complaint} {s' : State}
    (h : Refused parenthesised s (some l) c) : ¬ Step parenthesised s l s' := by
  intro hstep
  cases hstep with
  | operator hoperator =>
      cases h with
      | operator hnumeral =>
          rw [hnumeral _ rfl] at hoperator
          exact absurd hoperator (by simp)
  | operand =>
      cases h with
      | operand _ hnext => exact absurd hnext (by simp)
  | nest hroom =>
      cases h with
      | operand _ hnext => exact absurd hnext (by simp)
      | nest hdeep => omega
  | close hne =>
      cases h with
      | operand hempty _ => exact hne hempty
  | closeLine hp hne =>
      cases h with
      | operand hempty _ => exact hne hempty
      | unopened _ hp' =>
          rw [hp] at hp'
          exact absurd hp' (by simp)

/-- An accepted line is parenthesised exactly when it starts with a parenthesis. -/
theorem isParenthesised_of_parse {text : String} {t : Tree} (h : Tree.parse text = .ok t) :
    isParenthesised (lexemes text) = true ↔ (lexemes text).head? = some .opening := by
  obtain ⟨ht, hline | hyield⟩ := Tree.parse_eq_ok_iff.mp h
  · obtain ⟨operator, operands, rfl⟩ := ht.root
    rw [hline, isParenthesised_line, Tree.line]
    simp
  · obtain ⟨operator, operands, rfl⟩ := ht.root
    rw [hyield, isParenthesised_yield, Tree.yield_application]
    simp

/-- **What the reader has taken is not viable with a lexeme that it refuses.** The one exception
is a parenthesis at the start of a line that is read as if it were an operator. -/
theorem not_viable_of_refused {ls : List Lexeme} {l : Lexeme} {c : Complaint}
    (hreach : reach parenthesised (.opening []) ls = .ok s)
    (hrefused : Refused parenthesised s (some l) c)
    (hstart : parenthesised = false → (ls ++ [l]).head? ≠ some .opening) :
    ¬ Viable (lead parenthesised ++ ls ++ [l]) := by
  rintro ⟨text, t, hparse, rest, hrest⟩
  rw [List.append_assoc, List.append_assoc] at hrest
  have hmode : isParenthesised (lexemes text) = parenthesised := by
    cases parenthesised with
    | true =>
        rw [isParenthesised_of_parse hparse, ← hrest]
        rfl
    | false =>
        have hhead : (lexemes text).head? = (ls ++ [l]).head? := by
          rw [← hrest]
          cases ls <;> rfl
        rw [Bool.eq_false_iff, Ne, isParenthesised_of_parse hparse, hhead]
        exact hstart rfl
  have hbody : body (lexemes text) = ls ++ ([l] ++ rest) := by
    have h := lead_append_body (lexemes text)
    rw [hmode] at h
    exact List.append_cancel_left (h.trans hrest.symm)
  obtain ⟨s', hwhole, -⟩ := Tree.parse_eq_ok_iff_reach.mp hparse
  rw [hmode, hbody, reach_append_of_reach hreach, List.singleton_append] at hwhole
  obtain ⟨s'', hstep, -⟩ := reach_cons_eq_ok_iff.mp hwhole
  exact hrefused.not_step hstep

/-! ### The longest viable prefix -/

/-- A viable prefix that is not viable with one more lexeme is the longest one. -/
theorem isGreatest_viable {ls : List Lexeme} {k : Nat} (hk : k ≤ ls.length)
    (hviable : Viable (ls.take k)) (hnext : k < ls.length → ¬ Viable (ls.take (k + 1))) :
    IsGreatest {j | j ≤ ls.length ∧ Viable (ls.take j)} k := by
  refine ⟨⟨hk, hviable⟩, ?_⟩
  rintro j ⟨hj, hj'⟩
  refine Nat.le_of_not_lt fun hlt => ?_
  exact hnext (by omega) (hj'.of_shorter (List.take_prefix_take_left (by omega)))

end PrefixCalc
