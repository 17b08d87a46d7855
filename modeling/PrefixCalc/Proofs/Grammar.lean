import PrefixCalc.Failure
import PrefixCalc.Proofs.ReaderRuns

/-!
# The Grammar of Expressions

The reader accepts exactly the lines that its grammar derives, and gives them the tree that the
grammar gives them. The grammar is stated over trees: a well-formed tree may be written as its
line, an operator and the yields of its operands, or as the same line in one pair of
parentheses (`Tree.Spells`). There is no third way, and no line is written for two trees.

Completeness follows the tree: the reader takes the yield of a proper tree as one operand,
wherever it stands, as long as the tree is not nested deeper than the open applications leave
room for (`reach_yield`). Soundness is what `ReaderRuns` says of every run: the state in which
the line ends has written it.

## Main results

* `Reader.reach_yield`: the yield of a tree is read as an operand.
* `Tree.parse_eq_ok_iff`: reading a text, over its lexemes.
* `Tree.parse_accepts_grammar`: reading a text, over the texts of its tokens.
-/

namespace PrefixCalc

open PrefixCalc.Tree (maxNesting)

namespace Reader

variable {parenthesised : Bool}

/-! ### Trees are read as they are written -/

theorem reach_yieldAll {ts : List Tree} (top : Frame) (outer : List Frame)
    (h : ∀ t ∈ ts, ∀ top : Frame,
      reach parenthesised (.within top outer) t.yield = .ok (.within (top.add t) outer)) :
    reach parenthesised (.within top outer) (Tree.yieldAll ts) =
      .ok (.within ⟨top.operator, ts.reverse ++ top.reversed⟩ outer) := by
  induction ts generalizing top with
  | nil => rfl
  | cons t ts ih =>
      rw [List.forall_mem_cons] at h
      rw [Tree.yieldAll_cons, reach_append_of_reach (h.1 top), ih (top.add t) h.2, Frame.add,
        List.reverse_cons, List.append_assoc, List.singleton_append]

/-- The yield of a proper tree is read as one operand when there is room for its depth. -/
theorem reach_yield {t : Tree} (hproper : t.isProper = true) {top : Frame} {outer : List Frame}
    (hroom : t.depth + outer.length ≤ maxNesting) :
    reach parenthesised (.within top outer) t.yield = .ok (.within (top.add t) outer) := by
  induction t using Tree.inductionOn generalizing top outer with
  | leaf literal => rw [Tree.yield_leaf, reach_cons_of_step .operand, reach_nil]
  | application operator operands ih =>
      obtain ⟨hoperator, hne, hoperands⟩ := Tree.isProper_application.mp hproper
      rw [Tree.depth_application] at hroom
      have hdepth : ∀ t ∈ operands, t.depth ≤ Tree.depthAll operands :=
        Tree.depthAll_le_iff.mp (Nat.le_refl _)
      have hinside :
          reach parenthesised (.within ⟨operator, []⟩ (top :: outer)) (Tree.yieldAll operands) =
            .ok (.within ⟨operator, operands.reverse ++ []⟩ (top :: outer)) := by
        refine reach_yieldAll _ _ fun t ht f => ih t ht (hoperands t ht) ?_
        have hle := hdepth t ht
        rw [List.length_cons]
        omega
      have hclose : Frame.tree ⟨operator, operands.reverse ++ []⟩ =
          .application operator operands := by simp [Frame.tree]
      rw [Tree.yield_application, Tree.line, reach_cons_of_step (.nest (by omega)),
        List.cons_append,
        reach_cons_of_step (.operator (Tree.isOperatorText_iff.mp hoperator).2),
        reach_append_of_reach hinside, reach_cons_of_step (.close (by simpa using hne)),
        reach_nil, hclose]
  | foreign value => exact absurd hproper (by simp [Tree.isProper])

/-- The line of an expression is read up to its last operand. -/
theorem reach_line (parenthesised : Bool) {t : Tree} (h : t.WellFormed) :
    ∃ top : Frame, top.reversed ≠ [] ∧ top.tree = t ∧
      reach parenthesised (.opening []) t.line = .ok (.within top []) := by
  obtain ⟨operator, operands, rfl⟩ := h.root
  obtain ⟨hoperator, hne, hoperands, hshallow⟩ := Tree.wellFormed_application.mp h
  refine ⟨⟨operator, operands.reverse ++ []⟩, by simpa using hne, by simp [Frame.tree], ?_⟩
  rw [Tree.line, reach_cons_of_step (.operator (Tree.isOperatorText_iff.mp hoperator).2)]
  exact reach_yieldAll _ _ fun t ht f => reach_yield (hoperands t ht) (hshallow t ht)

end Reader

/-! ### Lines -/

/-- The lexemes of a line that are read: all but the parenthesis around it. -/
def body (ls : List Lexeme) : List Lexeme :=
  if isParenthesised ls then ls.drop 1 else ls

/-- A line that is parenthesised starts with a parenthesis. -/
theorem exists_eq_opening_cons {ls : List Lexeme} (h : isParenthesised ls = true) :
    ∃ rest, ls = .opening :: rest := by
  unfold isParenthesised at h
  split at h
  · exact ⟨_, rfl⟩
  · exact absurd h (by simp)

theorem isProper_of_mem_body {ls : List Lexeme} (h : ∀ l ∈ ls, l.isProper = true) {l : Lexeme}
    (hl : l ∈ body ls) : l.isProper = true := by
  unfold body at hl
  split at hl
  · exact h l (List.mem_of_mem_drop hl)
  · exact h l hl

namespace Tree

/-- A text without lexemes is refused in its first column. -/
theorem parse_of_lexemes_eq_nil {text : String} (h : lexemes text = []) :
    parse text = .error ⟨.expectedOperator, 1⟩ := by
  rw [lexemes, List.map_eq_nil_iff] at h
  rw [parse, ofTokens, h]
  rfl

/-- A text with lexemes is read by a run of the reader over its tokens. -/
theorem parse_eq_run {text : String} (h : lexemes text ≠ []) :
    parse text =
      Reader.run (isParenthesised (lexemes text)) (text.length + 1) (.opening [])
        (if isParenthesised (lexemes text) then (Token.scan text).drop 1
          else Token.scan text) := by
  rw [lexemes, Ne, List.map_eq_nil_iff, ← List.isEmpty_iff] at h
  rw [parse, ofTokens, if_neg h, lexemes]

theorem body_lexemes (text : String) :
    body (lexemes text) =
      (if isParenthesised (lexemes text) then (Token.scan text).drop 1
        else Token.scan text).map Token.lexeme := by
  rw [body, lexemes, apply_ite (List.map Token.lexeme), List.map_drop]

/-- **A text is read** when the reader takes the lexemes that it is given, and their end. -/
theorem parse_eq_ok_iff_reach {text : String} {t : Tree} :
    parse text = .ok t ↔
      ∃ s, Reader.reach (isParenthesised (lexemes text)) (.opening []) (body (lexemes text)) =
          .ok s ∧ Reader.finish (isParenthesised (lexemes text)) s = .ok t := by
  by_cases hnil : lexemes text = []
  · rw [parse_of_lexemes_eq_nil hnil, hnil]
    simp [body, isParenthesised, Reader.finish]
  · rw [parse_eq_run hnil, Reader.run_eq_ok_iff, body_lexemes]

/-- What the reader accepts, it has been written for a well-formed tree. -/
theorem wellFormed_of_reach {parenthesised : Bool} {ls : List Lexeme} {s : Reader.State}
    {t : Tree} (hls : ∀ l ∈ ls, l.isProper = true)
    (hreach : Reader.reach parenthesised (.opening []) ls = .ok s)
    (hfinish : Reader.finish parenthesised s = .ok t) :
    t.WellFormed ∧ ls = if parenthesised then t.line ++ [.closing] else t.line := by
  have hsound := Reader.reach_sound hreach trivial hls
  have hwritten := Reader.reach_written hreach
  rw [Reader.State.written, Reader.openedBy, List.nil_append] at hwritten
  rcases Reader.finish_eq_ok hfinish with rfl | ⟨rfl, top, hne, rfl, rfl⟩
  · obtain ⟨rfl, ht⟩ := hsound
    exact ⟨ht, hwritten.symm⟩
  · exact ⟨hsound.1.wellFormed_tree hne, hwritten.symm⟩

/-- **The reader accepts exactly the two written forms of a well-formed tree.** -/
theorem parse_eq_ok_iff {text : String} {t : Tree} :
    parse text = .ok t ↔ t.WellFormed ∧ (lexemes text = t.line ∨ lexemes text = t.yield) := by
  rw [parse_eq_ok_iff_reach]
  constructor
  · rintro ⟨s, hreach, hfinish⟩
    obtain ⟨ht, hbody⟩ := wellFormed_of_reach
      (fun l => isProper_of_mem_body fun l => isProper_of_mem_lexemes) hreach hfinish
    refine ⟨ht, ?_⟩
    cases hp : isParenthesised (lexemes text) with
    | false =>
        left
        simpa [body, hp] using hbody
    | true =>
        right
        obtain ⟨rest, hrest⟩ := exists_eq_opening_cons hp
        obtain ⟨operator, operands, rfl⟩ := ht.root
        rw [body, hp, if_pos rfl, if_pos rfl, hrest, List.drop_one, List.tail_cons] at hbody
        rw [yield_application, hrest, hbody]
  · rintro ⟨ht, hline | hyield⟩
    · obtain ⟨top, hne, hroot, hreach⟩ := Reader.reach_line false ht
      rw [hline, body, isParenthesised_line, if_neg (by simp)]
      refine ⟨_, hreach, ?_⟩
      rw [← hroot]
      simp [Reader.finish, hne]
    · obtain ⟨operator, operands, rfl⟩ := ht.root
      obtain ⟨top, hne, hroot, hreach⟩ := Reader.reach_line true ht
      rw [hyield, body, isParenthesised_yield, if_pos rfl, yield_application, List.drop_one,
        List.tail_cons, Reader.reach_append_of_reach hreach,
        Reader.reach_cons_of_step (.closeLine rfl hne), Reader.reach_nil]
      exact ⟨_, rfl, by rw [hroot]; rfl⟩

/-! ### The texts of tokens -/

/-- The texts of the tokens of a text. -/
def words (text : String) : List String :=
  (Token.scan text).map fun k => k.lexeme.text

/-- Texts in a row spell a tree as an operator followed by the yields of its operands, or as the
same in one pair of parentheses. -/
def Spells (t : Tree) (ws : List String) : Prop :=
  ws = t.line.map Lexeme.text ∨ ws = "(" :: (t.line.map Lexeme.text ++ [")"])

theorem words_eq_map_text (text : String) : words text = (lexemes text).map Lexeme.text := by
  rw [words, lexemes, List.map_map]
  rfl

/-- For a well-formed tree, the texts of the tokens spell the tree when the tokens do. -/
theorem spells_words_iff {t : Tree} (h : t.WellFormed) {text : String} :
    t.Spells (words text) ↔ lexemes text = t.line ∨ lexemes text = t.yield := by
  have htext : ∀ l ∈ lexemes text, l.isProper = true := fun l => isProper_of_mem_lexemes
  have hline : ∀ l ∈ t.line, l.isProper = true := fun l => isProper_of_mem_line h.proper
  have hyield : ∀ l ∈ t.yield, l.isProper = true := fun l => isProper_of_mem_yield h.proper
  have hwrapped : "(" :: (t.line.map Lexeme.text ++ [")"]) = t.yield.map Lexeme.text := by
    obtain ⟨operator, operands, rfl⟩ := h.root
    rw [yield_application, List.map_cons, List.map_append]
    rfl
  rw [Spells, words_eq_map_text, hwrapped]
  constructor
  · rintro (heq | heq)
    · exact .inl (map_text_injOn htext hline heq)
    · exact .inr (map_text_injOn htext hyield heq)
  · rintro (heq | heq)
    · exact .inl (congrArg (List.map Lexeme.text) heq)
    · exact .inr (congrArg (List.map Lexeme.text) heq)

/-- **The reader accepts exactly its grammar.** A text is read as a tree when the tree is
well-formed and the texts of the tokens spell it; every other text is refused, with a failure of
the parse kind whatever the name of the input; and no text spells two trees. -/
theorem parse_accepts_grammar (text : String) :
    (∀ t, parse text = .ok t ↔ t.WellFormed ∧ t.Spells (words text)) ∧
      ((¬ ∃ t : Tree, t.WellFormed ∧ t.Spells (words text)) ↔
        ∃ e, parse text = .error e ∧ ∀ source, (Failure.ofReadError source e).kind = .parse) ∧
      ∀ t u : Tree, t.WellFormed ∧ t.Spells (words text) →
        u.WellFormed ∧ u.Spells (words text) → t = u := by
  have haccepts : ∀ t, parse text = .ok t ↔ t.WellFormed ∧ t.Spells (words text) := by
    intro t
    rw [parse_eq_ok_iff]
    exact and_congr_right fun h => (spells_words_iff h).symm
  refine ⟨haccepts, ?_, ?_⟩
  · constructor
    · intro hnone
      cases hparse : parse text with
      | ok t => exact absurd ⟨t, (haccepts t).mp hparse⟩ hnone
      | error e => exact ⟨e, rfl, fun _ => rfl⟩
    · rintro ⟨e, he, -⟩ ⟨t, ht⟩
      rw [(haccepts t).mpr ht] at he
      exact absurd he (by simp)
  · intro t u ht hu
    have h := (haccepts t).mpr ht
    rw [(haccepts u).mpr hu, Except.ok.injEq] at h
    exact h.symm

/-- An application with another one inside, in parentheses. -/
theorem parse_nested_application :
    parse "(+ 1 (* 2 -3))" =
      .ok (.application "+" [.leaf "1", .application "*" [.leaf "2", .leaf "-3"]]) :=
  ((parse_accepts_grammar _).1 _).mpr
    ⟨⟨⟨_, _, rfl⟩, by decide, by decide⟩, .inr (by decide)⟩

end Tree

end PrefixCalc
