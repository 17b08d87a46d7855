import Mathlib.Logic.Basic
import PrefixCalc.Proofs.Parentheses

/-!
# Runs of the Reader

What one lexeme does to the reader, and from it what a whole line does. `Step` lists the moves
of the reader, one constructor for each way in which it takes a lexeme; `Refused` lists the
ways in which it takes none. Between them they say everything that `step` and `finish` can do,
and all that follows is derived from the two lists.

A state stands for what has been read. `State.written` is that sequence of lexemes, recovered
from the applications that are still open, and `State.Sound` says that these applications are
proper and leave room below the nesting limit. Each move appends its lexeme to what is written
and keeps the state sound (`Step.sound`, `Step.written`), and so does every run (`reach_sound`,
`reach_written`).

## Main results

* `step_eq_ok_iff`, `refused_of_refuses`: the two lists are complete.
* `run_eq_ok_iff`, `exists_refused_of_run_eq_error`: a run ends behind the line, or where the
  reader refuses what comes next.
* `reach_sound`, `reach_written`: what the reader holds is what it has read.
-/

namespace PrefixCalc.Reader

open PrefixCalc.Tree (maxNesting)

/-! ### Moves -/

/-- The moves of the reader. -/
inductive Step (parenthesised : Bool) : State → Lexeme → State → Prop
  /-- An operator starts an application. -/
  | operator {outer : List Frame} {s : String} (h : Decimal.isNumeral s.toList = false) :
      Step parenthesised (.opening outer) (.atom s) (.within ⟨s, []⟩ outer)
  /-- An atom is an operand. -/
  | operand {top : Frame} {outer : List Frame} {s : String} :
      Step parenthesised (.within top outer) (.atom s) (.within (top.add (.leaf s)) outer)
  /-- A parenthesis opens an application inside another. -/
  | nest {top : Frame} {outer : List Frame} (h : outer.length < maxNesting) :
      Step parenthesised (.within top outer) .opening (.opening (top :: outer))
  /-- A parenthesis makes an application with operands an operand of the one around it. -/
  | close {top f : Frame} {outer : List Frame} (h : top.reversed ≠ []) :
      Step parenthesised (.within top (f :: outer)) .closing (.within (f.add top.tree) outer)
  /-- The parenthesis around the line closes. -/
  | closeLine {top : Frame} (hp : parenthesised = true) (h : top.reversed ≠ []) :
      Step parenthesised (.within top []) .closing (.closed top.tree)

/-- What the reader refuses, a lexeme or the end of the line, and its complaint. -/
inductive Refused (parenthesised : Bool) : State → Option Lexeme → Complaint → Prop
  /-- No operator starts an application. -/
  | operator {outer : List Frame} {next : Option Lexeme}
      (h : ∀ s, next = some (.atom s) → Decimal.isNumeral s.toList = true) :
      Refused parenthesised (.opening outer) next .expectedOperator
  /-- An application ends without operands. -/
  | operand {top : Frame} {outer : List Frame} {next : Option Lexeme} (h : top.reversed = [])
      (hnext : next = some .closing ∨ next = none) :
      Refused parenthesised (.within top outer) next .expectedExpression
  /-- An application opens at the nesting limit. -/
  | nest {top : Frame} {outer : List Frame} (h : maxNesting ≤ outer.length) :
      Refused parenthesised (.within top outer) (some .opening) .tooDeep
  /-- The line ends inside parentheses. -/
  | unclosed {top : Frame} {outer : List Frame} (h : top.reversed ≠ [])
      (hopen : parenthesised = true ∨ outer ≠ []) :
      Refused parenthesised (.within top outer) none .expectedClosing
  /-- A parenthesis closes that was never opened. -/
  | unopened {top : Frame} (h : top.reversed ≠ []) (hp : parenthesised = false) :
      Refused parenthesised (.within top []) (some .closing) .expectedEnd
  /-- The line goes on behind its closing parenthesis. -/
  | behind {t : Tree} {l : Lexeme} : Refused parenthesised (.closed t) (some l) .expectedEnd

variable {parenthesised : Bool} {s s' : State} {l : Lexeme} {c : Complaint}

theorem Step.eq_ok (h : Step parenthesised s l s') : step parenthesised s l = .ok s' := by
  cases h with
  | operator h => rw [step, h]; rfl
  | operand => rfl
  | nest h => rw [step, if_neg (by omega)]
  | close h => rw [step, if_neg (by simpa using h)]
  | closeLine hp h => rw [step, if_neg (by simpa using h), if_pos hp]

/-- **The list of moves is complete.** -/
theorem step_eq_ok_iff : step parenthesised s l = .ok s' ↔ Step parenthesised s l s' := by
  refine ⟨?_, Step.eq_ok⟩
  intro h
  cases s with
  | opening outer =>
      cases l with
      | opening => exact absurd h (by simp [step])
      | closing => exact absurd h (by simp [step])
      | atom w =>
          cases hw : Decimal.isNumeral w.toList with
          | true => exact absurd h (by simp [step, hw])
          | false =>
              rw [(Step.operator hw).eq_ok, Except.ok.injEq] at h
              exact h ▸ .operator hw
  | within top outer =>
      cases l with
      | atom w =>
          rw [Step.operand.eq_ok, Except.ok.injEq] at h
          exact h ▸ .operand
      | opening =>
          by_cases hdeep : maxNesting ≤ outer.length
          · exact absurd h (by simp [step, hdeep])
          · have hstep : Step parenthesised (.within top outer) .opening _ :=
              .nest (Nat.lt_of_not_le hdeep)
            rw [hstep.eq_ok, Except.ok.injEq] at h
            exact h ▸ hstep
      | closing =>
          by_cases hempty : top.reversed = []
          · exact absurd h (by simp [step, hempty])
          cases outer with
          | cons f outer =>
              rw [(Step.close hempty).eq_ok, Except.ok.injEq] at h
              exact h ▸ .close hempty
          | nil =>
              cases parenthesised with
              | false => exact absurd h (by simp [step, hempty])
              | true =>
                  rw [(Step.closeLine rfl hempty).eq_ok, Except.ok.injEq] at h
                  exact h ▸ .closeLine rfl hempty
  | closed t => exact absurd h (by simp [step])

/-- The reader's complaint about what comes next, a lexeme or the end of the line. -/
def Refuses (parenthesised : Bool) (s : State) (c : Complaint) : Option Lexeme → Prop
  | some l => step parenthesised s l = .error c
  | none => finish parenthesised s = .error c

/-- Every complaint is on the list of refusals. -/
theorem refused_of_refuses {next : Option Lexeme} (h : Refuses parenthesised s c next) :
    Refused parenthesised s next c := by
  cases s with
  | opening outer =>
      cases next with
      | none =>
          obtain rfl : .expectedOperator = c := by simpa [Refuses, finish] using h
          exact .operator (by simp)
      | some l =>
          cases l with
          | opening =>
              obtain rfl : .expectedOperator = c := by simpa [Refuses, step] using h
              exact .operator (by simp)
          | closing =>
              obtain rfl : .expectedOperator = c := by simpa [Refuses, step] using h
              exact .operator (by simp)
          | atom w =>
              cases hw : Decimal.isNumeral w.toList with
              | false => exact absurd h (by simp [Refuses, step, hw])
              | true =>
                  obtain rfl : .expectedOperator = c := by simpa [Refuses, step, hw] using h
                  refine .operator ?_
                  rintro v ⟨⟩
                  exact hw
  | within top outer =>
      by_cases hempty : top.reversed = []
      · cases next with
        | none =>
            obtain rfl : .expectedExpression = c := by
              simpa [Refuses, finish, hempty] using h
            exact .operand hempty (.inr rfl)
        | some l =>
            cases l with
            | atom w => exact absurd h (by simp [Refuses, step])
            | closing =>
                obtain rfl : .expectedExpression = c := by
                  simpa [Refuses, step, hempty] using h
                exact .operand hempty (.inl rfl)
            | opening =>
                by_cases hdeep : maxNesting ≤ outer.length
                · obtain rfl : .tooDeep = c := by simpa [Refuses, step, hdeep] using h
                  exact .nest hdeep
                · exact absurd h (by simp [Refuses, step, hdeep])
      · cases next with
        | none =>
            by_cases hopen : parenthesised = true ∨ outer ≠ []
            · obtain rfl : .expectedClosing = c := by
                simpa [Refuses, finish, hempty, hopen] using h
              exact .unclosed hempty hopen
            · exact absurd h (by simp_all [Refuses, finish])
        | some l =>
            cases l with
            | atom w => exact absurd h (by simp [Refuses, step])
            | opening =>
                by_cases hdeep : maxNesting ≤ outer.length
                · obtain rfl : .tooDeep = c := by simpa [Refuses, step, hdeep] using h
                  exact .nest hdeep
                · exact absurd h (by simp [Refuses, step, hdeep])
            | closing =>
                cases outer with
                | cons f outer => exact absurd h (by simp [Refuses, step, hempty])
                | nil =>
                    cases parenthesised with
                    | true => exact absurd h (by simp [Refuses, step, hempty])
                    | false =>
                        obtain rfl : .expectedEnd = c := by
                          simpa [Refuses, step, hempty] using h
                        exact .unopened hempty rfl
  | closed t =>
      cases next with
      | none => exact absurd h (by simp [Refuses, finish])
      | some l =>
          obtain rfl : .expectedEnd = c := by simpa [Refuses, step] using h
          exact .behind

/-- And what is on the list is refused. -/
theorem Refused.refuses {next : Option Lexeme} (h : Refused parenthesised s next c) :
    Refuses parenthesised s c next := by
  cases h with
  | @operator outer next hnumeral =>
      cases next with
      | none => rfl
      | some l =>
          cases l with
          | opening => rfl
          | closing => rfl
          | atom w => rw [Refuses, step, if_pos (hnumeral w rfl)]
  | operand hempty hnext =>
      rcases hnext with rfl | rfl
      · simp [Refuses, step, hempty]
      · simp [Refuses, finish, hempty]
  | nest hdeep => rw [Refuses, step, if_pos hdeep]
  | unclosed hne hopen => simp [Refuses, finish, hne, hopen]
  | unopened hne hp => simp [Refuses, step, hne, hp]
  | behind => rfl

/-- The end of a line is taken behind its closing parenthesis, and without parentheses around
the line behind an operand. -/
theorem finish_eq_ok {t : Tree} (h : finish parenthesised s = .ok t) :
    s = .closed t ∨
      parenthesised = false ∧
        ∃ top : Frame, top.reversed ≠ [] ∧ s = .within top [] ∧ t = top.tree := by
  cases s with
  | opening outer => exact absurd h (by simp [finish])
  | closed u =>
      rw [finish, Except.ok.injEq] at h
      exact .inl (h ▸ rfl)
  | within top outer =>
      by_cases hempty : top.reversed = []
      · exact absurd h (by simp [finish, hempty])
      by_cases hopen : parenthesised = true ∨ outer ≠ []
      · exact absurd h (by simp [finish, hempty, hopen])
      · rw [not_or, Bool.not_eq_true, not_ne_iff] at hopen
        obtain ⟨rfl, rfl⟩ := hopen
        have ht : top.tree = t := by simpa [finish, hempty] using h
        exact .inr ⟨rfl, top, hempty, rfl, ht.symm⟩

/-! ### Runs -/

/-- Where the reader stands after some lexemes, if it takes them all. -/
def reach (parenthesised : Bool) (s : State) (ls : List Lexeme) : Except Complaint State :=
  ls.foldlM (step parenthesised) s

@[simp] theorem reach_nil : reach parenthesised s [] = .ok s := rfl

theorem reach_cons_of_step (h : Step parenthesised s l s') (ls : List Lexeme) :
    reach parenthesised s (l :: ls) = reach parenthesised s' ls := by
  rw [reach, List.foldlM_cons, h.eq_ok]
  rfl

/-- A run over lexemes starts with a move. -/
theorem reach_cons_eq_ok_iff {ls : List Lexeme} {s'' : State} :
    reach parenthesised s (l :: ls) = .ok s'' ↔
      ∃ s', Step parenthesised s l s' ∧ reach parenthesised s' ls = .ok s'' := by
  constructor
  · intro h
    cases hstep : step parenthesised s l with
    | error c =>
        rw [reach, List.foldlM_cons, hstep] at h
        exact absurd h (by simp [bind, Except.bind])
    | ok s' =>
        have hmove := step_eq_ok_iff.mp hstep
        rw [reach_cons_of_step hmove] at h
        exact ⟨s', hmove, h⟩
  · rintro ⟨s', hmove, h⟩
    rw [reach_cons_of_step hmove, h]

theorem reach_append_of_reach {ls : List Lexeme} (h : reach parenthesised s ls = .ok s')
    (ms : List Lexeme) :
    reach parenthesised s (ls ++ ms) = reach parenthesised s' ms := by
  rw [reach] at h
  rw [reach, List.foldlM_append, h]
  rfl

/-- **A line is read** when all its lexemes are taken and so is its end. -/
theorem run_eq_ok_iff {endColumn : Nat} {ts : List Token} {t : Tree} :
    run parenthesised endColumn s ts = .ok t ↔
      ∃ s', reach parenthesised s (ts.map Token.lexeme) = .ok s' ∧
        finish parenthesised s' = .ok t := by
  induction ts generalizing s with
  | nil =>
      rw [run, List.map_nil, reach_nil]
      cases hfinish : finish parenthesised s <;> simp [Except.mapError, hfinish]
  | cons k ts ih =>
      rw [run, List.map_cons]
      cases hstep : step parenthesised s k.lexeme with
      | ok s' =>
          rw [reach_cons_of_step (step_eq_ok_iff.mp hstep)]
          exact ih
      | error c =>
          refine ⟨fun h => absurd h (by simp), ?_⟩
          rintro ⟨s', hreach, -⟩
          obtain ⟨s'', hmove, -⟩ := reach_cons_eq_ok_iff.mp hreach
          rw [hmove.eq_ok] at hstep
          exact absurd hstep (by simp)

/-- **A line is refused** at a lexeme or at its end, after all lexemes before it have been taken,
and the error carries that lexeme's column or the one behind the end. -/
theorem exists_refused_of_run_eq_error {endColumn : Nat} {ts : List Token} {e : ReadError}
    (h : run parenthesised endColumn s ts = .error e) :
    ∃ n s', n ≤ ts.length ∧
      reach parenthesised s ((ts.map Token.lexeme).take n) = .ok s' ∧
      Refused parenthesised s' (ts.map Token.lexeme)[n]? e.complaint ∧
      e.column = (ts[n]?).elim endColumn Token.column := by
  induction ts generalizing s with
  | nil =>
      refine ⟨0, s, Nat.le_refl 0, reach_nil, ?_⟩
      rw [run] at h
      cases hfinish : finish parenthesised s with
      | ok t => exact absurd h (by simp [hfinish, Except.mapError])
      | error c =>
          obtain rfl : (⟨c, endColumn⟩ : ReadError) = e := by
            simpa [hfinish, Except.mapError] using h
          exact ⟨@refused_of_refuses _ _ _ none hfinish, rfl⟩
  | cons k ts ih =>
      rw [run] at h
      cases hstep : step parenthesised s k.lexeme with
      | error c =>
          rw [hstep, Except.error.injEq] at h
          subst h
          exact ⟨0, s, Nat.zero_le _, reach_nil,
            @refused_of_refuses _ _ _ (some k.lexeme) hstep, rfl⟩
      | ok s' =>
          rw [hstep] at h
          obtain ⟨n, s'', hn, hreach, hrefused, hcolumn⟩ := ih h
          refine ⟨n + 1, s'', Nat.succ_le_succ hn, ?_, ?_, ?_⟩
          · rw [List.map_cons, List.take_succ_cons,
              reach_cons_of_step (step_eq_ok_iff.mp hstep)]
            exact hreach
          · rw [List.map_cons, List.getElem?_cons_succ]
            exact hrefused
          · rw [List.getElem?_cons_succ]
            exact hcolumn

/-! ### Sound states -/

/-- An open application is sound when its operator and operands are proper, and its operands
stay below the nesting limit behind the applications around it. -/
structure Frame.Sound (f : Frame) (around : Nat) : Prop where
  operator : Tree.isOperatorText f.operator = true
  proper : ∀ t ∈ f.reversed, t.isProper = true
  shallow : ∀ t ∈ f.reversed, t.depth + around ≤ maxNesting

/-- Open applications, innermost first, are sound when each is and none is opened at the nesting
limit. -/
def StackSound : List Frame → Prop
  | [] => True
  | f :: outer => f.Sound outer.length ∧ outer.length < maxNesting ∧ StackSound outer

/-- What the reader holds in a sound state could be part of an expression. -/
def State.Sound (parenthesised : Bool) : State → Prop
  | .opening outer => StackSound outer
  | .within top outer => top.Sound outer.length ∧ StackSound outer
  | .closed t => parenthesised = true ∧ t.WellFormed

theorem StackSound.length_le {outer : List Frame} (h : StackSound outer) :
    outer.length ≤ maxNesting := by
  cases outer with
  | nil => exact Nat.zero_le _
  | cons f outer => exact h.2.1

theorem Frame.Sound.empty {operator : String} {around : Nat}
    (h : Tree.isOperatorText operator = true) : Frame.Sound ⟨operator, []⟩ around where
  operator := h
  proper := by simp
  shallow := by simp

theorem Frame.Sound.add {f : Frame} {around : Nat} {t : Tree} (h : f.Sound around)
    (hproper : t.isProper = true) (hshallow : t.depth + around ≤ maxNesting) :
    (f.add t).Sound around where
  operator := h.operator
  proper := List.forall_mem_cons.mpr ⟨hproper, h.proper⟩
  shallow := List.forall_mem_cons.mpr ⟨hshallow, h.shallow⟩

/-- A sound frame with operands becomes a proper tree. -/
theorem Frame.Sound.isProper_tree {f : Frame} {around : Nat} (h : f.Sound around)
    (hne : f.reversed ≠ []) : f.tree.isProper = true := by
  refine Tree.isProper_application.mpr ⟨h.operator, by simpa using hne, ?_⟩
  intro t ht
  exact h.proper t (List.mem_reverse.mp ht)

theorem Frame.Sound.depth_tree_le {f : Frame} {around : Nat} (h : f.Sound around)
    (haround : around ≤ maxNesting) : f.tree.depth + around ≤ maxNesting + 1 := by
  have hdepth : Tree.depthAll f.reversed.reverse ≤ maxNesting - around := by
    rw [Tree.depthAll_le_iff]
    intro t ht
    have := h.shallow t (List.mem_reverse.mp ht)
    omega
  rw [Frame.tree, Tree.depth_application]
  omega

/-- An application that no other is around is an expression. -/
theorem Frame.Sound.wellFormed_tree {f : Frame} (h : f.Sound 0) (hne : f.reversed ≠ []) :
    f.tree.WellFormed where
  root := ⟨f.operator, f.reversed.reverse, rfl⟩
  proper := h.isProper_tree hne
  shallow := h.depth_tree_le (Nat.zero_le _)

/-- **A move keeps the state sound.** -/
theorem Step.sound (h : Step parenthesised s l s') (hs : s.Sound parenthesised)
    (hl : l.isProper = true) : s'.Sound parenthesised := by
  cases h with
  | operator hnumeral => exact ⟨.empty (Tree.isOperatorText_iff.mpr ⟨hl, hnumeral⟩), hs⟩
  | operand =>
      obtain ⟨htop, houter⟩ := hs
      refine ⟨htop.add ?_ ?_, houter⟩
      · rw [Tree.isProper]
        exact hl
      · rw [Tree.depth_leaf, Nat.zero_add]
        exact houter.length_le
  | nest hroom =>
      obtain ⟨htop, houter⟩ := hs
      exact ⟨htop, hroom, houter⟩
  | close hne =>
      obtain ⟨htop, hf, hroom, houter⟩ := hs
      refine ⟨hf.add (htop.isProper_tree hne) ?_, houter⟩
      have := htop.depth_tree_le hroom
      rw [List.length_cons] at this
      omega
  | closeLine hp hne => exact ⟨hp, hs.1.wellFormed_tree hne⟩

/-- **A run keeps the state sound.** -/
theorem reach_sound {ls : List Lexeme} (h : reach parenthesised s ls = .ok s')
    (hs : s.Sound parenthesised) (hls : ∀ l ∈ ls, l.isProper = true) :
    s'.Sound parenthesised := by
  induction ls generalizing s with
  | nil =>
      rw [reach_nil, Except.ok.injEq] at h
      exact h ▸ hs
  | cons l ls ih =>
      rw [List.forall_mem_cons] at hls
      obtain ⟨s₁, hmove, hrest⟩ := reach_cons_eq_ok_iff.mp h
      exact ih hrest (hmove.sound hs hls.1) hls.2

/-! ### What has been read -/

/-- The lexemes up to the innermost application, from the open applications around it. -/
def openedBy : List Frame → List Lexeme
  | [] => []
  | f :: outer => openedBy outer ++ f.tree.line ++ [.opening]

/-- The lexemes that have brought the reader to a state, the parenthesis around the line left
out. -/
def State.written : State → List Lexeme
  | .opening outer => openedBy outer
  | .within top outer => openedBy outer ++ top.tree.line
  | .closed t => t.line ++ [.closing]

theorem line_tree (f : Frame) :
    f.tree.line = .atom f.operator :: Tree.yieldAll f.reversed.reverse := rfl

theorem line_tree_add (f : Frame) (t : Tree) : (f.add t).tree.line = f.tree.line ++ t.yield := by
  rw [line_tree, line_tree, Frame.add, List.reverse_cons, Tree.yieldAll_append,
    Tree.yieldAll_cons, Tree.yieldAll_nil, List.append_nil, List.cons_append]

/-- **A move appends its lexeme to what has been read.** -/
theorem Step.written (h : Step parenthesised s l s') : s'.written = s.written ++ [l] := by
  cases h with
  | operator => rfl
  | operand =>
      rw [State.written, line_tree_add, Tree.yield_leaf, State.written, List.append_assoc]
  | nest => rfl
  | close =>
      rw [State.written, line_tree_add, Frame.tree, Frame.tree, Tree.yield_application]
      simp [State.written, openedBy, Frame.tree]
  | closeLine => rfl

/-- **A run appends its lexemes to what has been read.** -/
theorem reach_written {ls : List Lexeme} (h : reach parenthesised s ls = .ok s') :
    s'.written = s.written ++ ls := by
  induction ls generalizing s with
  | nil =>
      rw [reach_nil, Except.ok.injEq] at h
      rw [h, List.append_nil]
  | cons l ls ih =>
      obtain ⟨s₁, hmove, hrest⟩ := reach_cons_eq_ok_iff.mp h
      rw [ih hrest, hmove.written, List.append_assoc, List.singleton_append]

end PrefixCalc.Reader
