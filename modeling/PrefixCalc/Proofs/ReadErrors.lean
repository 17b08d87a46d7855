import PrefixCalc.Proofs.ViablePrefix

/-!
# Where and Why a Text Is Refused

An error of the reader points at the first offending token: the one behind the longest viable
prefix of the line, or the end of the line when the whole line is viable. Which complaint it
makes is determined by what stands before that place and by what stands there
(`Complaint.FitsAt`), without reference to the reader.

Two lines are treated apart. A line without tokens has its error in the first column, whatever
blanks it holds. A line whose first parenthesis is closed before its end is read as if that
parenthesis stood for an operator, and has its error there, although longer prefixes of it are
viable (`ClosedEarly`).

## Main results

* `Reader.Refused.fitsAt`: every refusal fits the place where it is made.
* `Complaint.FitsAt.unique`: no two complaints fit a place.
* `Tree.read_error_at_first_offence`: the column and the wording of every error.
-/

namespace PrefixCalc

open Reader
open PrefixCalc.Tree (maxNesting)

variable {parenthesised : Bool} {s : State}

/-! ### Places in a line -/

/-- Behind these lexemes an application starts: they are none, so that the place is the start of
the line, or end in an opening parenthesis. -/
def StartsApplication (before : List Lexeme) : Prop :=
  before = [] ∨ ∃ more, before = more ++ [.opening]

/-- These lexemes end in an operator, an atom where an application starts. -/
def EndsInOperator (before : List Lexeme) : Prop :=
  ∃ more s, before = more ++ [.atom s] ∧ StartsApplication more

/-- The number of nested parentheses that are open behind these lexemes; one that starts the
line is around the whole line and does not count. -/
def nestedOpen (before : List Lexeme) : Int :=
  surplus before - if before.head? = some .opening then 1 else 0

/-- A complaint fits a place, given by the lexemes before it and the one that comes next, if
any. -/
def Complaint.FitsAt (before : List Lexeme) (next : Option Lexeme) : Complaint → Prop
  | .expectedOperator => StartsApplication before
  | .expectedExpression => EndsInOperator before ∧ (next = some .closing ∨ next = none)
  | .tooDeep =>
    ¬ StartsApplication before ∧ next = some .opening ∧ nestedOpen before = maxNesting
  | .expectedClosing =>
    ¬ StartsApplication before ∧ ¬ EndsInOperator before ∧ next = none ∧ 0 < surplus before
  | .expectedEnd =>
    ¬ StartsApplication before ∧ ¬ EndsInOperator before ∧ next = some .closing ∧
      surplus before = 0

theorem not_startsApplication_append_atom (before : List Lexeme) (s : String) :
    ¬ StartsApplication (before ++ [.atom s]) := by
  rintro (h | ⟨more, h⟩)
  · exact absurd h (by simp)
  · have hlast := List.append_inj_right' h rfl
    exact absurd hlast (by simp)

theorem EndsInOperator.not_startsApplication {before : List Lexeme} (h : EndsInOperator before) :
    ¬ StartsApplication before := by
  obtain ⟨more, s, rfl, -⟩ := h
  exact not_startsApplication_append_atom more s

/-- **No two complaints fit a place.** -/
theorem Complaint.FitsAt.unique {before : List Lexeme} {next : Option Lexeme} {c d : Complaint}
    (hc : c.FitsAt before next) (hd : d.FitsAt before next) : c = d := by
  have hnot : EndsInOperator before → ¬ StartsApplication before :=
    EndsInOperator.not_startsApplication
  cases c <;> cases d <;> simp_all [FitsAt]

/-! ### The place behind an operand -/

/-- The yield of a proper tree ends in an atom, when it is a leaf, or else in a closing
parenthesis. -/
theorem exists_yield_eq_append {t : Tree} (h : t.isProper = true) :
    (∃ s, t.yield = [.atom s]) ∨ ∃ more, t.yield = more ++ [.closing] := by
  cases t with
  | leaf literal => exact .inl ⟨literal, Tree.yield_leaf literal⟩
  | application operator operands =>
      rw [Tree.yield_application, ← List.cons_append]
      exact .inr ⟨_, rfl⟩
  | foreign value => exact absurd h (by simp [Tree.isProper])

theorem not_startsApplication_append_closing (before : List Lexeme) :
    ¬ StartsApplication (before ++ [.closing]) := by
  rintro (h | ⟨more, h⟩)
  · exact absurd h (by simp)
  · have hlast := List.append_inj_right' h rfl
    exact absurd hlast (by simp)

/-- Behind the operator of an application no other application starts without a parenthesis. -/
theorem not_startsApplication_line {f : Frame} {around : Nat} (h : f.Sound around)
    (before : List Lexeme) : ¬ StartsApplication (before ++ f.tree.line) := by
  obtain ⟨operator, reversed⟩ := f
  cases reversed with
  | nil => exact not_startsApplication_append_atom before operator
  | cons t ts =>
      have ht : t.isProper = true := h.proper t (List.mem_cons_self ..)
      have hline := line_tree_add ⟨operator, ts⟩ t
      rw [Frame.add] at hline
      rw [hline, ← List.append_assoc]
      rcases exists_yield_eq_append ht with ⟨s, hs⟩ | ⟨more, hmore⟩
      · rw [hs]
        exact not_startsApplication_append_atom _ s
      · rw [hmore, ← List.append_assoc]
        exact not_startsApplication_append_closing _

/-- Behind an operand no operator has just been read. -/
theorem not_endsInOperator_line {f : Frame} {around : Nat} (h : f.Sound around)
    (hne : f.reversed ≠ []) (before : List Lexeme) :
    ¬ EndsInOperator (before ++ f.tree.line) := by
  obtain ⟨operator, reversed⟩ := f
  obtain ⟨t, ts, rfl⟩ := List.exists_cons_of_ne_nil hne
  have ht : t.isProper = true := h.proper t (List.mem_cons_self ..)
  have hts : Frame.Sound ⟨operator, ts⟩ around :=
    ⟨h.operator, fun u hu => h.proper u (List.mem_cons_of_mem _ hu),
      fun u hu => h.shallow u (List.mem_cons_of_mem _ hu)⟩
  have hline := line_tree_add ⟨operator, ts⟩ t
  rw [Frame.add] at hline
  rw [hline, ← List.append_assoc]
  rintro ⟨more, r, heq, hstarts⟩
  rcases exists_yield_eq_append ht with ⟨s, hs⟩ | ⟨inner, hinner⟩
  · rw [hs] at heq
    have hmore := List.append_inj_left' heq rfl
    rw [← hmore] at hstarts
    exact not_startsApplication_line hts before hstarts
  · rw [hinner, ← List.append_assoc] at heq
    have hlast := List.append_inj_right' heq rfl
    exact absurd hlast (by simp)

/-! ### The place of a state -/

theorem startsApplication_openedBy (parenthesised : Bool) (outer : List Frame) :
    StartsApplication (lead parenthesised ++ openedBy outer) := by
  cases outer with
  | nil =>
      cases parenthesised with
      | false => exact .inl rfl
      | true => exact .inr ⟨[], rfl⟩
  | cons f outer =>
      refine .inr ⟨lead parenthesised ++ (openedBy outer ++ f.tree.line), ?_⟩
      rw [openedBy]
      simp only [List.append_assoc]

/-- Every open application but the innermost has opened one parenthesis. -/
theorem surplus_openedBy (outer : List Frame) : surplus (openedBy outer) = outer.length := by
  induction outer with
  | nil => rfl
  | cons f outer ih => simp [openedBy, ih]

/-- Inside a line without the parenthesis around it, the first lexeme is an operator. -/
theorem exists_openedBy_append_eq_cons (outer : List Frame) (r : String) (ls : List Lexeme) :
    ∃ s rest, openedBy outer ++ .atom r :: ls = .atom s :: rest := by
  induction outer generalizing r ls with
  | nil => exact ⟨r, ls, rfl⟩
  | cons f outer ih =>
      rw [openedBy, line_tree]
      simp only [List.append_assoc, List.cons_append, List.nil_append]
      exact ih f.operator _

theorem surplus_lead (parenthesised : Bool) :
    surplus (lead parenthesised) = if parenthesised then 1 else 0 := by
  cases parenthesised <;> rfl

theorem surplus_within (top : Frame) (outer : List Frame) :
    surplus (lead parenthesised ++ (State.within top outer).written) =
      outer.length + if parenthesised then 1 else 0 := by
  rw [State.written, surplus_append, surplus_append, surplus_openedBy, surplus_line,
    surplus_lead]
  omega

theorem nestedOpen_within (top : Frame) (outer : List Frame) :
    nestedOpen (lead parenthesised ++ (State.within top outer).written) = outer.length := by
  have hhead : (lead parenthesised ++ (State.within top outer).written).head? =
      some .opening ↔ parenthesised = true := by
    obtain ⟨r, rest, hrest⟩ := exists_openedBy_append_eq_cons outer top.operator
      (Tree.yieldAll top.reversed.reverse)
    rw [State.written, line_tree, hrest]
    cases parenthesised <;> simp [lead]
  rw [nestedOpen, surplus_within]
  simp only [hhead]
  omega

/-! ### Refusals fit their places -/

/-- **Every refusal fits the place where it is made**, when the line does not go on behind its
closing parenthesis. -/
theorem Reader.Refused.fitsAt {next : Option Lexeme} {c : Complaint}
    (h : Refused parenthesised s next c) (hs : s.Sound parenthesised)
    (hopen : ∀ t, s ≠ .closed t) : c.FitsAt (lead parenthesised ++ s.written) next := by
  cases h with
  | operator => exact startsApplication_openedBy parenthesised _
  | @operand top outer _ hempty hnext =>
      refine ⟨⟨lead parenthesised ++ openedBy outer, top.operator, ?_,
        startsApplication_openedBy parenthesised outer⟩, hnext⟩
      rw [State.written, line_tree, hempty, List.append_assoc]
      rfl
  | @nest top outer hdeep =>
      obtain ⟨htop, houter⟩ := hs
      refine ⟨?_, rfl, ?_⟩
      · rw [State.written, ← List.append_assoc]
        exact not_startsApplication_line htop _
      · rw [nestedOpen_within, Nat.le_antisymm houter.length_le hdeep]
  | @unclosed top outer hne hparens =>
      refine ⟨?_, ?_, rfl, ?_⟩
      · rw [State.written, ← List.append_assoc]
        exact not_startsApplication_line hs.1 _
      · rw [State.written, ← List.append_assoc]
        exact not_endsInOperator_line hs.1 hne _
      · rw [surplus_within]
        rcases hparens with rfl | houter
        · rw [if_pos rfl]
          omega
        · have := List.length_pos_iff.mpr houter
          split <;> omega
  | @unopened top hne hp =>
      refine ⟨?_, ?_, rfl, ?_⟩
      · rw [State.written, ← List.append_assoc]
        exact not_startsApplication_line hs.1 _
      · rw [State.written, ← List.append_assoc]
        exact not_endsInOperator_line hs.1 hne _
      · rw [surplus_within, hp]
        rfl
  | @behind t l => exact absurd rfl (hopen t)

/-! ### The place of an error -/

/-- The first parenthesis of a line is closed before the line ends. -/
def ClosedEarly (ls : List Lexeme) : Prop :=
  ls.head? = some .opening ∧ ∃ i, ClosesAt ls i ∧ i + 1 ≠ ls.length

/-- A line that starts with a parenthesis but is not taken for parenthesised is closed early. -/
theorem closedEarly_of_isParenthesised_eq_false {ls : List Lexeme}
    (hhead : ls.head? = some .opening) (h : isParenthesised ls = false) : ClosedEarly ls := by
  cases ls with
  | nil => exact absurd hhead (by simp)
  | cons l ls =>
      obtain rfl : l = .opening := by simpa using hhead
      exact ⟨rfl, isParenthesised_opening_eq_false_iff.mp h⟩

theorem ClosedEarly.isParenthesised_eq_false {ls : List Lexeme} (h : ClosedEarly ls) :
    isParenthesised ls = false := by
  cases ls with
  | nil => rfl
  | cons l ls =>
      obtain rfl : l = .opening := by simpa using h.1
      exact isParenthesised_opening_eq_false_iff.mpr h.2

/-- The yield of an application with more behind it is closed early. -/
theorem closedEarly_yield_append (operator : String) (operands : List Tree) {rest : List Lexeme}
    (h : rest ≠ []) : ClosedEarly ((Tree.application operator operands).yield ++ rest) := by
  have hclose := closingIndex_yield_append operator operands rest
  rw [Tree.yield_application, List.cons_append] at hclose ⊢
  refine ⟨rfl, _, closingIndex_eq_some_iff.mp hclose, ?_⟩
  have hrest := List.length_pos_iff.mpr h
  simp only [List.length_cons, List.length_append, List.length_nil]
  omega

namespace Tree

/-- **Where a text is refused**: the reader has taken the lexemes before a place, and refuses
what comes there. -/
theorem exists_refused_of_parse_eq_error {text : String} {e : ReadError}
    (h : parse text = .error e) (hne : lexemes text ≠ []) :
    ∃ k s, k ≤ (lexemes text).length ∧
      (lexemes text).take k = lead (isParenthesised (lexemes text)) ++ s.written ∧
      reach (isParenthesised (lexemes text)) (.opening []) s.written = .ok s ∧
      Refused (isParenthesised (lexemes text)) s (lexemes text)[k]? e.complaint ∧
      e.column = ((Token.scan text)[k]?).elim (text.length + 1) Token.column := by
  rw [parse_eq_run hne] at h
  obtain ⟨n, s, hn, hreach, hrefused, hcolumn⟩ := exists_refused_of_run_eq_error h
  have hwritten := reach_written hreach
  rw [State.written, openedBy, List.nil_append] at hwritten
  rw [← hwritten] at hreach
  -- The place is counted behind the parenthesis around the line, if there is one.
  cases hp : isParenthesised (lexemes text) with
  | false =>
      rw [hp, if_neg (by simp)] at hn hrefused hcolumn hwritten
      rw [hp] at hreach
      refine ⟨n, s, ?_, ?_, hreach, hrefused, hcolumn⟩
      · rwa [lexemes, List.length_map]
      · rw [hwritten]
        rfl
  | true =>
      rw [hp, if_pos rfl] at hn hrefused hcolumn hwritten
      rw [hp] at hreach
      obtain ⟨rest, hrest⟩ := exists_eq_opening_cons hp
      have hlength := congrArg List.length hrest
      rw [lexemes, List.length_map, List.length_cons] at hlength
      rw [List.length_drop] at hn
      rw [List.map_drop, ← lexemes] at hrefused hwritten
      refine ⟨n + 1, s, ?_, ?_, hreach, ?_, ?_⟩
      · rw [lexemes, List.length_map]
        omega
      · rw [hwritten, hrest, List.take_succ_cons, List.drop_one, List.tail_cons]
        rfl
      · rw [List.getElem?_drop, Nat.add_comm] at hrefused
        exact hrefused
      · rw [List.getElem?_drop, Nat.add_comm] at hcolumn
        exact hcolumn

/-- What the column and the complaint of an error say about the text that was refused. -/
structure Offence (text : String) (e : ReadError) : Prop where
  /-- A line without tokens has its error in the first column. -/
  noTokens : lexemes text = [] → e.column = 1 ∧ e.complaint.text = "expected operator"
  /-- A line whose first parenthesis is closed early has its error at that parenthesis. -/
  closedEarly : ClosedEarly (lexemes text) →
    (Token.scan text).head?.map Token.column = some e.column ∧
      e.complaint.text = "expected operator"
  /-- Every other line has its error behind its longest viable prefix, and what stands on either
  side of that place determines the complaint. -/
  place : lexemes text ≠ [] → ¬ ClosedEarly (lexemes text) →
    ∃ k, IsGreatest {j | j ≤ (lexemes text).length ∧ Viable ((lexemes text).take j)} k ∧
      e.column = ((Token.scan text)[k]?).elim (text.length + 1) Token.column ∧
      (e.complaint.text = "expected operator" ↔ StartsApplication ((lexemes text).take k)) ∧
      (e.complaint.text = "expected expression" ↔
        EndsInOperator ((lexemes text).take k) ∧
          ((lexemes text)[k]? = some .closing ∨ (lexemes text)[k]? = none)) ∧
      (e.complaint.text = "nesting too deep" ↔
        ¬ StartsApplication ((lexemes text).take k) ∧ (lexemes text)[k]? = some .opening ∧
          nestedOpen ((lexemes text).take k) = maxNesting) ∧
      (e.complaint.text = "expected ')'" ↔
        ¬ StartsApplication ((lexemes text).take k) ∧
          ¬ EndsInOperator ((lexemes text).take k) ∧ (lexemes text)[k]? = none ∧
          0 < surplus ((lexemes text).take k)) ∧
      (e.complaint.text = "expected end of input" ↔
        ¬ StartsApplication ((lexemes text).take k) ∧
          ¬ EndsInOperator ((lexemes text).take k) ∧ (lexemes text)[k]? = some .closing ∧
          surplus ((lexemes text).take k) = 0)

/-- A line that is closed early is refused at its first token. -/
theorem parse_eq_error_of_closedEarly {text : String} {e : ReadError}
    (h : parse text = .error e) (hearly : ClosedEarly (lexemes text)) :
    (Token.scan text).head?.map Token.column = some e.column ∧
      e.complaint = .expectedOperator := by
  have hhead := hearly.1
  have hne : lexemes text ≠ [] := by
    intro hnil
    rw [hnil] at hhead
    exact absurd hhead (by simp)
  rw [parse_eq_run hne, hearly.isParenthesised_eq_false, if_neg (by simp)] at h
  cases hts : Token.scan text with
  | nil => exact absurd hhead (by simp [lexemes, hts])
  | cons k ts =>
      have hk : k.lexeme = .opening := by simpa [lexemes, hts] using hhead
      rw [hts, run, hk] at h
      simp only [step, Except.error.injEq] at h
      subst h
      exact ⟨rfl, rfl⟩

/-- **The longest viable prefix of a refused line** ends where the reader stops. -/
theorem isGreatest_viable_of_refused {ls : List Lexeme} {k : Nat} {s : State} {c : Complaint}
    (hls : ∀ l ∈ ls, l.isProper = true) (hearly : ¬ ClosedEarly ls) (hk : k ≤ ls.length)
    (htake : ls.take k = lead (isParenthesised ls) ++ s.written)
    (hreach : reach (isParenthesised ls) (.opening []) s.written = .ok s)
    (hrefused : Refused (isParenthesised ls) s ls[k]? c) :
    IsGreatest {j | j ≤ ls.length ∧ Viable (ls.take j)} k := by
  have hwritten : ∀ l ∈ s.written, l.isProper = true := by
    intro l hl
    refine hls l (List.mem_of_mem_take (i := k) ?_)
    rw [htake]
    exact List.mem_append_right _ hl
  refine isGreatest_viable hk ?_ ?_
  · rw [htake]
    exact viable_of_reach hwritten hreach
  · intro hlt
    rw [List.getElem?_eq_getElem hlt] at hrefused
    rw [List.take_succ_eq_append_getElem hlt, htake]
    refine not_viable_of_refused hreach hrefused ?_
    intro hp hhead
    refine hearly (closedEarly_of_isParenthesised_eq_false ?_ hp)
    have htaken : s.written ++ [ls[k]] = ls.take (k + 1) := by
      rw [List.take_succ_eq_append_getElem hlt, htake, hp]
      rfl
    rw [htaken, List.head?_take, if_neg (by simp)] at hhead
    exact hhead

/-- The reader does not come to stand behind the closing parenthesis of a line that goes on,
unless the line is closed early. -/
theorem ne_closed_of_refused {ls : List Lexeme} {k : Nat} {s : State} {c : Complaint}
    (hearly : ¬ ClosedEarly ls)
    (htake : ls.take k = lead (isParenthesised ls) ++ s.written)
    (hsound : s.Sound (isParenthesised ls))
    (hrefused : Refused (isParenthesised ls) s ls[k]? c) (t : Tree) : s ≠ .closed t := by
  rintro rfl
  obtain ⟨hp, ht⟩ := hsound
  obtain ⟨operator, operands, rfl⟩ := ht.root
  have hnext : ls[k]? ≠ none := by
    intro hnone
    rw [hnone] at hrefused
    cases hrefused
  have hdrop : ls.drop k ≠ [] := by
    rw [Ne, List.drop_eq_nil_iff]
    intro hle
    exact hnext (List.getElem?_eq_none hle)
  have hyield : ls.take k = (application operator operands).yield := by
    rw [htake, hp, yield_application]
    rfl
  refine hearly ?_
  rw [← List.take_append_drop k ls, hyield]
  exact closedEarly_yield_append operator operands hdrop

theorem complaint_text_inj {c d : Complaint} : c.text = d.text ↔ c = d := by
  refine ⟨?_, congrArg Complaint.text⟩
  cases c <;> cases d <;> decide

/-- **Read errors point at the first offending token.** The failure of a refused text gives the
name of the input, the line, the column and the complaint, and the column once more among its
details; and the column and the complaint are those of the first offence. -/
theorem read_error_at_first_offence {text : String} {e : ReadError}
    (h : parse text = .error e) (source : String) :
    Failure.ofReadError source e =
        { kind := .parse
          message := .text
            (source ++ ":1:" ++ toString e.column ++ ": error: " ++ e.complaint.text)
          details := [("column", .int e.column)] } ∧
      Offence text e := by
  refine ⟨rfl, ?_, ?_, ?_⟩
  · intro hnil
    rw [parse_of_lexemes_eq_nil hnil, Except.error.injEq] at h
    subst h
    exact ⟨rfl, rfl⟩
  · intro hearly
    obtain ⟨hcolumn, hcomplaint⟩ := parse_eq_error_of_closedEarly h hearly
    exact ⟨hcolumn, by rw [hcomplaint]; rfl⟩
  · intro hne hearly
    obtain ⟨k, s, hk, htake, hreach, hrefused, hcolumn⟩ := exists_refused_of_parse_eq_error h hne
    have hls : ∀ l ∈ lexemes text, l.isProper = true := fun l => isProper_of_mem_lexemes
    have hgreatest := isGreatest_viable_of_refused hls hearly hk htake hreach hrefused
    have hsound : s.Sound (isParenthesised (lexemes text)) := by
      refine reach_sound hreach trivial ?_
      intro l hl
      refine hls l (List.mem_of_mem_take (i := k) ?_)
      rw [htake]
      exact List.mem_append_right _ hl
    have hfits := hrefused.fitsAt hsound (ne_closed_of_refused hearly htake hsound hrefused)
    rw [← htake] at hfits
    have hiff : ∀ d : Complaint, e.complaint.text = d.text ↔
        d.FitsAt ((lexemes text).take k) (lexemes text)[k]? := by
      intro d
      rw [complaint_text_inj]
      exact ⟨fun heq => heq ▸ hfits, fun hd => hfits.unique hd⟩
    exact ⟨k, hgreatest, hcolumn, hiff .expectedOperator, hiff .expectedExpression,
      hiff .tooDeep, hiff .expectedClosing, hiff .expectedEnd⟩

/-- A closing parenthesis too many behind a nested application. -/
theorem read_error_behind_nested_application :
    parse "+ 1 (* 2 3)) 4" = .error ⟨.expectedEnd, 12⟩ ∧
      Failure.ofReadError "input" ⟨.expectedEnd, 12⟩ =
        { kind := .parse
          message := .text "input:1:12: error: expected end of input"
          details := [("column", .int 12)] } ∧
      Offence "+ 1 (* 2 3)) 4" ⟨.expectedEnd, 12⟩ :=
  have hparse : parse "+ 1 (* 2 3)) 4" = .error ⟨.expectedEnd, 12⟩ := rfl
  ⟨hparse, read_error_at_first_offence hparse "input"⟩

end Tree

end PrefixCalc
