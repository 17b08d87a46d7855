import PrefixCalc.Proofs.ReaderRuns

/-!
# Reading by Descent

The reader takes one lexeme after the other and keeps the applications that are still open on a
stack. The grammar suggests another reader, a descent: a routine that reads an operand and one that
reads an application call each other, and between them they move a position along the line and
keep a counter of the parentheses that are open around operands. Nothing in the routines says that
the position stays in the line, that the counter stays in its bounds, or that the calls come to an
end.

The descent is a relation here, one rule for each way through a routine, with the calls and the
returns of a run in their order (`Reads` for the runs that return, `Fails` for those that end in
a complaint). Three facts say that it is the reader. A call that returns has consumed the lexemes
that its trees are written with, and the counter is what it was (`Reads.consumes`, `Reads.depth`).
Every call ends, since an operand takes at least one lexeme (`ends_operands`). And the reader passes
through the same places: from where a routine is called it comes to where the routine returns, or
it stops where the routine complains (`Reads.run_eq`, `Fails.run_eq`).

## Main results

* `Reads.consumes`: what a call consumes.
* `exists_line`: the descent ends on every line.
* `Line.ofTokens_eq`: what the descent answers is what the reader answers.
-/

namespace PrefixCalc

open PrefixCalc.Tree (maxNesting)

namespace Descent

/-! ### Routines -/

/-- Where a descent stands: how many lexemes it has consumed, and what its counter of open
parentheses shows. -/
structure Cursor where
  position : Nat
  depth : Int
  deriving DecidableEq, Repr

namespace Cursor

/-- One lexeme further. -/
def next (c : Cursor) : Cursor :=
  { c with position := c.position + 1 }

/-- Behind the parenthesis in front of an operand, which is counted. -/
def enter (c : Cursor) : Cursor :=
  { position := c.position + 1, depth := c.depth + 1 }

/-- Behind an operand in parentheses, which are counted no more. -/
def leave (c : Cursor) : Cursor :=
  { c with depth := c.depth - 1 }

@[simp] theorem position_next (c : Cursor) : c.next.position = c.position + 1 := rfl

@[simp] theorem depth_next (c : Cursor) : c.next.depth = c.depth := rfl

@[simp] theorem position_enter (c : Cursor) : c.enter.position = c.position + 1 := rfl

@[simp] theorem depth_enter (c : Cursor) : c.enter.depth = c.depth + 1 := rfl

@[simp] theorem position_leave (c : Cursor) : c.leave.position = c.position := rfl

@[simp] theorem depth_leave (c : Cursor) : c.leave.depth = c.depth - 1 := rfl

end Cursor

/-- The routines of a descent. -/
inductive Routine where
  /-- One operand. -/
  | operand
  /-- The operands of an application, as many as there are. -/
  | operands
  /-- An operator and its operands, and if it is closed the parenthesis behind them. -/
  | application (closed : Bool)
  deriving DecidableEq, Repr

/-- A call of a routine, or its return, and where the descent stands then. -/
inductive Event where
  | call (routine : Routine) (c : Cursor)
  | back (routine : Routine) (c : Cursor)
  deriving DecidableEq, Repr

/-- Where the descent stands at an event. -/
def Event.cursor : Event → Cursor
  | call _ c => c
  | back _ c => c

/-- An operator stands at a place. -/
def OperatorAt (ls : List Lexeme) (c : Cursor) (operator : String) : Prop :=
  ls[c.position]? = some (.atom operator) ∧ Decimal.isNumeral operator.toList = false

/-- The calls that return: where they are made, what happens in them, the trees that they return,
and where the descent stands then. The operands of an application are read in a loop, which is
no call by itself. -/
inductive Reads (ls : List Lexeme) :
    Routine → Cursor → List Event → List Tree → Cursor → Prop
  /-- An atom is an operand. -/
  | leaf {c : Cursor} {s : String} (h : ls[c.position]? = some (.atom s)) :
      Reads ls .operand c [.call .operand c, .back .operand c.next] [.leaf s] c.next
  /-- An application in parentheses is an operand. -/
  | nested {c c' : Cursor} {es : List Event} {ts : List Tree}
      (h : ls[c.position]? = some .opening) (hroom : c.depth < maxNesting)
      (inside : Reads ls (.application true) c.enter es ts c') :
      Reads ls .operand c (.call .operand c :: es ++ [.back .operand c'.leave]) ts c'.leave
  /-- There is no further operand at the end of the line or before a closing parenthesis. -/
  | stop {c : Cursor} (h : ∀ l, ls[c.position]? = some l → l = .closing) :
      Reads ls .operands c [] [] c
  /-- An operand, and then the further ones. -/
  | more {c c' c'' : Cursor} {es es' : List Event} {ts us : List Tree}
      (first : Reads ls .operand c es ts c') (rest : Reads ls .operands c' es' us c'') :
      Reads ls .operands c (es ++ es') (ts ++ us) c''
  /-- An application ends behind its operands. -/
  | unclosed {c c' : Cursor} {operator : String} {es : List Event} {ts : List Tree}
      (h : OperatorAt ls c operator) (inside : Reads ls .operands c.next es ts c')
      (hne : ts ≠ []) :
      Reads ls (.application false) c
        (.call (.application false) c :: es ++ [.back (.application false) c'])
        [.application operator ts] c'
  /-- A closed application takes one lexeme more. -/
  | closed {c c' : Cursor} {operator : String} {es : List Event} {ts : List Tree} {l : Lexeme}
      (h : OperatorAt ls c operator) (inside : Reads ls .operands c.next es ts c')
      (hne : ts ≠ []) (hnext : ls[c'.position]? = some l) :
      Reads ls (.application true) c
        (.call (.application true) c :: es ++ [.back (.application true) c'.next])
        [.application operator ts] c'.next

/-- The calls that end in a complaint: where they are made, what happens in them, the complaint,
and where the descent stands then. -/
inductive Fails (ls : List Lexeme) :
    Routine → Cursor → List Event → Complaint → Cursor → Prop
  /-- At the nesting limit no application is opened. -/
  | tooDeep {c : Cursor} (h : ls[c.position]? = some .opening)
      (hdeep : maxNesting ≤ c.depth) :
      Fails ls .operand c [.call .operand c] .tooDeep c
  | nested {c c' : Cursor} {es : List Event} {k : Complaint}
      (h : ls[c.position]? = some .opening) (hroom : c.depth < maxNesting)
      (inside : Fails ls (.application true) c.enter es k c') :
      Fails ls .operand c (.call .operand c :: es) k c'
  | first {c c' : Cursor} {es : List Event} {k : Complaint}
      (inside : Fails ls .operand c es k c') : Fails ls .operands c es k c'
  | rest {c c' c'' : Cursor} {es es' : List Event} {ts : List Tree} {k : Complaint}
      (first : Reads ls .operand c es ts c') (inside : Fails ls .operands c' es' k c'') :
      Fails ls .operands c (es ++ es') k c''
  /-- An application starts with an operator. -/
  | operator {c : Cursor} {closed : Bool} (h : ∀ operator, ¬ OperatorAt ls c operator) :
      Fails ls (.application closed) c [.call (.application closed) c] .expectedOperator c
  | operands {c c' : Cursor} {closed : Bool} {operator : String} {es : List Event}
      {k : Complaint} (h : OperatorAt ls c operator)
      (inside : Fails ls .operands c.next es k c') :
      Fails ls (.application closed) c (.call (.application closed) c :: es) k c'
  /-- An application has at least one operand. -/
  | expression {c c' : Cursor} {closed : Bool} {operator : String} {es : List Event}
      (h : OperatorAt ls c operator) (inside : Reads ls .operands c.next es [] c') :
      Fails ls (.application closed) c (.call (.application closed) c :: es)
        .expectedExpression c'
  /-- A closed application does not end with the line. -/
  | closing {c c' : Cursor} {operator : String} {es : List Event} {ts : List Tree}
      (h : OperatorAt ls c operator) (inside : Reads ls .operands c.next es ts c')
      (hne : ts ≠ []) (hnext : ls[c'.position]? = none) :
      Fails ls (.application true) c (.call (.application true) c :: es) .expectedClosing c'

/-- Where the descent for a line starts: behind the parenthesis around the line, if there is
one. -/
def start (ls : List Lexeme) : Cursor where
  position := if isParenthesised ls then 1 else 0
  depth := 0

/-- The descent for a line: what happens in it, what it comes to, and where it stands then. -/
inductive Line (ls : List Lexeme) : List Event → Except Complaint Tree → Cursor → Prop
  /-- The line is an application. -/
  | reads {es : List Event} {t : Tree} {c : Cursor}
      (h : Reads ls (.application (isParenthesised ls)) (start ls) es [t] c)
      (hnext : ls[c.position]? = none) : Line ls es (.ok t) c
  /-- The line goes on behind an application. -/
  | behind {es : List Event} {t : Tree} {c : Cursor} {l : Lexeme}
      (h : Reads ls (.application (isParenthesised ls)) (start ls) es [t] c)
      (hnext : ls[c.position]? = some l) : Line ls es (.error .expectedEnd) c
  | fails {es : List Event} {k : Complaint} {c : Cursor}
      (h : Fails ls (.application (isParenthesised ls)) (start ls) es k c) :
      Line ls es (.error k) c

variable {ls : List Lexeme} {routine : Routine} {c c' : Cursor} {es : List Event}
  {ts : List Tree} {k : Complaint}

/-! ### What a call consumes -/

/-- Some lexemes stand between two positions. -/
structure Consumes (ls : List Lexeme) (p : Nat) (ms : List Lexeme) (q : Nat) : Prop where
  position : q = p + ms.length
  lexemes : ls.drop p = ms ++ ls.drop q

namespace Consumes

variable {p q r : Nat} {ms ns : List Lexeme} {l : Lexeme}

theorem nil (ls : List Lexeme) (p : Nat) : Consumes ls p [] p := ⟨rfl, rfl⟩

theorem single (h : ls[p]? = some l) : Consumes ls p [l] (p + 1) := by
  obtain ⟨hp, rfl⟩ := List.getElem?_eq_some_iff.mp h
  exact ⟨rfl, List.drop_eq_getElem_cons hp⟩

theorem append (h : Consumes ls p ms q) (h' : Consumes ls q ns r) :
    Consumes ls p (ms ++ ns) r where
  position := by rw [h'.position, h.position, List.length_append, Nat.add_assoc]
  lexemes := by rw [h.lexemes, h'.lexemes, List.append_assoc]

/-- What is consumed from inside a line ends inside it. -/
theorem le_length (h : Consumes ls p ms q) (hp : p ≤ ls.length) : q ≤ ls.length := by
  have hlength := congrArg List.length h.lexemes
  have hposition := h.position
  rw [List.length_drop, List.length_append, List.length_drop] at hlength
  omega

theorem surplus_take (h : Consumes ls p ms q) :
    surplus (ls.take q) = surplus (ls.take p) + surplus ms := by
  have htake : ls.take q = ls.take p ++ ms := by
    rw [h.position, List.take_add, h.lexemes, List.take_left]
  rw [htake, surplus_append]

end Consumes

/-- The lexemes that a routine consumes for the trees that it returns. -/
def Routine.written : Routine → List Tree → List Lexeme
  | .operand, ts => Tree.yieldAll ts
  | .operands, ts => Tree.yieldAll ts
  | .application closed, ts => ts.flatMap Tree.line ++ if closed then [.closing] else []

/-- The loop for operands stops at the end of the line or before a closing parenthesis. -/
theorem Reads.stops (h : Reads ls routine c es ts c') (hroutine : routine = .operands) {l : Lexeme}
    (hl : ls[c'.position]? = some l) : l = .closing := by
  induction h with
  | stop hstop => exact hstop l hl
  | more first rest _ ih => exact ih rfl hl
  | leaf | nested | unclosed | closed => cases hroutine

/-- What is not closed stops where its operands do. -/
theorem Reads.stops_of_unclosed (h : Reads ls (.application false) c es ts c') {l : Lexeme}
    (hl : ls[c'.position]? = some l) : l = .closing := by
  cases h with
  | unclosed _ inside _ => exact inside.stops rfl hl

/-- An application is one tree, and has operands. -/
theorem Reads.eq_application {closed : Bool} (h : Reads ls (.application closed) c es ts c') :
    ∃ operator operands, operands ≠ [] ∧ ts = [.application operator operands] := by
  cases h with
  | unclosed _ _ hne => exact ⟨_, _, hne, rfl⟩
  | closed _ _ hne _ => exact ⟨_, _, hne, rfl⟩

/-- **A call that returns** leaves the counter as it was. -/
theorem Reads.depth (h : Reads ls routine c es ts c') : c'.depth = c.depth := by
  induction h with
  | leaf _ => rfl
  | nested _ _ _ ih =>
      rw [Cursor.depth_leave, ih, Cursor.depth_enter, add_sub_cancel_right]
  | stop _ => rfl
  | more _ _ ihfirst ihrest => rw [ihrest, ihfirst]
  | unclosed _ _ _ ih => exact ih
  | closed _ _ _ _ ih => exact ih

/-- **A call that returns has consumed what its trees are written with.** -/
theorem Reads.consumes (h : Reads ls routine c es ts c') :
    Consumes ls c.position (routine.written ts) c'.position := by
  induction h with
  | leaf h =>
      rw [Routine.written, Tree.yieldAll_cons, Tree.yield_leaf, Tree.yieldAll_nil]
      exact .single h
  | nested h _ inside ih =>
      obtain ⟨operator, operands, -, rfl⟩ := inside.eq_application
      simpa [Routine.written, Tree.yield_application] using (Consumes.single h).append ih
  | stop _ => exact .nil ls _
  | more _ _ ihfirst ihrest =>
      simpa [Routine.written, Tree.yieldAll_append] using ihfirst.append ihrest
  | unclosed h _ _ ih =>
      simpa [Routine.written, Tree.line] using (Consumes.single h.1).append ih
  | closed h inside _ hnext ih =>
      obtain rfl := inside.stops rfl hnext
      simpa [Routine.written, Tree.line] using
        ((Consumes.single h.1).append ih).append (.single hnext)

/-- An operand takes at least one lexeme. -/
theorem Reads.position_lt (h : Reads ls .operand c es ts c') : c.position < c'.position := by
  cases h with
  | leaf h => exact Nat.lt_succ_self _
  | nested h _ inside =>
      have hposition := inside.consumes.position
      rw [Cursor.position_enter] at hposition
      rw [Cursor.position_leave]
      omega

/-! ### Every call ends -/

/-- A call returns or complains. -/
def Ends (ls : List Lexeme) (routine : Routine) (c : Cursor) : Prop :=
  (∃ es ts c', Reads ls routine c es ts c') ∨ ∃ es k c', Fails ls routine c es k c'

/-- An application ends if the loop for its operands does. -/
theorem ends_application (h : Ends ls .operands c.next) (closed : Bool) :
    Ends ls (.application closed) c := by
  by_cases hoperator : ∃ operator, OperatorAt ls c operator
  · obtain ⟨operator, hoperator⟩ := hoperator
    rcases h with ⟨es, ts, c', hreads⟩ | ⟨es, k, c', hfails⟩
    · by_cases hne : ts = []
      · subst hne
        exact .inr ⟨_, _, _, .expression hoperator hreads⟩
      cases closed with
      | false => exact .inl ⟨_, _, _, .unclosed hoperator hreads hne⟩
      | true =>
          cases hnext : ls[c'.position]? with
          | none => exact .inr ⟨_, _, _, .closing hoperator hreads hne hnext⟩
          | some l => exact .inl ⟨_, _, _, .closed hoperator hreads hne hnext⟩
    · exact .inr ⟨_, _, _, .operands hoperator hfails⟩
  · exact .inr ⟨_, _, _, .operator (not_exists.mp hoperator)⟩

/-- **The loop for operands ends**, by induction on the number of lexemes that are left: each
operand takes at least one of them. -/
theorem ends_operands (ls : List Lexeme) (c : Cursor) : Ends ls .operands c := by
  induction hleft : ls.length - c.position using Nat.strong_induction_on generalizing c with
  | _ left ih =>
      have hfurther : ∀ c' : Cursor, c.position < ls.length → c.position < c'.position →
          Ends ls .operands c' := by
        intro c' hin hfurther
        exact ih (ls.length - c'.position) (by omega) c' rfl
      -- what follows an operand is nearer to the end of the line
      have hmore : ∀ {es ts c'}, c.position < ls.length → Reads ls .operand c es ts c' →
          Ends ls .operands c := by
        intro es ts c' hin hfirst
        rcases hfurther c' hin hfirst.position_lt with ⟨es', us, c'', hrest⟩ | ⟨es', k, c'', hrest⟩
        · exact .inl ⟨_, _, _, .more hfirst hrest⟩
        · exact .inr ⟨_, _, _, .rest hfirst hrest⟩
      cases hnext : ls[c.position]? with
      | none => exact .inl ⟨_, _, _, .stop fun l hl => by rw [hnext] at hl; cases hl⟩
      | some l =>
          have hin : c.position < ls.length := (List.getElem?_eq_some_iff.mp hnext).1
          cases l with
          | closing =>
              exact .inl ⟨_, _, _, .stop fun l hl => by rw [hnext] at hl; cases hl; rfl⟩
          | atom s => exact hmore hin (.leaf hnext)
          | opening =>
              by_cases hdeep : maxNesting ≤ c.depth
              · exact .inr ⟨_, _, _, .first (.tooDeep hnext hdeep)⟩
              have hroom : c.depth < maxNesting := Int.not_le.mp hdeep
              have hlater : c.position < c.enter.next.position := by
                rw [Cursor.position_next, Cursor.position_enter]
                omega
              rcases ends_application (hfurther c.enter.next hin hlater) true with
                ⟨es, ts, c', hinside⟩ | ⟨es, k, c', hinside⟩
              · exact hmore hin (.nested hnext hroom hinside)
              · exact .inr ⟨_, _, _, .first (.nested hnext hroom hinside)⟩

/-- **The descent ends on every line.** -/
theorem exists_line (ls : List Lexeme) : ∃ es r c, Line ls es r c := by
  rcases ends_application (ends_operands ls (start ls).next) (isParenthesised ls) with
    ⟨es, ts, c, hreads⟩ | ⟨es, k, c, hfails⟩
  · obtain ⟨operator, operands, -, rfl⟩ := hreads.eq_application
    cases hnext : ls[c.position]? with
    | none => exact ⟨_, _, _, .reads hreads hnext⟩
    | some l => exact ⟨_, _, _, .behind hreads hnext⟩
  · exact ⟨_, _, _, .fails hfails⟩

/-! ### The reader passes through the same places -/

open Reader (State Frame Step Refused run)

section Simulation

variable {ks : List Token} {parenthesised : Bool} {endColumn : Nat} {s s' : State}

/-- The column at a position of a line, or the one behind its end. -/
def columnAt (endColumn : Nat) (ks : List Token) (position : Nat) : Nat :=
  (ks[position]?).elim endColumn Token.column

theorem run_of_step {p : Nat} {l : Lexeme} (hl : (ks.map Token.lexeme)[p]? = some l)
    (h : Step parenthesised s l s') :
    run parenthesised endColumn s (ks.drop p) =
      run parenthesised endColumn s' (ks.drop (p + 1)) := by
  rw [List.getElem?_map, Option.map_eq_some_iff] at hl
  obtain ⟨token, htoken, rfl⟩ := hl
  obtain ⟨hp, rfl⟩ := List.getElem?_eq_some_iff.mp htoken
  rw [List.drop_eq_getElem_cons hp, run, h.eq_ok]

theorem run_of_refused {p : Nat} (h : Refused parenthesised s (ks.map Token.lexeme)[p]? k) :
    run parenthesised endColumn s (ks.drop p) = .error ⟨k, columnAt endColumn ks p⟩ := by
  rw [List.getElem?_map] at h
  have hrefuses := h.refuses
  cases htoken : ks[p]? with
  | none =>
      rw [htoken] at hrefuses
      have hfinish : Reader.finish parenthesised s = .error k := hrefuses
      rw [List.drop_eq_nil_of_le (List.getElem?_eq_none_iff.mp htoken), run, hfinish, columnAt,
        htoken]
      rfl
  | some token =>
      rw [htoken] at hrefuses
      have hstep : Reader.step parenthesised s token.lexeme = .error k := hrefuses
      obtain ⟨hp, rfl⟩ := List.getElem?_eq_some_iff.mp htoken
      rw [List.drop_eq_getElem_cons hp, run, hstep, columnAt, htoken]
      rfl

theorem run_of_finish {p : Nat} {t : Tree} (hp : (ks.map Token.lexeme)[p]? = none)
    (h : Reader.finish parenthesised s = .ok t) :
    run parenthesised endColumn s (ks.drop p) = .ok t := by
  rw [List.getElem?_eq_none_iff, List.length_map] at hp
  rw [List.drop_eq_nil_of_le hp, run, h]
  rfl

theorem run_of_operator {operator : String} {outer : List Frame}
    (h : OperatorAt (ks.map Token.lexeme) c operator) :
    run parenthesised endColumn (.opening outer) (ks.drop c.position) =
      run parenthesised endColumn (.within ⟨operator, []⟩ outer) (ks.drop c.next.position) :=
  run_of_step h.1 (.operator h.2)

/-- Where the reader stands when a routine is called. The application that is not closed is the
line without parentheses around it. -/
inductive Calls (parenthesised : Bool) : Routine → State → Prop
  | operand {top : Frame} {outer : List Frame} : Calls parenthesised .operand (.within top outer)
  | operands {top : Frame} {outer : List Frame} : Calls parenthesised .operands (.within top outer)
  | application {closed : Bool} {outer : List Frame}
      (h : (parenthesised || !outer.isEmpty) = closed) :
      Calls parenthesised (.application closed) (.opening outer)

/-- Where the reader stands when a routine has returned some trees. -/
inductive Returns (parenthesised : Bool) : Routine → State → List Tree → State → Prop
  | operand {top : Frame} {outer : List Frame} {ts : List Tree} :
      Returns parenthesised .operand (.within top outer) ts
        (.within ⟨top.operator, ts.reverse ++ top.reversed⟩ outer)
  | operands {top : Frame} {outer : List Frame} {ts : List Tree} :
      Returns parenthesised .operands (.within top outer) ts
        (.within ⟨top.operator, ts.reverse ++ top.reversed⟩ outer)
  | unclosed {operator : String} {ts : List Tree} :
      Returns parenthesised (.application false) (.opening []) [.application operator ts]
        (.within ⟨operator, ts.reverse⟩ [])
  | nested {f : Frame} {outer : List Frame} {t : Tree} :
      Returns parenthesised (.application true) (.opening (f :: outer)) [t]
        (.within (f.add t) outer)
  | line {t : Tree} (h : parenthesised = true) :
      Returns parenthesised (.application true) (.opening []) [t] (.closed t)

/-- **The reader comes from where a routine is called to where it returns.** -/
theorem Reads.run_eq (h : Reads (ks.map Token.lexeme) routine c es ts c')
    (hs : Returns parenthesised routine s ts s') (hdepth : (s.depth : Int) = c.depth) :
    run parenthesised endColumn s (ks.drop c.position) =
      run parenthesised endColumn s' (ks.drop c'.position) := by
  induction h generalizing s s' with
  | leaf h =>
      cases hs with
      | operand => exact run_of_step h .operand
  | nested h hroom inside ih =>
      cases hs with
      | @operand top outer _ =>
          obtain ⟨operator, operands, -, rfl⟩ := inside.eq_application
          rw [State.depth] at hdepth
          rw [run_of_step h (.nest (by omega))]
          exact ih .nested (by simpa [State.depth] using hdepth)
  | stop _ =>
      cases hs with
      | operands => rfl
  | more first rest ihfirst ihrest =>
      cases hs with
      | @operands top outer _ =>
          rw [ihfirst .operand hdepth, ihrest .operands (by rw [first.depth]; exact hdepth),
            List.reverse_append, List.append_assoc]
  | unclosed h inside _ ih =>
      cases hs with
      | unclosed =>
          rw [run_of_operator h, ih .operands hdepth, List.append_nil]
  | closed h inside hne hnext ih =>
      obtain rfl := inside.stops rfl hnext
      cases hs with
      | @nested f outer _ =>
          rw [run_of_operator h, ih .operands hdepth,
            run_of_step hnext (.close (by simpa using hne)), List.append_nil]
          simp [Frame.tree]
      | line hp =>
          rw [run_of_operator h, ih .operands hdepth,
            run_of_step hnext (.closeLine hp (by simpa using hne)), List.append_nil]
          simp [Frame.tree]

/-- **The reader stops where a routine complains.** -/
theorem Fails.run_eq (h : Fails (ks.map Token.lexeme) routine c es k c')
    (hs : Calls parenthesised routine s) (hdepth : (s.depth : Int) = c.depth) :
    run parenthesised endColumn s (ks.drop c.position) =
      .error ⟨k, columnAt endColumn ks c'.position⟩ := by
  induction h generalizing s with
  | tooDeep h hdeep =>
      cases hs with
      | operand =>
          rw [State.depth] at hdepth
          refine run_of_refused ?_
          rw [h]
          exact .nest (by omega)
  | nested h hroom inside ih =>
      cases hs with
      | operand =>
          rw [State.depth] at hdepth
          rw [run_of_step h (.nest (by omega))]
          exact ih (.application (by simp)) (by simpa [State.depth] using hdepth)
  | first _ ih =>
      cases hs with
      | operands => exact ih .operand hdepth
  | rest first _ ih =>
      cases hs with
      | operands =>
          rw [first.run_eq .operand hdepth]
          exact ih .operands (by rw [first.depth]; exact hdepth)
  | operator h =>
      cases hs with
      | application _ =>
          refine run_of_refused (.operator ?_)
          intro operator hoperator
          have hnot := h operator
          rw [OperatorAt, not_and, Bool.not_eq_false] at hnot
          exact hnot hoperator
  | operands h _ ih =>
      cases hs with
      | application _ =>
          rw [run_of_operator h]
          exact ih .operands hdepth
  | @expression _ c' _ _ _ h inside =>
      cases hs with
      | application _ =>
          rw [run_of_operator h, inside.run_eq .operands hdepth]
          refine run_of_refused (.operand rfl ?_)
          cases hnext : (ks.map Token.lexeme)[c'.position]? with
          | none => exact .inr rfl
          | some l => exact .inl (congrArg some (inside.stops rfl hnext))
  | closing h inside hne hnext =>
      cases hs with
      | @application _ outer hclosed =>
          rw [run_of_operator h, inside.run_eq .operands hdepth]
          refine run_of_refused ?_
          rw [hnext]
          refine .unclosed (by simpa using hne) ?_
          simpa using hclosed

/-- Behind the application of a line the reader takes the end of the line, and nothing else. -/
theorem Reads.exists_finish {t : Tree}
    (h : Reads (ks.map Token.lexeme) (.application parenthesised) c es [t] c')
    (hdepth : c.depth = 0) (endColumn : Nat) :
    ∃ s, run parenthesised endColumn (.opening []) (ks.drop c.position) =
        run parenthesised endColumn s (ks.drop c'.position) ∧
      Reader.finish parenthesised s = .ok t ∧
      ∀ l, (ks.map Token.lexeme)[c'.position]? = some l →
        Refused parenthesised s (some l) .expectedEnd := by
  have hopening : ((State.opening []).depth : Int) = c.depth := hdepth.symm
  cases parenthesised with
  | true => exact ⟨.closed t, h.run_eq (.line rfl) hopening, rfl, fun l _ => .behind⟩
  | false =>
      obtain ⟨operator, operands, hne, ht⟩ := h.eq_application
      cases ht
      refine ⟨.within ⟨operator, operands.reverse⟩ [], h.run_eq .unclosed hopening, ?_, ?_⟩
      · simp [Reader.finish, Frame.tree, hne]
      · intro l hl
        rw [h.stops_of_unclosed hl]
        exact .unopened (by simpa using hne) rfl

end Simulation

/-- What the descent for a line answers. -/
def answer (endColumn : Nat) (ks : List Token) (r : Except Complaint Tree) (c : Cursor) :
    Except ReadError Tree :=
  r.mapError fun k => ⟨k, columnAt endColumn ks c.position⟩

/-- A line is read from where the descent for it starts. -/
theorem ofTokens_eq_run {ks : List Token} (hks : ks ≠ []) (endColumn : Nat) :
    Tree.ofTokens endColumn ks =
      run (isParenthesised (ks.map Token.lexeme)) endColumn (.opening [])
        (ks.drop (start (ks.map Token.lexeme)).position) := by
  rw [Tree.ofTokens, if_neg (by simpa using hks), start]
  cases isParenthesised (ks.map Token.lexeme) <;> rfl

/-- **What the descent answers is what the reader answers**, a tree or a complaint with its
column. -/
theorem Line.ofTokens_eq {ks : List Token} {r : Except Complaint Tree}
    (h : Line (ks.map Token.lexeme) es r c) (hks : ks ≠ []) (endColumn : Nat) :
    Tree.ofTokens endColumn ks = answer endColumn ks r c := by
  rw [ofTokens_eq_run hks]
  cases h with
  | fails h => exact h.run_eq (.application (by simp)) rfl
  | reads h hnext =>
      obtain ⟨s, hrun, hfinish, -⟩ := h.exists_finish rfl endColumn
      rw [hrun, run_of_finish hnext hfinish]
      rfl
  | behind h hnext =>
      obtain ⟨s, hrun, -, hbehind⟩ := h.exists_finish rfl endColumn
      rw [hrun, run_of_refused (hnext ▸ hbehind _ hnext)]
      rfl

/-- A tree that is read has been read by a descent. -/
theorem exists_line_of_ok {ks : List Token} {endColumn : Nat} {t : Tree}
    (h : Tree.ofTokens endColumn ks = .ok t) :
    ∃ es c, Line (ks.map Token.lexeme) es (.ok t) c := by
  have hks : ks ≠ [] := by
    rintro rfl
    cases h
  obtain ⟨es, r, c, hline⟩ := exists_line (ks.map Token.lexeme)
  rw [hline.ofTokens_eq hks] at h
  cases r with
  | error k => cases h
  | ok u =>
      cases h
      exact ⟨es, c, hline⟩

/-- And a complaint has been made by one. -/
theorem exists_line_of_error {ks : List Token} {endColumn : Nat} {e : ReadError} (hks : ks ≠ [])
    (h : Tree.ofTokens endColumn ks = .error e) :
    ∃ es c, Line (ks.map Token.lexeme) es (.error e.complaint) c := by
  obtain ⟨es, r, c, hline⟩ := exists_line (ks.map Token.lexeme)
  rw [hline.ofTokens_eq hks] at h
  cases r with
  | ok t => cases h
  | error k =>
      cases h
      exact ⟨es, c, hline⟩

end Descent

end PrefixCalc
