import PrefixCalc.Tree

/-!
# Reading expressions

A line is an operator with one or more operands, with or without parentheses around the whole
line; an operand is an atom or a parenthesised application. The reader takes one token at a time
and holds the applications that are still open, innermost first. It stops at the first token with
which no expression can start, and the error points there.

Whether the whole line is in parentheses is decided before it is read: the first token opens and
what it opens closes with the last token, or never.

## Main definitions

* `ReadError`: why and where a text is no expression.
* `Reader.step`, `Reader.finish`: one token, and the end of the line.
* `closingIndex`: where the first parenthesis closes.
* `Tree.parse`: the tree of a text.
-/

namespace PrefixCalc

/-- What is missing, or too much, where the reader stops. -/
inductive Complaint where
  | expectedOperator
  | expectedExpression
  | expectedClosing
  | expectedEnd
  | tooDeep
  deriving DecidableEq, Repr

/-- The wording of a complaint. -/
def Complaint.text : Complaint → String
  | .expectedOperator => "expected operator"
  | .expectedExpression => "expected expression"
  | .expectedClosing => "expected ')'"
  | .expectedEnd => "expected end of input"
  | .tooDeep => "nesting too deep"

/-- Why a text is no expression, and the column at which the reader stopped. -/
structure ReadError where
  complaint : Complaint
  column : Nat
  deriving DecidableEq, Repr

/-- The message of an error, with the name of the input. -/
def ReadError.message (e : ReadError) (source : String) : String :=
  source ++ ":1:" ++ e.column.repr ++ ": error: " ++ e.complaint.text

namespace Reader

/-- An application that is still open, its operands in reverse. -/
structure Frame where
  operator : String
  reversed : List Tree

/-- The frame with one more operand. -/
def Frame.add (f : Frame) (t : Tree) : Frame :=
  { f with reversed := t :: f.reversed }

/-- The application that a frame has become. -/
def Frame.tree (f : Frame) : Tree :=
  .application f.operator f.reversed.reverse

/-- Where the reader stands. The enclosing applications come innermost first, so their number is
the number of operand parentheses that are open. -/
inductive State where
  /-- An operator must come. -/
  | opening (outer : List Frame)
  /-- An operand or the end of an application must come. -/
  | within (top : Frame) (outer : List Frame)
  /-- The line must end. -/
  | closed (t : Tree)

/-- The number of operand parentheses that are open. -/
def State.depth : State → Nat
  | .opening outer => outer.length
  | .within _ outer => outer.length
  | .closed _ => 0

/-- One lexeme. `parenthesised` says whether the whole line is in parentheses. -/
def step (parenthesised : Bool) : State → Lexeme → Except Complaint State
  | .opening outer, .atom s =>
    if Decimal.isNumeral s.toList then .error .expectedOperator else .ok (.within ⟨s, []⟩ outer)
  | .opening _, _ => .error .expectedOperator
  | .within top outer, .atom s => .ok (.within (top.add (.leaf s)) outer)
  | .within top outer, .opening =>
    if Tree.maxNesting ≤ outer.length then .error .tooDeep else .ok (.opening (top :: outer))
  | .within top outer, .closing =>
    if top.reversed.isEmpty then .error .expectedExpression
    else
      match outer with
      | f :: outer => .ok (.within (f.add top.tree) outer)
      | [] => if parenthesised then .ok (.closed top.tree) else .error .expectedEnd
  | .closed _, _ => .error .expectedEnd

/-- The end of the line. -/
def finish (parenthesised : Bool) : State → Except Complaint Tree
  | .opening _ => .error .expectedOperator
  | .within top outer =>
    if top.reversed.isEmpty then .error .expectedExpression
    else if parenthesised || !outer.isEmpty then .error .expectedClosing
    else .ok top.tree
  | .closed t => .ok t

/-- The tree of a sequence of tokens, from where the reader stands; an error is at the token that
is refused, or behind the end. -/
def run (parenthesised : Bool) (endColumn : Nat) : State → List Token → Except ReadError Tree
  | s, [] => (finish parenthesised s).mapError (⟨·, endColumn⟩)
  | s, t :: ts =>
    match step parenthesised s t.lexeme with
    | .ok s => run parenthesised endColumn s ts
    | .error c => .error ⟨c, t.column⟩

/-! ### The parentheses around a line -/

/-- How many lexemes before the one with which the depth, counted from `depth`, comes down to
zero. -/
def closingFrom : (depth : Int) → List Lexeme → Option Nat
  | _, [] => none
  | depth, .opening :: ls => (closingFrom (depth + 1) ls).map (· + 1)
  | depth, .closing :: ls =>
    if depth = 1 then some 0 else (closingFrom (depth - 1) ls).map (· + 1)
  | depth, .atom _ :: ls => (closingFrom depth ls).map (· + 1)

end Reader

/-- Where the parentheses that are opened in a sequence of lexemes have all closed again. -/
def closingIndex (ls : List Lexeme) : Option Nat :=
  Reader.closingFrom 0 ls

/-- A line is in parentheses when its first lexeme opens and what it opens closes with the last
lexeme, or never. -/
def isParenthesised (ls : List Lexeme) : Bool :=
  match ls with
  | .opening :: _ =>
    match closingIndex ls with
    | none => true
    | some i => i + 1 = ls.length
  | _ => false

/-- The tree of the tokens of a line; the column behind its last character serves an error at its
end, and the first column an error of a line without tokens. -/
def Tree.ofTokens (endColumn : Nat) (ts : List Token) : Except ReadError Tree :=
  if ts.isEmpty then .error ⟨.expectedOperator, 1⟩
  else
    let parenthesised := isParenthesised (ts.map Token.lexeme)
    Reader.run parenthesised endColumn (.opening []) (if parenthesised then ts.drop 1 else ts)

/-- The tree of a text. -/
def Tree.parse (text : String) : Except ReadError Tree :=
  Tree.ofTokens (text.length + 1) (Token.scan text)

end PrefixCalc
