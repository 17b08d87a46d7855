import PrefixCalc.Decimal.Integer
import PrefixCalc.Json.Basic
import PrefixCalc.Token

/-!
# Expression trees

An expression is a tree: a leaf holds the text of an operand, and an application an operator with
its operands in order. Trees may also be built by hand, and then a node can be a value that is no
expression at all.

## Main definitions

* `Tree`: the trees.
* `Tree.yield`: the lexemes that a tree is written with, applications in parentheses.
* `Tree.sexpr?`: the canonical text of a tree.
* `Tree.depth`: how deep applications are nested.
* `Tree.WellFormed`: what the reader promises of its trees.
-/

namespace PrefixCalc

/-- An expression tree. -/
inductive Tree where
  | leaf (literal : String)
  | application (operator : String) (operands : List Tree)
  /-- A value in the place of a node. -/
  | foreign (value : Json)
  deriving Inhabited

namespace Tree

/-! ### Written forms -/

mutual

/-- The lexemes that a tree is written with, every application in parentheses. -/
def yield : Tree → List Lexeme
  | .leaf literal => [.atom literal]
  | .application operator operands =>
    .opening :: .atom operator :: yieldAll operands ++ [.closing]
  | .foreign _ => []

/-- The lexemes of trees side by side. -/
def yieldAll : List Tree → List Lexeme
  | [] => []
  | t :: ts => t.yield ++ yieldAll ts

end

mutual

/-- The canonical text of a tree, every application in parentheses and one blank behind the
operator and between operands. A value that is no node has none. -/
def sexpr? : Tree → Option String
  | .leaf literal => some literal
  | .application operator operands =>
    (sexprs? operands).map fun parts => "(" ++ operator ++ " " ++ Json.joined " " parts ++ ")"
  | .foreign _ => none

/-- The canonical texts of trees side by side. -/
def sexprs? : List Tree → Option (List String)
  | [] => some []
  | t :: ts => do return (← t.sexpr?) :: (← sexprs? ts)

end

/-! ### Shape -/

mutual

/-- How deep applications are nested: none in a leaf, one in an application of leaves. -/
def depth : Tree → Nat
  | .application _ operands => depthAll operands + 1
  | _ => 0

/-- The greatest depth of trees side by side. -/
def depthAll : List Tree → Nat
  | [] => 0
  | t :: ts => max t.depth (depthAll ts)

end

/-- An atom's text is not empty and holds neither blanks nor parentheses. -/
def isAtomText (s : String) : Bool :=
  let cs := s.toList
  !cs.isEmpty && cs.all fun c => !Text.isBlank c && c != '(' && c != ')'

/-- An operator is an atom that is not a numeral. -/
def isOperatorText (s : String) : Bool :=
  isAtomText s && !Decimal.isNumeral s.toList

mutual

/-- Every leaf is an atom, and every application has an operator and at least one operand. -/
def isProper : Tree → Bool
  | .leaf literal => isAtomText literal
  | .application operator operands =>
    isOperatorText operator && !operands.isEmpty && allProper operands
  | .foreign _ => false

/-- Trees side by side that are all proper. -/
def allProper : List Tree → Bool
  | [] => true
  | t :: ts => t.isProper && allProper ts

end

/-- How deep applications may be nested below the root of an expression. -/
def maxNesting : Nat := 100

/-- What the reader promises: an application at the root, all nodes proper, and no more than
`maxNesting` levels of applications below the root. -/
structure WellFormed (t : Tree) : Prop where
  root : ∃ operator operands, t = .application operator operands
  proper : t.isProper = true
  shallow : t.depth ≤ maxNesting + 1

end Tree

end PrefixCalc
