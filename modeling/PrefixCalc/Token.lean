import PrefixCalc.Text.Blank

/-!
# Tokens of an expression

A parenthesis is a token, and so is every longest run of characters that are neither blank nor
parentheses, an atom. A token knows the column it starts in, counted in characters from 1; a line
break does not start the count again.

## Main definitions

* `Token`: a token with its column.
* `Token.scan`: the tokens of a text.
-/

namespace PrefixCalc

/-- A token: a parenthesis, or an atom. -/
inductive Lexeme where
  | opening
  | closing
  | atom (text : String)
  deriving DecidableEq, Repr

/-- The characters of a lexeme. -/
def Lexeme.text : Lexeme → String
  | .opening => "("
  | .closing => ")"
  | .atom s => s

/-- A lexeme with the column it starts in. -/
structure Token where
  lexeme : Lexeme
  column : Nat
  deriving DecidableEq, Repr

namespace Token

/-- The atom that ends before a column, from its characters in reverse; without characters there
is none. -/
def endAtom (reversed : List Char) (column : Nat) : List Token :=
  if reversed.isEmpty then []
  else [⟨.atom (String.ofList reversed.reverse), column - reversed.length⟩]

/-- The tokens of the rest of a text that starts in a column, behind the characters of an atom
that has not ended yet. -/
def scanFrom (reversed : List Char) (column : Nat) : List Char → List Token
  | [] => endAtom reversed column
  | c :: cs =>
    if c = '(' then endAtom reversed column ++ ⟨.opening, column⟩ :: scanFrom [] (column + 1) cs
    else if c = ')' then
      endAtom reversed column ++ ⟨.closing, column⟩ :: scanFrom [] (column + 1) cs
    else if Text.isBlank c then endAtom reversed column ++ scanFrom [] (column + 1) cs
    else scanFrom (c :: reversed) (column + 1) cs

/-- The tokens of a text. -/
def scan (text : String) : List Token :=
  scanFrom [] 1 text.toList

@[simp] theorem endAtom_nil (column : Nat) : endAtom [] column = [] := rfl

@[simp] theorem scanFrom_nil (reversed : List Char) (column : Nat) :
    scanFrom reversed column [] = endAtom reversed column := rfl

end Token

end PrefixCalc
