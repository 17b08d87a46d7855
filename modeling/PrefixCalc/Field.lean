import PrefixCalc.Decimal.Numeral
import PrefixCalc.Json.Basic

/-!
# Typed fields

A field of a record takes a JSON value and makes a typed value of it, or says what is wrong with
it. Records of several fields collect what is wrong with any of them.

## Main definitions

* `Field.Issue`: what is wrong, and where.
* `Field.text`, `Field.integer`, `Field.real`, `Field.texts`: fields of one type each.
* `Field.optional`: a field that may also be null.
-/

namespace PrefixCalc.Field

/-- What can be wrong with a value. -/
inductive Complaint where
  | notText
  | brokenText
  | notInteger
  | malformedInteger
  | integerTooLong
  | integerWithFraction
  | notFinite
  | notReal
  | malformedReal
  | notList
  deriving DecidableEq, Repr

/-- The code for a complaint. -/
def Complaint.code : Complaint → String
  | .notText => "string_type"
  | .brokenText => "string_unicode"
  | .notInteger => "int_type"
  | .malformedInteger => "int_parsing"
  | .integerTooLong => "int_parsing_size"
  | .integerWithFraction => "int_from_float"
  | .notFinite => "finite_number"
  | .notReal => "float_type"
  | .malformedReal => "float_parsing"
  | .notList => "list_type"

/-- A complaint and the names that lead to the value it is about. -/
structure Issue where
  path : List String
  complaint : Complaint
  deriving DecidableEq, Repr

/-- A value, or what is wrong with it. -/
abbrev Checked (α : Type) := Except (List Issue) α

/-- A function and its argument, or what is wrong with either of them. -/
def Checked.apply {α β : Type} : Checked (α → β) → Checked α → Checked β
  | .ok f, .ok a => .ok (f a)
  | .ok _, .error es => .error es
  | .error es, .ok _ => .error es
  | .error es, .error es' => .error (es ++ es')

/-- What is wrong with a value is said of the member that holds it. -/
def Checked.within {α : Type} (name : String) : Checked α → Checked α :=
  Except.mapError fun es => es.map fun e => { e with path := name :: e.path }

/-- A complaint about the value itself. -/
def refuse {α : Type} (c : Complaint) : Checked α :=
  .error [⟨[], c⟩]

/-! ### Fields -/

/-- A text. -/
def text : Json → Checked String
  | .text s => .ok s
  | .broken _ => refuse .brokenText
  | _ => refuse .notText

/-- A null, or what another field takes. -/
def optional {α : Type} (field : Json → Checked α) : Json → Checked (Option α)
  | .null => .ok none
  | j => (field j).map some

/-- Whole floating-point numbers are taken as integers strictly between these bounds. -/
def wholeBound : Int := Int.pow 2 63

/-- An integer that a floating-point number is. -/
def ofReal (x : Real64) : Checked Int :=
  match x with
  | .finite _ _ _ =>
    match x.toInt? with
    | some n =>
      if -wholeBound < n ∧ n < wholeBound then .ok n else refuse .integerTooLong
    | none => refuse .integerWithFraction
  | _ => refuse .notFinite

/-- An integer: as such, as a truth value, as a whole floating-point number, or as a text. -/
def integer : Json → Checked Int
  | .int n => .ok n
  | .bool b => .ok (if b then 1 else 0)
  | .real x => ofReal x
  | .text s =>
    match Numeral.readInteger s with
    | .int n => .ok n
    | .tooLong => refuse .integerTooLong
    | .malformed => refuse .malformedInteger
  | .broken _ => refuse .brokenText
  | _ => refuse .notInteger

/-- A floating-point number: as such, as an integer that is not too large, as a truth value, or as
a text. -/
def real : Json → Checked Real64
  | .real x => .ok x
  | .bool b => .ok (Real64.ofInt (if b then 1 else 0))
  | .int n =>
    match Real64.ofInt n with
    | .infinite _ => refuse .notReal
    | x => .ok x
  | .text s =>
    match Numeral.toReal? s with
    | some x => .ok x
    | none => refuse .malformedReal
  | .broken _ => refuse .brokenText
  | _ => refuse .notReal

/-- The items of a list from a given place on, each a text. -/
def textsFrom : Nat → List Json → Checked (List String)
  | _, [] => .ok []
  | i, j :: js =>
    .apply (.within (Decimal.text i) ((text j).map List.cons)) (textsFrom (i + 1) js)

/-- A list of texts. -/
def texts : Json → Checked (List String)
  | .array js => textsFrom 0 js
  | _ => refuse .notList

end PrefixCalc.Field
