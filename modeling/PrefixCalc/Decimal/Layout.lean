import PrefixCalc.Decimal.Shortest

/-!
# The text of a floating-point number

The digits of a number are the fewest that read back; how they are laid out is a record, so that
each decision stands in one place.

## Main definitions

* `Layout`: the decisions.
* `Layout.standard`: the layout of every number that this program shows.
* `Real64.text`: a number in the standard layout.
-/

namespace PrefixCalc

/-- How the digits of a number are laid out. -/
structure Layout where
  /-- Numbers with at least so many places before the point, and … -/
  leastPlaces : Int
  /-- … at most so many, are written without an exponent. -/
  mostPlaces : Int
  /-- What follows a whole number that is written without an exponent. -/
  wholeMark : String
  /-- The least number of digits of an exponent. -/
  exponentWidth : Nat
  infinityWord : String
  nanWord : String

/-- Numbers from `0.0001` to below `10 ^ 16` have no exponent, a whole number ends in `.0`, and an
exponent has a sign and at least two digits. -/
def Layout.standard : Layout where
  leastPlaces := -3
  mostPlaces := 16
  wholeMark := ".0"
  exponentWidth := 2
  infinityWord := "inf"
  nanWord := "nan"

namespace Layout

/-- An exponent, with its sign. -/
def exponent (l : Layout) (e : Int) : String :=
  let ds := (Nat.toDigits 10 e.natAbs)
  let padded := List.replicate (l.exponentWidth - ds.length) '0' ++ ds
  "e" ++ (if e < 0 then "-" else "+") ++ String.ofList padded

/-- The digits `0.d₁d₂… * 10 ^ places` in the layout. -/
def digits (l : Layout) (ds : List Char) (places : Int) : String :=
  if l.leastPlaces ≤ places ∧ places ≤ l.mostPlaces then
    if places ≤ 0 then "0." ++ String.ofList (List.replicate (-places).toNat '0' ++ ds)
    else
      let whole := ds.take places.toNat
      let fraction := ds.drop places.toNat
      let padded := whole ++ List.replicate (places.toNat - whole.length) '0'
      String.ofList padded ++
        (if fraction.isEmpty then l.wholeMark else "." ++ String.ofList fraction)
  else
    let point := if ds.length ≤ 1 then "" else "."
    String.ofList (ds.take 1) ++ point ++ String.ofList (ds.drop 1) ++ l.exponent (places - 1)

/-- A number in the layout. -/
def number (l : Layout) : Real64 → String
  | .finite negative m q =>
    let sign := if negative then "-" else ""
    if m = 0 then sign ++ "0" ++ l.wholeMark
    else
      let (ds, places) := Real64.shortest m q
      sign ++ l.digits ds places
  | .infinite negative => (if negative then "-" else "") ++ l.infinityWord
  | .nan => l.nanWord

end Layout

/-- A number in the standard layout. -/
def Real64.text (x : Real64) : String :=
  Layout.standard.number x

end PrefixCalc
