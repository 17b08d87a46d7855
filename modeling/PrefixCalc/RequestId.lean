/-!
# The id of the current request

While a request is served, its id is the current one. Making an id current gives a receipt, with
which the id that was current before can be brought back, once.

## Main definitions

* `RequestId.Context`: the current id and the receipts.
* `RequestId.Context.enter`, `RequestId.Context.leave`: making an id current, and going back.
-/

namespace PrefixCalc.RequestId

/-- New ids, by how many were taken before. -/
abbrev Supply := Nat → String

/-- The id that a caller offers, if it is not empty. -/
def offered? (id : Option String) : Option String :=
  id.filter fun s => !s.isEmpty

/-- What is left of making an id current: the id before it, and whether it was brought back. -/
structure Receipt where
  before : Option String
  used : Bool
  deriving DecidableEq, Repr

/-- The current id, the receipts in the order in which they were given, and how many new ids were
taken. -/
structure Context where
  current : Option String := none
  receipts : List Receipt := []
  taken : Nat := 0
  deriving DecidableEq, Repr

namespace Context

/-- Makes an id current: the offered one, or a new one when none is offered. -/
def enter (supply : Supply) (c : Context) (offer : Option String) : Context :=
  let receipts := c.receipts ++ [⟨c.current, false⟩]
  match offered? offer with
  | some id => { c with current := some id, receipts }
  | none => { current := some (supply c.taken), receipts, taken := c.taken + 1 }

/-- Brings back the id from before the `i`-th one was made current. A receipt serves once. -/
def leave (c : Context) (i : Nat) : Option Context :=
  match c.receipts[i]? with
  | some ⟨before, false⟩ =>
    some { c with current := before, receipts := c.receipts.set i ⟨before, true⟩ }
  | _ => none

/-- A receipt that was not used brings back the id from before. -/
theorem leave_enter (supply : Supply) (c : Context) (offer : Option String) :
    ((c.enter supply offer).leave c.receipts.length).map Context.current = some c.current := by
  cases h : offered? offer <;> simp [enter, leave, h]

end Context

end PrefixCalc.RequestId
