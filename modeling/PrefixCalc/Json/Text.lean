import PrefixCalc.Json.Token

/-!
# JSON values as text

A value is written without blanks, as the concatenation of its tokens. A text is read by a
machine that takes one token at a time and holds the containers that are still open. Containers
may be nested up to a limit, which holds for writing and for reading.

## Main definitions

* `Json.tokens`: the tokens of a value.
* `Json.compact`: a value as text; `Json.write`: the same within the limit.
* `Json.ReadFault`: why a text is no value.
* `Json.read`: the value that a text is.
-/

namespace PrefixCalc.Json

/-! ### Writing -/

mutual

/-- The tokens of a value. -/
def tokens : Json → List Token
  | .null => [.word .null]
  | .bool b => [.word (.bool b)]
  | .int n => [.word (.int n)]
  | .real x => [.word (.real x)]
  | .text s => [.text s]
  | .broken points => [.broken points]
  | .array [] => [.openArray, .closeArray]
  | .array (j :: js) => .openArray :: j.tokens ++ itemTokens js
  | .object [] => [.openObject, .closeObject]
  | .object ((name, j) :: ms) =>
    .openObject :: .text name :: .colon :: j.tokens ++ memberTokens ms
  | .brokenObject [] => [.openObject, .closeObject]
  | .brokenObject ((name, j) :: ms) =>
    .openObject :: .ofPoints name :: .colon :: j.tokens ++ brokenMemberTokens ms

/-- The tokens of the further items of an array, and its end. -/
def itemTokens : List Json → List Token
  | [] => [.closeArray]
  | j :: js => .comma :: j.tokens ++ itemTokens js

/-- The tokens of the further members of an object, and its end. -/
def memberTokens : List (String × Json) → List Token
  | [] => [.closeObject]
  | (name, j) :: ms => .comma :: .text name :: .colon :: j.tokens ++ memberTokens ms

/-- The tokens of the further members of an object with a broken name, and its end. -/
def brokenMemberTokens : List (List Nat × Json) → List Token
  | [] => [.closeObject]
  | (name, j) :: ms => .comma :: .ofPoints name :: .colon :: j.tokens ++ brokenMemberTokens ms

end

/-- A value as text. All else is written before the text is laid out in octets, so that a number
without a text is told of before a broken text. -/
def compact (j : Json) : Except Unwritable String := do
  let _ ← (j.tokens.filter (!·.isBroken)).mapM Token.write
  return String.join (← j.tokens.mapM Token.write)

mutual

/-- How deep containers are nested in a value. -/
def depth : Json → Nat
  | .array items => depthItems items + 1
  | .object members => depthMembers members + 1
  | .brokenObject members => depthBrokenMembers members + 1
  | _ => 0

/-- The greatest depth of items. -/
def depthItems : List Json → Nat
  | [] => 0
  | j :: js => max j.depth (depthItems js)

/-- The greatest depth of members. -/
def depthMembers : List (String × Json) → Nat
  | [] => 0
  | (_, j) :: ms => max j.depth (depthMembers ms)

/-- The greatest depth of members of an object with a broken name. -/
def depthBrokenMembers : List (List Nat × Json) → Nat
  | [] => 0
  | (_, j) :: ms => max j.depth (depthBrokenMembers ms)

end

/-- How many calls the interpreter lets be open at once, unless it is told otherwise. -/
def maxOpenCalls : Nat := 1000

/-- How many calls are open where a text is read or written. That is the caller's affair; so many
are open where a client reads an answer. -/
def callsAround : Nat := 15

/-- How deep containers may be nested in a text. A container is read or written by a call, which
stays open while the containers in it are, and the interpreter ends a call too many. -/
def maxNesting : Nat := maxOpenCalls - callsAround

/-- A value as text, if it is not nested too deep. -/
def write (j : Json) : Except Unwritable String :=
  if j.depth ≤ maxNesting then j.compact else .error .tooDeep

/-! ### Reading -/

/-- A container that is still open: what it holds already, and for an object the name of the
member whose value is being read. Names are code points, since any of them may be broken. -/
inductive Frame where
  | array (before : List Json)
  | object (before : List (List Nat × Json)) (name : List Nat)

/-- What may come next. -/
inductive Expecting where
  /-- A value. -/
  | value
  /-- The first item of an array, or its end. -/
  | firstItem
  /-- The first name of an object, or its end. -/
  | firstName
  /-- A further name of an object. -/
  | name (before : List (List Nat × Json))
  /-- The colon behind a name. -/
  | colon (before : List (List Nat × Json)) (name : List Nat)
  /-- A comma or the end of the enclosing container, after a value. -/
  | next (done : Json)

/-- The state of the reader: what may come next, and the open containers, innermost first. -/
structure ReadState where
  expecting : Expecting
  outer : List Frame

/-- Why a text is no value. -/
inductive ReadFault where
  | malformed
  /-- Containers are nested too deep, whatever follows. -/
  | tooDeep
  deriving DecidableEq, Repr

/-- The name that a token is for a member. -/
def Token.name? : Token → Option (List Nat)
  | .text s => some (Text.points s)
  | .broken points => some points
  | _ => none

/-- A container is opened, if it is not too deep. -/
def openIn (outer : List Frame) (expecting : Expecting) : Except ReadFault ReadState :=
  if maxNesting ≤ outer.length then .error .tooDeep else .ok ⟨expecting, outer⟩

/-- A token where a value must come. -/
def readValue (outer : List Frame) : Token → Except ReadFault ReadState
  | .word w => .ok ⟨.next w.value, outer⟩
  | .text s => .ok ⟨.next (.text s), outer⟩
  | .broken points => .ok ⟨.next (.broken points), outer⟩
  | .openArray => openIn outer .firstItem
  | .openObject => openIn outer .firstName
  | _ => .error .malformed

/-- A token where the name of a member must come. -/
def readName (before : List (List Nat × Json)) (outer : List Frame) (t : Token) :
    Except ReadFault ReadState :=
  match t.name? with
  | some name => .ok ⟨.colon before name, outer⟩
  | none => .error .malformed

/-- A token after a value in a container. -/
def readNext (done : Json) : List Frame → Token → Except ReadFault ReadState
  | .array before :: outer, .comma => .ok ⟨.value, .array (before ++ [done]) :: outer⟩
  | .array before :: outer, .closeArray => .ok ⟨.next (.array (before ++ [done])), outer⟩
  | .object before name :: outer, .comma => .ok ⟨.name (put before name done), outer⟩
  | .object before name :: outer, .closeObject =>
    .ok ⟨.next (ofMembers (put before name done)), outer⟩
  | _, _ => .error .malformed

/-- One token. -/
def readStep (s : ReadState) (t : Token) : Except ReadFault ReadState :=
  match s.expecting, t with
  | .value, t => readValue s.outer t
  | .firstItem, .closeArray => .ok ⟨.next (.array []), s.outer⟩
  | .firstItem, t => readValue (.array [] :: s.outer) t
  | .firstName, .closeObject => .ok ⟨.next (.object []), s.outer⟩
  | .firstName, t => readName [] s.outer t
  | .name before, t => readName before s.outer t
  | .colon before name, .colon => .ok ⟨.value, .object before name :: s.outer⟩
  | .colon _ _, _ => .error .malformed
  | .next done, t => readNext done s.outer t

/-- The state after a sequence of tokens. -/
def readSteps : ReadState → List Token → Except ReadFault ReadState
  | s, [] => .ok s
  | s, t :: ts =>
    match readStep s t with
    | .ok s => readSteps s ts
    | .error e => .error e

/-- The value that has been read when nothing more must come. -/
def ReadState.done? : ReadState → Option Json
  | ⟨.next done, []⟩ => some done
  | _ => none

/-- The value that a text is. What is wrong in it first decides how it is refused. -/
def read (s : String) : Except ReadFault Json :=
  let (ts, whole) := Token.scan s
  match readSteps ⟨.value, []⟩ ts with
  | .error e => .error e
  | .ok state =>
    match whole, state.done? with
    | true, some j => .ok j
    | _, _ => .error .malformed

end PrefixCalc.Json
