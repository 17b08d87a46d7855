import PrefixCalc.Decimal.Integer
import PrefixCalc.Decimal.Layout
import PrefixCalc.Text.Quoted

/-!
# JSON values

The values that settings, bodies, log records and error details hold. Integers are exact and
apart from floating-point numbers. The members of an object keep their order. A text in which half
of a character stands alone is broken, and an object with a broken name is another kind of object.

## Main definitions

* `Json`: the values.
* `Json.put`, `Json.get?`: an object's members by name; a name given again keeps its place and
  takes the later value.
* `Json.ofMembers`: an object with names that may be broken.
* `Json.typeWord`: the word for the kind of a value.
* `Json.shown`: a value as a message shows it.
-/

namespace PrefixCalc

/-- A JSON value. -/
inductive Json where
  | null
  | bool (b : Bool)
  | int (n : Int)
  | real (x : Real64)
  | text (s : String)
  /-- A text in which half of a character stands alone, as its code points. -/
  | broken (points : List Nat)
  | array (items : List Json)
  | object (members : List (String × Json))
  /-- An object in which some name is a broken text, all names as their code points. -/
  | brokenObject (members : List (List Nat × Json))
  deriving Inhabited, Repr

namespace Json

/-! ### Members of an object -/

section Members

variable {α : Type} [BEq α]

/-- The members with one added at the end, or with its value replaced where the name is. -/
def put (members : List (α × Json)) (name : α) (value : Json) : List (α × Json) :=
  if members.any (·.1 == name) then
    members.map fun m => if m.1 == name then (name, value) else m
  else members ++ [(name, value)]

/-- The value of a member. -/
def member? (members : List (α × Json)) (name : α) : Option Json :=
  members.lookup name

@[simp] theorem put_nil (name : α) (value : Json) : put [] name value = [(name, value)] := rfl

end Members

/-- The value of a member of an object; another value has no members. -/
def get? : Json → String → Option Json
  | .object members, name => member? members name
  | .brokenObject members, name => member? members (Text.points name)
  | _, _ => none

/-- Members with their names as code points. -/
def pointed (members : List (String × Json)) : List (List Nat × Json) :=
  members.map fun m => (Text.points m.1, m.2)

@[simp] theorem pointed_nil : pointed [] = [] := rfl

@[simp] theorem pointed_cons (m : String × Json) (members : List (String × Json)) :
    pointed (m :: members) = (Text.points m.1, m.2) :: pointed members := rfl

/-- The object with members whose names are given as code points. -/
def ofMembers (members : List (List Nat × Json)) : Json :=
  if members.all fun m => Text.isWhole m.1 then
    .object (members.map fun m => (Text.ofPoints m.1, m.2))
  else .brokenObject members

theorem ofMembers_pointed (members : List (String × Json)) :
    ofMembers (pointed members) = .object members := by
  have hwhole : ((pointed members).all fun m => Text.isWhole m.1) = true := by
    simp [pointed]
  rw [ofMembers, if_pos hwhole, pointed, List.map_map]
  simp [Function.comp_def]

theorem put_pointed (members : List (String × Json)) (name : String) (value : Json) :
    put (pointed members) (Text.points name) value = pointed (put members name value) := by
  have hname : ∀ s : String, (Text.points s == Text.points name) = (s == name) := by
    intro s
    rw [Bool.eq_iff_iff, beq_iff_eq, beq_iff_eq, Text.points_inj]
  have hany : ((pointed members).any fun m => m.1 == Text.points name) =
      members.any fun m => m.1 == name := by
    simp [pointed, List.any_map, Function.comp_def, hname]
  rw [put, put, hany]
  split
  · simp only [pointed, List.map_map, List.map_inj_left, Function.comp_apply, hname]
    intro m _
    split <;> rfl
  · simp [pointed]

/-! ### Words for values -/

/-- The word for the kind of a value, as messages name it. -/
def typeWord : Json → String
  | .null => "NoneType"
  | .bool _ => "bool"
  | .int _ => "int"
  | .real _ => "float"
  | .text _ => "str"
  | .broken _ => "str"
  | .array _ => "list"
  | .object _ => "dict"
  | .brokenObject _ => "dict"

/-- Texts with a separator between each two. -/
def joined (separator : String) (parts : List String) : String :=
  separator.intercalate parts

mutual

/-- A value as a message shows it: words for the constants, texts in quotes, and containers with
a blank after each comma and colon. -/
def shown : Json → Except Unwritable String
  | .null => .ok "None"
  | .bool true => .ok "True"
  | .bool false => .ok "False"
  | .int n => Decimal.write n
  | .real x => .ok x.text
  | .text s => .ok (Text.quoted s)
  | .broken points => .ok (Text.quotedPoints points)
  | .array items => do return "[" ++ joined ", " (← shownItems items) ++ "]"
  | .object members => do return "\x7b" ++ joined ", " (← shownMembers members) ++ "\x7d"
  | .brokenObject members => do
    return "\x7b" ++ joined ", " (← shownBrokenMembers members) ++ "\x7d"

/-- The items of an array, each as a message shows it. -/
def shownItems : List Json → Except Unwritable (List String)
  | [] => .ok []
  | j :: js => do return (← j.shown) :: (← shownItems js)

/-- The members of an object, each as a message shows it. -/
def shownMembers : List (String × Json) → Except Unwritable (List String)
  | [] => .ok []
  | (name, j) :: ms => do
    return (Text.quoted name ++ ": " ++ (← j.shown)) :: (← shownMembers ms)

/-- The members of an object with a broken name, each as a message shows it. -/
def shownBrokenMembers : List (List Nat × Json) → Except Unwritable (List String)
  | [] => .ok []
  | (name, j) :: ms => do
    return (Text.quotedPoints name ++ ": " ++ (← j.shown)) :: (← shownBrokenMembers ms)

end

/-- Members are shown as they are with their names as code points. -/
theorem shownMembers_eq (members : List (String × Json)) :
    shownMembers members = shownBrokenMembers (pointed members) := by
  induction members with
  | nil => rfl
  | cons m members ih =>
      rw [shownMembers, ih, pointed_cons, shownBrokenMembers, Text.quotedPoints_points]

/-- A value as a line of output: a text as it is, and any other value as a message shows it. -/
def line : Json → Except Unwritable String
  | .text s => .ok s
  | .broken points => .ok (Text.consolePoints points)
  | j => j.shown

end Json

end PrefixCalc
