import PrefixCalc.Json.Basic
import PrefixCalc.Text.DecimalDigit
import PrefixCalc.Text.Split

/-!
# Arguments of the command line

An argument is an option, a value or the separator `--`, behind which all arguments are values. An
option may be shortened as long as it stays the only one that it can be, and may have its value
attached: behind an equals sign, or, when its name is one letter, directly. A value may start with
a minus sign only if it is that sign alone, looks like a negative number, or holds a blank.

All arguments are classified before any option acts. Options then act in order, so that a request
for help goes before what is wrong behind it.

## Main definitions

* `Switch`: the options.
* `Kind`, `classify`: what an argument is.
* `Options`, `Options.ofArguments`: what a list of arguments asks for.
* `Problem.message`: what is wrong with a list of arguments.
-/

namespace PrefixCalc.CommandLine

/-- The options. -/
inductive Switch where
  | help
  | prompt
  | remote
  | expression
  deriving DecidableEq, Repr

namespace Switch

/-- The names of an option. -/
def names : Switch → List String
  | .help => ["-h", "--help"]
  | .prompt => ["--prompt"]
  | .remote => ["--remote"]
  | .expression => ["-e", "--eval"]

/-- An option that has a value. -/
def hasValue : Switch → Bool
  | .prompt => true
  | .expression => true
  | _ => false

/-- All options, in the order in which they are offered. -/
def all : List Switch :=
  [.help, .prompt, .remote, .expression]

/-- All names with their options. -/
def byName : List (String × Switch) :=
  all.flatMap fun s => s.names.map fun name => (name, s)

/-- The option with a name. -/
def ofName? (name : String) : Option Switch :=
  byName.lookup name

/-- An option as complaints name it. -/
def title (s : Switch) : String :=
  Json.joined "/" s.names

end Switch

/-! ### Problems -/

/-- What can be wrong with a list of arguments. -/
inductive Problem where
  /-- An argument is short for several options. -/
  | ambiguous (argument : String) (names : List String)
  /-- An option lacks its value. -/
  | missingValue (s : Switch)
  /-- An option without value has one attached. -/
  | needlessValue (s : Switch) (value : String)
  /-- Arguments that no option takes. -/
  | leftover (arguments : List String)
  deriving DecidableEq, Repr

/-- The wording of a problem. -/
def Problem.message : Problem → String
  | .ambiguous argument names =>
    "ambiguous option: " ++ argument ++ " could match " ++ Json.joined ", " names
  | .missingValue s => "argument " ++ s.title ++ ": expected one argument"
  | .needlessValue s value =>
    "argument " ++ s.title ++ ": ignored explicit argument " ++ Text.quoted value
  | .leftover arguments => "unrecognized arguments: " ++ Json.joined " " arguments

/-! ### Kinds of arguments -/

/-- What is attached to an option. -/
inductive Attachment where
  | nothing
  /-- A text behind an equals sign. -/
  | joined (s : String)
  /-- A text directly behind the letter of the option. -/
  | direct (s : String)
  deriving DecidableEq, Repr

/-- What an argument is. -/
inductive Kind where
  | value
  | separator
  | option (s : Switch) (attached : Attachment)
  /-- Neither a value nor one of the options. -/
  | unknown
  deriving DecidableEq, Repr

/-- Digits with a point before or among them, or none. -/
def isFraction (cs : List Char) : Bool :=
  match Text.cut '.' cs with
  | (whole, none) => !whole.isEmpty && whole.all Text.isDecimalDigit
  | (whole, some fraction) =>
    !fraction.isEmpty && whole.all Text.isDecimalDigit && fraction.all Text.isDecimalDigit

/-- A minus sign and digits, possibly with a point; a line end may follow. -/
def isNegativeNumber (argument : String) : Bool :=
  match argument.toList with
  | '-' :: cs =>
    isFraction (if cs.getLast? = some '\n' then cs.dropLast else cs)
  | _ => false

/-- What stands behind the first equals sign of an argument. -/
def attachmentOf : Option (List Char) → Attachment
  | some value => .joined (String.ofList value)
  | none => .nothing

/-- An option by its full name, alone or before an equals sign. -/
def byFullName? (argument : String) : Option Kind :=
  match Switch.ofName? argument with
  | some s => some (.option s .nothing)
  | none =>
    match Text.cut '=' argument.toList with
    | (name, some value) =>
      (Switch.ofName? (String.ofList name)).map fun s => .option s (.joined (String.ofList value))
    | (_, none) => none

/-- The options that an argument starting with two minus signs is short for, by their names. -/
def abbreviated (argument : String) : List (String × Kind) :=
  let (start, value) := Text.cut '=' argument.toList
  (Switch.byName.filter fun (name, _) => start.isPrefixOf name.toList).map fun (name, s) =>
    (name, .option s (attachmentOf value))

/-- The option whose letter an argument starts with, with the rest attached. -/
def byLetter (argument : String) : List (String × Kind) :=
  let name := String.ofList (argument.toList.take 2)
  match Switch.ofName? name with
  | some s => [(name, .option s (.direct (String.ofList (argument.toList.drop 2))))]
  | none => []

/-- The options that an argument may stand for, when it is not the full name of one. -/
def candidates (argument : String) : List (String × Kind) :=
  if "--".isPrefixOf argument then abbreviated argument else byLetter argument

/-- What an argument is that starts with a minus sign. -/
def classifyOption (argument : String) : Except Problem Kind :=
  match byFullName? argument with
  | some k => .ok k
  | none =>
    if argument.length = 1 then .ok .value
    else
      match candidates argument with
      | [(_, k)] => .ok k
      | [] =>
        .ok (if isNegativeNumber argument || argument.toList.contains ' ' then .value else .unknown)
      | several => .error (.ambiguous argument (several.map (·.1)))

/-- What an argument is, `--` apart. -/
def classify (argument : String) : Except Problem Kind :=
  if argument.toList.head? = some '-' then classifyOption argument else .ok .value

/-- What all arguments are. -/
def classifyAll : List String → Except Problem (List (String × Kind))
  | [] => .ok []
  | a :: as =>
    if a = "--" then .ok ((a, .separator) :: as.map fun a => (a, .value))
    else do
      let k ← classify a
      return (a, k) :: (← classifyAll as)

/-! ### Options -/

/-- What a list of arguments asks for. -/
structure Options where
  prompt : Option String := none
  remote : Bool := false
  expression : Option String := none
  deriving DecidableEq, Repr

/-- Options that have been read, and the arguments that none of them took. -/
structure Progress where
  options : Options := {}
  leftover : List String := []
  deriving DecidableEq, Repr

/-- Why reading stops before the end. -/
inductive Stop where
  | help
  | problem (p : Problem)
  deriving DecidableEq, Repr

/-- The options with a value given to one of them; a value given before is forgotten. -/
def Options.give (o : Options) : Switch → String → Options
  | .prompt, v => { o with prompt := some v }
  | .expression, v => { o with expression := some v }
  | _, _ => o

/-- What an option without value does. -/
def Options.act (o : Options) : Switch → Except Stop Options
  | .help => .error .help
  | .remote => .ok { o with remote := true }
  | _ => .ok o

/-- What may stand directly behind the letter of the request for help: letters of more options.
The last may have its value behind it or, if `followed`, in the next argument. The request is
answered unless one of them is misused. -/
def behindHelp (followed : Bool) : List Char → Stop
  | [] => .help
  | c :: cs =>
    if c = '-' then .problem (.needlessValue .help (String.ofList (c :: cs)))
    else
      match Switch.ofName? (String.ofList ['-', c]), cs with
      | none, _ => .help
      | some s, [] => if s.hasValue && !followed then .problem (.missingValue s) else .help
      | some s, '=' :: value =>
        if s.hasValue then .help else .problem (.needlessValue s (String.ofList value))
      | some s, cs => if s.hasValue then .help else behindHelp followed cs

/-- The next of the arguments is a value. -/
def startsWithValue : List (String × Kind) → Bool
  | (_, .value) :: _ => true
  | _ => false

/-- Reads arguments one after the other. -/
def readAll : Progress → List (String × Kind) → Except Stop Progress
  | p, [] => .ok p
  | p, (_, .option s .nothing) :: rest =>
    if s.hasValue then
      match rest with
      | (a, .value) :: rest => readAll { p with options := p.options.give s a } rest
      | _ => .error (.problem (.missingValue s))
    else do
      let options ← p.options.act s
      readAll { p with options } rest
  | p, (_, .option s (.joined a)) :: rest =>
    if s.hasValue then readAll { p with options := p.options.give s a } rest
    else .error (.problem (.needlessValue s a))
  | p, (_, .option s (.direct a)) :: rest =>
    if s.hasValue then readAll { p with options := p.options.give s a } rest
    else .error (behindHelp (startsWithValue rest) a.toList)
  | p, (a, _) :: rest => readAll { p with leftover := p.leftover ++ [a] } rest

/-- What a list of arguments asks for. -/
def Options.ofArguments (arguments : List String) : Except Stop Options := do
  let kinds ← (classifyAll arguments).mapError .problem
  let p ← readAll {} kinds
  if p.leftover.isEmpty then return p.options
  else .error (.problem (.leftover p.leftover))

end PrefixCalc.CommandLine
