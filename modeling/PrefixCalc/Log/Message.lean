import PrefixCalc.Log.Record

/-!
# Writing to the log

A message may have places for arguments. Filling them, and refusing further fields whose names
belong to the record itself, is the work of the log.

## Main definitions

* `Log.fill`: a message with its arguments.
* `Log.Draft`, `Log.Draft.entry?`: what a caller writes, and the entry that it becomes.
-/

namespace PrefixCalc.Log

/-! ### Messages -/

/-- A message with an argument for each `%s`, and `%` for each `%%`; the numbers of places and of
arguments must agree. -/
def fillPlaces : List Char → List String → Option (List Char)
  | '%' :: 's' :: cs, a :: as => (fillPlaces cs as).map (a.toList ++ ·)
  | '%' :: '%' :: cs, as => (fillPlaces cs as).map ('%' :: ·)
  | c :: cs, as => if c = '%' then none else (fillPlaces cs as).map (c :: ·)
  | [], [] => some []
  | [], _ :: _ => none

/-- An object that holds something serves by its members, too, so that it needs no place. -/
def needsPlace : Json → Bool
  | .object members => members.isEmpty
  | .brokenObject members => members.isEmpty
  | _ => true

/-- A message with its arguments; without arguments it has no places. An argument that cannot be
written fills no place. -/
def fill (message : String) (arguments : List Json) : Option String := do
  let texts ← arguments.mapM fun (j : Json) => j.line.toOption
  if texts.isEmpty then some message
  else
    let filled :=
      (fillPlaces message.toList texts).or
        (if arguments.length = 1 ∧ !arguments.all needsPlace then fillPlaces message.toList []
        else none)
    filled.map String.ofList

/-! ### Entries -/

/-- The name of the logger above all others. -/
def rootLogger : String := "root"

/-- The name that a logger goes by. One without a name is the root. -/
def loggerName (name : String) : String :=
  if name.isEmpty then rootLogger else name

/-- The names that belong to the record itself. -/
def reservedNames : List String :=
  ["message", "asctime", "name", "msg", "args", "levelname", "levelno", "pathname", "filename",
    "module", "exc_info", "exc_text", "stack_info", "lineno", "funcName", "created", "msecs",
    "relativeCreated", "thread", "threadName", "processName", "process"]

/-- A further field is private, and not written, when its name starts with an underscore. -/
def isPrivate (name : String) : Bool :=
  name.toList.head? == some '_'

/-- What a caller writes to the log. -/
structure Draft where
  level : Level
  logger : String
  message : String
  arguments : List Json := []
  extra : List (String × Json) := []

/-- A further field has a name that belongs to the record itself. -/
structure ReservedName where
  name : String

/-- The entry that a draft becomes; one whose message cannot be filled becomes none. -/
def Draft.entry? (d : Draft) : Except ReservedName (Option Entry) :=
  match d.extra.find? fun m => m.1 ∈ reservedNames with
  | some m => .error ⟨m.1⟩
  | none =>
    .ok ((fill d.message d.arguments).map fun filled =>
      { level := d.level, logger := loggerName d.logger, message := filled
        extra := d.extra.filter fun m => !isPrivate m.1 })

/-- The records of a draft at a threshold; a draft that the threshold drops is not looked at. -/
def write (threshold : Threshold) (requestId : Option String) (d : Draft) :
    Except ReservedName (List Record) :=
  if threshold ≤ d.level.rank then
    d.entry?.map fun e => keep threshold requestId e.toList
  else .ok []

end PrefixCalc.Log
