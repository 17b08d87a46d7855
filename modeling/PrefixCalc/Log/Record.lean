import PrefixCalc.Json.Basic

/-!
# Log records

An entry is what a call hands to the log; a record is an entry that was kept, with the id of the
request that it belongs to. Entries below a log's level are dropped.

## Main definitions

* `Log.Level`: the levels.
* `Log.Entry`, `Log.Record`: entries and records.
* `Log.keep`: the records of the entries that a level lets through.
-/

namespace PrefixCalc.Log

/-- The level of an entry. -/
inductive Level where
  | debug
  | info
  | warning
  | error
  | critical
  deriving DecidableEq, Repr

namespace Level

/-- The rank of a level. -/
def rank : Level → Nat
  | .debug => 10
  | .info => 20
  | .warning => 30
  | .error => 40
  | .critical => 50

/-- The name of a level. -/
def name : Level → String
  | .debug => "DEBUG"
  | .info => "INFO"
  | .warning => "WARNING"
  | .error => "ERROR"
  | .critical => "CRITICAL"

/-- All levels, the least first. -/
def all : List Level :=
  [.debug, .info, .warning, .error, .critical]

/-- The level with a name; two levels have a second name. -/
def ofName? : String → Option Level
  | "WARN" => some .warning
  | "FATAL" => some .critical
  | s => all.find? (·.name == s)

end Level

/-- The least rank that a log keeps. -/
abbrev Threshold := Nat

/-- The threshold with a name: a level's, or the one that keeps everything. -/
def threshold? : String → Option Threshold
  | "NOTSET" => some 0
  | s => (Level.ofName? s).map Level.rank

/-- What a call hands to the log. -/
structure Entry where
  level : Level
  logger : String
  message : String
  /-- Further fields. -/
  extra : List (String × Json) := []

/-- An entry that was kept. -/
structure Record extends Entry where
  /-- The id of the request. -/
  requestId : Option String

/-- What stands in a record for the id when there is no request. -/
def noRequest : String := "-"

/-- The id that a record shows; an empty one counts as none. -/
def shownId : Option String → String
  | some id => if id.isEmpty then noRequest else id
  | none => noRequest

/-- The fields of a record. The id of the request stands last, over any field of its name. -/
def Record.fields (r : Record) : List (String × Json) :=
  Json.put
    ([("levelname", .text r.level.name), ("name", .text r.logger), ("message", .text r.message)]
      ++ r.extra)
    "request_id" (.text (shownId r.requestId))

/-- The records of the entries that a threshold lets through. -/
def keep (threshold : Threshold) (requestId : Option String) (entries : List Entry) : List Record :=
  (entries.filter fun e => threshold ≤ e.level.rank).map fun e => { e with requestId }

end PrefixCalc.Log
