import PrefixCalc.Json.Basic

/-!
# The configuration of the log

One handler writes every record as JSON, with the id of the request. The named loggers and the
root all have the same level and this one handler.

## Main definitions

* `Log.configuration`: the configuration for a level.
-/

namespace PrefixCalc.Log

/-- The loggers that have a configuration of their own. -/
def namedLoggers : List String :=
  ["uvicorn", "uvicorn.error", "uvicorn.access", "lispy"]

/-- The filter that adds the id of the request to a record. -/
def requestFilter : String := "request_context"

/-- The parts of a record that is written. -/
def recordFormat : String :=
  "%(asctime)s %(levelname)s %(name)s %(message)s %(request_id)s"

/-- How a time is written. -/
def dateFormat : String :=
  "%Y-%m-%dT%H:%M:%S%z"

/-- The formatter, the filter and the handler. -/
def components : List (String × Json) := [
  ("filters", .object [(requestFilter, .object [("()", .text "RequestContextFilter")])]),
  ("formatters", .object [("json", .object [
    ("()", .text "JsonFormatter"), ("fmt", .text recordFormat), ("datefmt", .text dateFormat)])]),
  ("handlers", .object [("default", .object [
    ("class", .text "logging.StreamHandler"), ("formatter", .text "json"),
    ("filters", .array [.text requestFilter])])])]

/-- The handler and the level of a logger. -/
def loggerFields (level : String) : List (String × Json) :=
  [("handlers", .array [.text "default"]), ("level", .text level)]

/-- The configuration for a level. -/
def configuration (level : String) : Json :=
  .object ([("version", .int 1), ("disable_existing_loggers", .bool false)] ++ components ++ [
    ("loggers", .object (namedLoggers.map fun name =>
      (name, .object (loggerFields level ++ [("propagate", .bool false)])))),
    ("root", .object (loggerFields level))])

end PrefixCalc.Log
