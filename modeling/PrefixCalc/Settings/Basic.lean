import PrefixCalc.Decimal.Real
import PrefixCalc.Text.Blank

/-!
# Settings

The settings of the program, each with its default, and the origins that a browser may call the
web application from.

## Main definitions

* `Settings`: the settings.
* `Setting`: the names of the settings.
* `resolveOrigins`: the allowed origins, without slashes at their ends and without repetitions.
-/

namespace PrefixCalc

/-- The settings of the program. -/
structure Settings where
  apiTitle : String := "Lispy Evaluator API"
  apiVersion : String := "0.0.0.0.1"
  /-- How many characters an expression may have. -/
  maxExpressionLength : Int := 200
  replPrompt : String := "lispy> "
  /-- Where the remote evaluator is. -/
  remoteUrl : Option String := none
  /-- How many seconds the remote evaluator may take. -/
  remoteTimeout : Real64 := Real64.ofInt 5
  corsOrigins : List String := ["http://localhost:5173", "http://127.0.0.1:5173"]
  /-- One more origin. -/
  frontendOrigin : Option String := none
  deriving DecidableEq, Repr

/-- One of the settings. -/
inductive Setting where
  | apiTitle
  | apiVersion
  | maxExpressionLength
  | replPrompt
  | remoteUrl
  | remoteTimeout
  | corsOrigins
  | frontendOrigin
  deriving DecidableEq, Repr

namespace Setting

/-- The name of a setting, as callers give it and as complaints show it. -/
def name : Setting → String
  | .apiTitle => "api_title"
  | .apiVersion => "api_version"
  | .maxExpressionLength => "max_expression_length"
  | .replPrompt => "repl_prompt"
  | .remoteUrl => "eval_http_base_url"
  | .remoteTimeout => "eval_http_timeout_sec"
  | .corsOrigins => "cors_origins"
  | .frontendOrigin => "FRONTEND_ORIGIN"

/-- All settings. -/
def all : List Setting :=
  [.apiTitle, .apiVersion, .maxExpressionLength, .replPrompt, .remoteUrl, .remoteTimeout,
    .corsOrigins, .frontendOrigin]

/-- The second name under which callers may give a setting. -/
def secondName? : Setting → Option String
  | .frontendOrigin => some "frontend_origin"
  | _ => none

/-- The text of a setting is JSON in the environment and in a file. -/
def isStructured : Setting → Bool
  | .corsOrigins => true
  | _ => false

end Setting

/-! ### Origins -/

/-- An origin without the slashes at its end. -/
def stripOrigin (origin : String) : String :=
  Text.trimRight '/' origin

/-- The origins with one more, unless it is empty or, stripped, there already. -/
def addOrigin (resolved : List String) (origin : String) : List String :=
  if origin.isEmpty then resolved
  else
    let stripped := stripOrigin origin
    if stripped ∈ resolved then resolved else resolved ++ [stripped]

/-- The allowed origins: those of a list and then another one, if there is one. -/
def resolveOrigins (origins : List String) (frontend : Option String) : List String :=
  (origins ++ frontend.toList).foldl addOrigin []

namespace Settings

/-- The origins that a browser may call the web application from. -/
def resolvedOrigins (s : Settings) : List String :=
  resolveOrigins s.corsOrigins s.frontendOrigin

end Settings

end PrefixCalc
