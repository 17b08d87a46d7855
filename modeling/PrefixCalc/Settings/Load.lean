import PrefixCalc.Field
import PrefixCalc.Json.Text
import PrefixCalc.Settings.Basic
import PrefixCalc.Settings.VariableFile

/-!
# Loading settings

A setting is taken from the first source that gives it: the caller, the environment, a file, and
last its default. Variables are matched with settings without regard to case, and of several that
match one setting the last counts. All values are then checked together.

## Main definitions

* `Settings.Sources`: where settings may come from.
* `Settings.load`: the settings that the sources give.
* `Settings.LoadError`: why there are none.
-/

namespace PrefixCalc.Settings

/-- The variables of the environment, in order. -/
abbrev Environment := List (String × String)

/-- Where settings may come from. -/
structure Sources where
  /-- What the caller gives, by name. -/
  given : List (String × Json) := []
  environment : Environment := []
  /-- The text of a file of variables. -/
  file : Option String := none

/-- A source of texts. -/
inductive TextSource where
  | environment
  | file
  deriving DecidableEq, Repr

/-- The name of a source of texts in messages. -/
def TextSource.name : TextSource → String
  | .environment => "EnvSettingsSource"
  | .file => "DotEnvSettingsSource"

/-- Why there are no settings. -/
inductive LoadError where
  /-- A source holds a text that should be JSON and is not. -/
  | unreadable (setting : Setting) (source : TextSource)
  /-- A source holds a text whose value is nested too deep. -/
  | tooDeep (setting : Setting) (source : TextSource)
  /-- Values were refused. -/
  | refused (issues : List Field.Issue)
  deriving DecidableEq, Repr

/-- The wording of an unreadable text. -/
def unreadableMessage (setting : Setting) (source : TextSource) : String :=
  "error parsing value for field \"" ++ setting.name ++ "\" from source \"" ++ source.name ++ "\""

/-! ### Values of the sources -/

/-- The value that the caller gives; the first name of a setting goes before the second. -/
def given? (members : List (String × Json)) (s : Setting) : Option Json :=
  (Json.member? members s.name).or (s.secondName?.bind (Json.member? members))

/-- A variable by its exact name. -/
def lastNamed? (environment : Environment) (name : String) : Option String :=
  environment.reverse.lookup name

/-- The text that the environment gives. -/
def fromEnvironment? (environment : Environment) (s : Setting) : Option String :=
  (environment.reverse.find? fun v => Text.toLower v.1 == Text.toLower s.name).map (·.2)

/-- The text that a file gives. -/
def fromFile? (bindings : List VariableFile.Binding) (s : Setting) : Option String :=
  (bindings.reverse.find? fun b => Text.toLower b.name == Text.toLower s.name).bind (·.value)

/-- A text from a source as the value of a setting. A structured setting is JSON, and null then
counts as not given. -/
def decode (s : Setting) (source : TextSource) (t : Option String) :
    Except LoadError (Option Json) :=
  match t with
  | none => .ok none
  | some t =>
    if s.isStructured then
      match Json.read t with
      | .error .malformed => .error (.unreadable s source)
      | .error .tooDeep => .error (.tooDeep s source)
      | .ok .null => .ok none
      | .ok j => .ok (some j)
    else .ok (some (.text t))

/-- The values of all settings that a source gives; every text is read, also one that no setting
will be taken from. -/
def decodeAll (source : TextSource) (text? : Setting → Option String) :
    Except LoadError (List (Setting × Json)) :=
  Setting.all.foldlM (fun done s => do
    match ← decode s source (text? s) with
    | some j => return (s, j) :: done
    | none => return done) []

/-- The values that the sources give. -/
def collect (sources : Sources) : Except LoadError (Setting → Option Json) := do
  let environment ← decodeAll .environment (fromEnvironment? sources.environment)
  let bindings := (sources.file.map (VariableFile.read (lastNamed? sources.environment))).getD []
  let file ← decodeAll .file (fromFile? bindings)
  return fun s => (given? sources.given s).or ((environment.lookup s).or (file.lookup s))

/-! ### Checking -/

/-- A setting as a field takes its value, or its default. -/
def checked {α : Type} (values : Setting → Option Json) (s : Setting)
    (field : Json → Field.Checked α) (default : α) : Field.Checked α :=
  match values s with
  | some j => .within s.name (field j)
  | none => .ok default

/-- The settings with the given values. -/
def check (values : Setting → Option Json) : Field.Checked Settings :=
  let standard : Settings := {}
  .apply (.apply (.apply (.apply (.apply (.apply (.apply
    ((checked values .apiTitle Field.text standard.apiTitle).map Settings.mk)
    (checked values .apiVersion Field.text standard.apiVersion))
    (checked values .maxExpressionLength Field.integer standard.maxExpressionLength))
    (checked values .replPrompt Field.text standard.replPrompt))
    (checked values .remoteUrl (Field.optional Field.text) standard.remoteUrl))
    (checked values .remoteTimeout Field.real standard.remoteTimeout))
    (checked values .corsOrigins Field.texts standard.corsOrigins))
    (checked values .frontendOrigin (Field.optional Field.text) standard.frontendOrigin)

/-- The settings that the sources give. -/
def load (sources : Sources) : Except LoadError Settings := do
  let values ← collect sources
  (check values).mapError .refused

end PrefixCalc.Settings
