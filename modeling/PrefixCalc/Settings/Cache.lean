import PrefixCalc.Settings.Load

/-!
# The settings of a running program

A running program loads its settings once and keeps them: a later change of the environment shows
only after the kept settings have been cleared. When loading fails, nothing is kept.

## Main definitions

* `Settings.Cache`: the environment and the kept settings.
* `Settings.Cache.get`: the kept settings, loaded if there are none.
-/

namespace PrefixCalc.Settings

/-- The environment of a running program and the settings that it keeps. -/
structure Cache where
  environment : Environment := []
  kept : Option Settings := none

namespace Cache

/-- Gives a value to a variable. -/
def set (c : Cache) (name value : String) : Cache :=
  let environment :=
    if c.environment.any (·.1 == name) then
      c.environment.map fun v => if v.1 == name then (name, value) else v
    else c.environment ++ [(name, value)]
  { c with environment }

/-- Takes a variable out of the environment. -/
def unset (c : Cache) (name : String) : Cache :=
  { c with environment := c.environment.filter (·.1 != name) }

/-- Forgets the kept settings. -/
def clear (c : Cache) : Cache :=
  { c with kept := none }

/-- The kept settings; when there are none, they are loaded and then kept. -/
def get (c : Cache) : Except LoadError Settings × Cache :=
  match c.kept with
  | some s => (.ok s, c)
  | none =>
    match load { environment := c.environment } with
    | .ok s => (.ok s, { c with kept := some s })
    | .error e => (.error e, c)

end Cache

end PrefixCalc.Settings
