import ApiAtlas.Settings

/-! # Logging settings

How much is logged and in what form, given by variables of the environment.
-/

namespace ApiAtlas

inductive LogFormat where
  | json
  | pretty
deriving DecidableEq, Repr, Inhabited

namespace LogFormat

/-- The form that a text names, in any letter case; every other text means the readable one. -/
def ofText (text : String) : LogFormat := if Text.lower text = "json" then .json else .pretty

def name : LogFormat → String
  | .json => "json"
  | .pretty => "pretty"

end LogFormat

structure LogSettings where
  level : String := "info"
  format : LogFormat := .pretty
  /-- Further filters, separated by commas. -/
  filter : Option String := none
  includeLocation : Bool := false
deriving DecidableEq, Repr, Inhabited

namespace LogSettings

/-- A flag written out in small letters. -/
def flag? (text : String) : Option Bool :=
  if text = "true" then some true else if text = "false" then some false else none

/-- The settings of an environment; a blank filter counts as none. -/
def ofEnvironment (environment : Environment) : LogSettings :=
  let base : LogSettings := {}
  let get (name : String) := Table.get? name environment
  { level := (get "SPECROUTER_LOG_LEVEL").getD base.level
    format := ((get "SPECROUTER_LOG_FORMAT").map LogFormat.ofText).getD base.format
    filter := (get "SPECROUTER_LOG_FILTER").filter (!Text.isBlank ·)
    includeLocation := ((get "SPECROUTER_LOG_INCLUDE_LOCATION").bind flag?).getD base.includeLocation }

end LogSettings

end ApiAtlas
