import ApiAtlas.CommandLine.Invocation
import ApiAtlas.Conformance
import ApiAtlas.Json.Printer
import ApiAtlas.Model.Rendering
import ApiAtlas.Route.Router

/-! # Running a command

What a command writes and how it ends: with 0, with 1 if documents fail, or with 2 if it cannot start.
-/

namespace ApiAtlas

namespace CommandLine

structure Result where
  exitCode : Nat
  text : String
deriving DecidableEq, Repr, Inhabited

def failure (exitCode : Nat) (text : String) : Result := ⟨exitCode, "❌ " ++ text ++ "\n"⟩

/-- The validators that a command is given. -/
def validators (tree : FileTree) (common : Common) : Except SettingsError (List Validator) :=
  Settings.selected tree { validators := common.validators, rules := common.rules }

def validate (tree : FileTree) (common : Common) : Result :=
  match validators tree common with
  | .error error => failure 2 error.message
  | .ok others =>
    match Conformance.run tree common.path { others } with
    | .error error => failure 2 error.message
    | .ok report => ⟨report.exitCode, Conformance.render report⟩

def padded (width : Nat) (text : String) : String :=
  text ++ String.ofList (List.replicate (width - text.length) ' ')

/-- The name of a model, or a dash. -/
def modelName (model : Option Model.Handle) : String := (model.map (·.name)).getD "-"

def routeLines (schemas strict : Bool) (entry : Route.Entry) : List String :=
  let mark := if entry.handlerSource = .stub then " (stub)" else ""
  let models := entry.request.toList ++ entry.response.toList
  ["   " ++ padded 7 entry.method ++ " " ++ entry.path ++ " -> " ++ entry.name ++ mark,
    "           request: " ++ modelName entry.request ++ ", response "
      ++ toString entry.responseStatus ++ ": " ++ modelName entry.response]
    ++ if schemas then models.map fun model => (model.jsonSchema strict).pretty else []

def routes (tree : FileTree) (common : Common) (schemas strict : Bool) : Result :=
  match validators tree common with
  | .error error => failure 2 error.message
  | .ok others =>
    let router : Router :=
      { specsPath := common.path, chain := { others }, allowStubs := true, strict }
    match ((Router.resolve tree).run.run router).1 with
    | .error error => failure 1 ("[" ++ error.kind ++ "] " ++ error.message)
    | .ok entries =>
      let lines :=
        ("📋 " ++ toString entries.length ++ " route(s)")
          :: entries.flatMap (routeLines schemas strict)
      ⟨0, String.join (lines.map (· ++ "\n"))⟩

def run (tree : FileTree) : Invocation → Result
  | .validate common => validate tree common
  | .routes common schemas strict => routes tree common schemas strict

end CommandLine

end ApiAtlas
