import DeclaredSettings.Json.Document
import DeclaredSettings.Settings.Shape
import DeclaredSettings.Toml.Document

/-!
What can go wrong when settings are read from a text or a value, or read out into data.
-/

namespace DeclaredSettings

/-- What a value is called in reports. -/
def Value.kindName : Value → String
  | .null => "null"
  | .bool _ => "a boolean"
  | .int _ => "a number"
  | .float _ => "a number"
  | .str _ => "a string"
  | .arr _ => "an array"
  | .obj _ => "a mapping"

namespace Settings

/-- Why there are no settings, or why they cannot be read out. -/
inductive Error where
  /-- The text is not JSON. -/
  | json (fault : Json.Fault)
  /-- The text is not TOML. -/
  | toml
  /-- The value is no object. -/
  | notAMapping (found : Value)
  /-- The settings do not fit the data. -/
  | misfit (why : Misfit)

/-- The report of an error. -/
def Error.message : Error → String
  | json fault => "invalid JSON settings: " ++ fault.message
  | toml => "invalid TOML settings"
  | notAMapping found => "expected a mapping of settings, found " ++ found.kindName
  | misfit why => "invalid JSON settings: " ++ why.message

/-- The settings that a value holds. -/
def ofValue (v : Value) : Except Error Settings :=
  match v.toMapping? with
  | some m => .ok (ofMapping m)
  | none => .error (.notAMapping v)

/-- The settings of a JSON text. -/
def ofJson (text : String) : Except Error Settings :=
  match Json.document text with
  | .ok v => ofValue v
  | .error fault => .error (.json fault)

/-- The settings of a TOML text. -/
def ofToml (text : String) : Except Error Settings :=
  match Toml.document text with
  | some entries => .ok (ofMapping (.ofList entries))
  | none => .error .toml

/-- Reads settings out into data. -/
def extract (s : Settings) (view : View) : Except Error Value :=
  match view.read s with
  | .ok v => .ok v
  | .error why => .error (.misfit why)

end Settings

end DeclaredSettings
