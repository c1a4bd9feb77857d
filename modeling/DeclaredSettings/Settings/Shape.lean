import DeclaredSettings.Settings
import DeclaredSettings.Text.Shown

/-!
Reading settings into data of a given shape. The entries are gone through in the order of
their names, and the first that does not fit is reported. Settings are such data too, and can
be read from any mapping.
-/

namespace DeclaredSettings

/-- What a single value should be. -/
inductive Shape where
  | byte
  | integer
  | float
  | string
  | boolean
  | optional (shape : Shape)
  deriving DecidableEq, Repr

/-- Why settings do not fit. -/
inductive Misfit where
  /-- A value of another type. -/
  | type (found : Value) (wanted : String)
  /-- A number out of range. -/
  | range (found : Int) (wanted : String)
  /-- A field without an entry. -/
  | missing (field : String)

namespace Misfit

/-- How a value that does not fit is described. -/
def described : Value → String
  | .null => "null"
  | .bool b => "boolean `" ++ (if b then "true" else "false") ++ "`"
  | .int n => "integer `" ++ String.ofList (Decimal.intChars n) ++ "`"
  | .float x => "floating point `" ++ (Value.float x).text ++ "`"
  | .str s => "string " ++ Text.shown s
  | .arr _ => "sequence"
  | .obj _ => "map"

/-- The report of a misfit. -/
def message : Misfit → String
  | type found wanted => "invalid type: " ++ described found ++ ", expected " ++ wanted
  | range found wanted =>
    "invalid value: " ++ described (.int found) ++ ", expected " ++ wanted
  | missing field => "missing field `" ++ field ++ "`"

end Misfit

namespace Shape

/-- The name of a shape in reports. -/
def name : Shape → String
  | byte => "u8"
  | integer => "i64"
  | float => "f64"
  | string => "a string"
  | boolean => "a boolean"
  | optional shape => shape.name

/-- A whole number within limits. -/
def within (least greatest : Int) (wanted : String) : Value → Except Misfit Value
  | .int n =>
    if least ≤ n && n ≤ greatest then .ok (.int n) else .error (.range n wanted)
  | v => .error (.type v wanted)

/-- A whole number as a floating-point number. -/
def floatOf : Int → Float
  | .ofNat n => n.toFloat
  | .negSucc n => -(n + 1).toFloat

/-- Reads one value. A floating-point number is never taken for a whole one, but a whole
number is taken for a floating-point one; null is an optional value that is not there.
-/
def read : Shape → Value → Except Misfit Value
  | byte, v => within 0 255 byte.name v
  | integer, v => within (-9223372036854775808) 9223372036854775807 integer.name v
  | float, .int n => .ok (.float (floatOf n))
  | float, .float x => .ok (.float x)
  | string, .str s => .ok (.str s)
  | boolean, .bool b => .ok (.bool b)
  | optional _, .null => .ok .null
  | optional shape, v => shape.read v
  | shape, v => .error (.type v shape.name)

end Shape

/-- Reads settings as data: any mapping can be read, and they are made of this. -/
def Settings.deserialize (v : Value) : Except Misfit Settings :=
  match v.toMapping? with
  | some m => .ok (.ofMapping m)
  | none => .error (.type v "a map")

/-- What the whole of some settings should be. -/
inductive View where
  /-- Named fields, in order; other entries are passed over. -/
  | record (fields : List (String × Shape))
  /-- A list, which settings never are. -/
  | sequence
  /-- Any names, all values of one shape. -/
  | mapOf (shape : Shape)
  /-- Settings again. -/
  | settings
  /-- Any value. -/
  | anything
  deriving DecidableEq, Repr

namespace View

/-- Reads the entries that belong to fields. -/
def readFields (fields : List (String × Shape))
    : List (String × Value) → Except Misfit (List (String × Value))
  | [] => .ok []
  | (key, value) :: entries =>
    match Entries.lookup key fields with
    | none => readFields fields entries
    | some shape => do
      let first ← shape.read value
      let others ← readFields fields entries
      return (key, first) :: others

/-- Supplies the fields without an entry: null for an optional one. -/
def complete (found : List (String × Value))
    : List (String × Shape) → Except Misfit (List (String × Value))
  | [] => .ok []
  | (field, shape) :: fields => do
    let first ←
      match Entries.lookup field found, shape with
      | some value, _ => .ok value
      | none, .optional _ => .ok .null
      | none, _ => .error (.missing field)
    let others ← complete found fields
    return (field, first) :: others

/-- Reads settings as the view asks. -/
def read (view : View) (s : Settings) : Except Misfit Value :=
  match view with
  | record fields => do
    let found ← readFields fields s.entries
    let values ← complete found fields
    return .ofEntries values
  | sequence => .error (.type s.toValue "a sequence")
  | mapOf shape => do
    let entries ← s.entries.mapM fun e => do return (e.1, ← shape.read e.2)
    return .obj entries
  | settings => do
    let read ← Settings.deserialize s.toValue
    return read.toValue
  | anything => .ok s.toValue

end View

end DeclaredSettings
