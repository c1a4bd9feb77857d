import DeclaredSettings.Value.Entries

/-!
Values of settings: the data of a JSON document. Whole numbers and floating-point numbers
are kept apart, and the entries of an object stand in ascending order of their keys.
-/

namespace DeclaredSettings

/-- A value that a setting can hold. -/
inductive Value where
  | null
  | bool (b : Bool)
  | int (n : Int)
  | float (x : Float)
  | str (s : String)
  | arr (items : List Value)
  | obj (entries : List (String × Value))
  deriving Repr, Inhabited

namespace Value

/-- The least whole number that a value holds: the least one of 64 bits with a sign. -/
def minInt : Int := -9223372036854775808

/-- The greatest whole number that a value holds: the greatest one of 64 bits without a
sign.
-/
def maxInt : Int := 18446744073709551615

/-- Whether this is the null value. -/
def isNull : Value → Bool
  | null => true
  | _ => false

/-- A floating-point number as a value. Only finite numbers have one; the others become
null.
-/
def ofFloat (x : Float) : Value :=
  if x.isFinite then float x else null

/-- An object with these entries; of several with one key the last stays. -/
def ofEntries (entries : List (String × Value)) : Value :=
  obj (Entries.insertAll [] entries)

mutual

/-- Equality of values. A whole number never equals a floating-point number, and zero
equals negative zero.
-/
def same : Value → Value → Bool
  | null, null => true
  | bool a, bool b => a == b
  | int a, int b => a == b
  | float a, float b => a == b
  | str a, str b => a == b
  | arr as, arr bs => sameItems as bs
  | obj as, obj bs => sameEntries as bs
  | _, _ => false

/-- Equality of arrays, item by item. -/
def sameItems : List Value → List Value → Bool
  | [], [] => true
  | a :: as, b :: bs => same a b && sameItems as bs
  | _, _ => false

/-- Equality of objects, entry by entry. -/
def sameEntries : List (String × Value) → List (String × Value) → Bool
  | [], [] => true
  | (j, a) :: as, (k, b) :: bs => j == k && same a b && sameEntries as bs
  | _, _ => false

end

instance : BEq Value := ⟨same⟩

end Value

end DeclaredSettings
