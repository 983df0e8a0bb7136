import Rovs.Bytes

/-!
# JSON values

The values of JSON-RPC messages.  An object is the list of its members in the order of
an iteration; a parsed or built object has distinct keys.
-/

namespace Rovs.Json

inductive Number where
  | int (n : Int)
  | float (bits : U64)
deriving DecidableEq, Repr

inductive Value where
  | null
  | bool (b : Bool)
  | number (n : Number)
  | string (s : String)
  | array (elements : List Value)
  | object (members : List (String × Value))

namespace Value

def isNull : Value → Bool
  | null => true
  | _ => false

def asStr : Value → Option String
  | string s => some s
  | _ => none

def asArray : Value → Option (List Value)
  | array elements => some elements
  | _ => none

def asObject : Value → Option (List (String × Value))
  | object members => some members
  | _ => none

/-- The member of an object with the given key; other values have no members. -/
def get (key : String) : Value → Option Value
  | object members => members.lookup key
  | _ => none

theorem asStr_eq_some {v : Value} {s : String} : v.asStr = some s ↔ v = string s := by
  cases v <;> simp [asStr]

theorem asArray_eq_some {v : Value} {elements : List Value} :
    v.asArray = some elements ↔ v = array elements := by
  cases v <;> simp [asArray]

end Value

end Rovs.Json
