/-
JSON values. A number is a whole number of 64 bits or a double; which of the two it is shows in what is printed and in
which settings accept it, so the two are kept apart.

An object keeps one value for each key; printing sorts the keys.
-/
import ScriptBridge.Number.Double

namespace ScriptBridge

/-- a JSON number -/
inductive JsonNumber where
  | int (n : Int)
  | double (d : Double)
deriving DecidableEq, Repr, Inhabited

/-- a JSON value -/
inductive Json where
  | null
  | bool (b : Bool)
  | number (n : JsonNumber)
  | string (s : String)
  | array (items : List Json)
  | object (fields : List (String × Json))
deriving Repr, Inhabited

namespace Json

/-- a natural number as a value -/
def nat (n : Nat) : Json := .number (.int n)

/-- puts a field into an object's fields, in place of an earlier one of the same key -/
def putField (key : String) (value : Json) : List (String × Json) → List (String × Json)
  | [] => [(key, value)]
  | (k, v) :: rest => if k = key then (key, value) :: rest else (k, v) :: putField key value rest

/-- the value of a key in an object -/
def field? (key : String) : Json → Option Json
  | .object fields => fields.lookup key
  | _ => none

/-- the truth value that a value is -/
def bool? : Json → Option Bool
  | .bool b => some b
  | _ => none

/-- the string that a value is -/
def string? : Json → Option String
  | .string s => some s
  | _ => none

/-- the items of an array -/
def array? : Json → Option (List Json)
  | .array items => some items
  | _ => none

/-- the whole number that a value is written as; a double is not one, whatever its value -/
def int? : Json → Option Int
  | .number (.int n) => some n
  | _ => none

end Json

/-- the natural number that a JSON number is equal to, whether it is written as an integer or as a double -/
def JsonNumber.toNat? : JsonNumber → Option Nat
  | .int n => if 0 ≤ n then some n.toNat else none
  | .double d => d.toNat?

end ScriptBridge
