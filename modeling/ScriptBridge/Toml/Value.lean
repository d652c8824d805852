/-
TOML values and their JSON forms. A date or time is kept by its parts; infinities and not-a-number have no JSON form of
their own and become `null`.
-/
import ScriptBridge.Json.Value

namespace ScriptBridge

/-- the day of a date -/
structure TomlDate where
  year : Nat
  month : Nat
  day : Nat
deriving DecidableEq, Repr

/-- a time of day -/
structure TomlTime where
  hour : Nat
  minute : Nat
  second : Nat
  nanosecond : Nat
deriving DecidableEq, Repr

/-- the offset of a time from universal time, in minutes -/
inductive TomlOffset where
  | universal
  | minutes (n : Int)
deriving DecidableEq, Repr

/-- a date, a time, or both; an offset may stand beside a date -/
structure TomlMoment where
  date : Option TomlDate
  time : Option TomlTime
  offset : Option TomlOffset
deriving DecidableEq, Repr

/-- a TOML value -/
inductive Toml where
  | string (s : String)
  | integer (n : Int)
  | float (f : Extended)
  | boolean (b : Bool)
  | moment (m : TomlMoment)
  | array (items : List Toml)
  | table (entries : List (String × Toml))
deriving Repr

/-- a number in decimal, with zeros in front up to a width -/
def padded (width n : Nat) : String :=
  let digits := Nat.toDigits 10 n
  String.ofList (List.replicate (width - digits.length) '0' ++ digits)

namespace TomlMoment

def dateText (d : TomlDate) : String := padded 4 d.year ++ "-" ++ padded 2 d.month ++ "-" ++ padded 2 d.day

/-- the fraction of a second is written without zeros at its end, and not at all when it is zero -/
def timeText (t : TomlTime) : String :=
  let fraction := ((padded 9 t.nanosecond).toList.reverse.dropWhile (· == '0')).reverse
  padded 2 t.hour ++ ":" ++ padded 2 t.minute ++ ":" ++ padded 2 t.second
    ++ (if fraction.isEmpty then "" else "." ++ String.ofList fraction)

def offsetText : TomlOffset → String
  | .universal => "Z"
  | .minutes n =>
    (if n < 0 then "-" else "+") ++ padded 2 (n.natAbs / 60) ++ ":" ++ padded 2 (n.natAbs % 60)

/-- the text of a date, a time or both -/
def text (m : TomlMoment) : String :=
  (m.date.map dateText).getD ""
    ++ (if m.date.isSome && m.time.isSome then "T" else "")
    ++ (m.time.map timeText).getD ""
    ++ (m.offset.map offsetText).getD ""

end TomlMoment

namespace Toml

/-- the key under which a moment stands where a format has no moments -/
def momentKey : String := "$__toml_private_datetime"

mutual

/-- the JSON form of a value -/
def toJson : Toml → Json
  | .string s => .string s
  | .integer n => .number (.int n)
  | .float (.finite d) => .number (.double d)
  | .float _ => .null
  | .boolean b => .bool b
  | .moment m => .object [(momentKey, .string m.text)]
  | .array items => .array (itemsToJson items)
  | .table entries => .object (entriesToJson entries)

def itemsToJson : List Toml → List Json
  | [] => []
  | item :: rest => item.toJson :: itemsToJson rest

def entriesToJson : List (String × Toml) → List (String × Json)
  | [] => []
  | (key, value) :: rest => (key, value.toJson) :: entriesToJson rest

end

end Toml

end ScriptBridge
