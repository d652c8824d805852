/-
Functions that come to a value from values alone: about texts, numbers, times and files.

A mark in a layout says how a value is shown: in what form, in how wide a field, with how many digits.
-/
import ScriptBridge.Shell.Printing
import ScriptBridge.Shell.SigilScript.Operator
import ScriptBridge.Shell.SigilScript.Place

namespace ScriptBridge.Shell.SigilScript

/-! ## Layouts -/

/-- a mark of a layout: the argument that it is for, if it says so, its flags, width, precision and letter -/
structure LayoutMark where
  index : Option Nat
  flags : List Char
  width : Option (Option Nat)
  precision : Option (Option Nat)
  joined : Bool
  letter : Char

/-- takes a number or a star -/
def sizeMark (o : Octets) : Option (Option Nat) × Octets :=
  match o with
  | '*' :: rest => (some none, rest)
  | o =>
    let digits := o.takeWhile Char.isDigit
    if digits.isEmpty then (none, o) else (some (some (digitsIn 10 digits).1), o.drop digits.length)

/-- the mark at the start of a text, after its percent sign -/
def layoutMark? (o : Octets) : Option (LayoutMark × Octets) :=
  let digits := o.takeWhile Char.isDigit
  let (index, o) := match o.drop digits.length with
    | '$' :: rest => if digits.isEmpty then (none, o) else (some (digitsIn 10 digits).1, rest)
    | _ => (none, o)
  let flags := o.takeWhile fun c => "+- 0#".toList.contains c
  let o := o.drop flags.length
  let (joined, o) := match o with
    | 'v' :: rest => (true, rest)
    | o => (false, o)
  let (width, o) := sizeMark o
  let (precision, o) := match o with
    | '.' :: rest =>
      let (p, rest) := sizeMark rest
      (some (p.getD (some 0)), rest)
    | o => (none, o)
  let o := o.dropWhile fun c => "hlqLVzt".toList.contains c
  match o with
  | c :: rest => if "csdiuoxXeEfFgGbBD".toList.contains c then some (⟨index, flags, width, precision, joined, c⟩, rest) else none
  | [] => none

/-- a value in the form that a letter says -/
def laidOut (letter : Char) (c : Conversion) (v : Value) : Work Octets := do
  match letter with
  | 's' => do
    let o ← textOf v
    let o := match c.precision with
      | some p => o.take p
      | none => o
    if c.flags.contains '0' && !c.flags.contains '-' then return List.replicate (c.width - o.length) '0' ++ o else return c.pad o
  | 'c' => return c.pad [Char.ofNat (← sizeOf v)]
  | 'd' | 'i' | 'D' => do
    match ← numberOf v with
    | .real (.infinite n) =>
      return c.pad (if n then "-Inf".toList else if c.flags.contains '+' then "+Inf".toList else "Inf".toList)
    | .real .notANumber => return c.pad "NaN".toList
    | n => do
      let m ← intOf n
      return c.whole 'd' m
  | 'b' | 'B' => do
    let n := wordOf (← intOf v)
    let head : Octets := if c.flags.contains '#' && n != 0 then ['0', letter] else []
    return c.padDigits c.precision.isNone head (c.precise (Nat.toDigits 2 n))
  | 'u' | 'o' | 'x' | 'X' => do
    let n := wordOf (← intOf v)
    return c.whole letter n
  | letter => do
    match ← numberOf v with
    | .real (.infinite n) =>
      return c.pad (if n then "-Inf".toList else if c.flags.contains '+' then "+Inf".toList else "Inf".toList)
    | .real .notANumber => return c.pad "NaN".toList
    | n => return c.real letter (realOf n)

/-- fills in a layout -/
def layout (format : Octets) (args : List Value) : Work Octets := do
  let rec go : Nat → Octets → List Value → List Octets → Work (List Octets)
    | 0, _, _, done => return done
    | fuel + 1, o, left, done =>
      match o with
      | [] => return done
      | '%' :: '%' :: rest => go fuel rest left (['%'] :: done)
      | '%' :: rest =>
        match layoutMark? rest with
        | none => go fuel rest left (['%'] :: done)
        | some (m, rest) => do
          let (width, left) ← sized m.width left
          let (precision, left) ← sized m.precision left
          let flags := match width with
            | some n => if n < 0 then '-' :: m.flags else m.flags
            | none => m.flags
          let precision := match precision with
            | some n => if n < 0 then none else some n.toNat
            | none => none
          let c : Conversion := ⟨flags, (width.map Int.natAbs).getD 0, precision⟩
          let (v, left) := match m.index with
            | some i => ((args[i - 1]?).getD .undefined, left)
            | none => (left.headD .undefined, left.drop 1)
          if m.joined then
            let parts ← (← textOf v).mapM fun d => laidOut m.letter { c with width := 0 } (.int d.toNat)
            go fuel rest left (c.pad (joinWith ['.'] parts) :: done)
          else go fuel rest left ((← laidOut m.letter c v) :: done)
      | o =>
        let plain := o.takeWhile (· != '%')
        go fuel (o.drop plain.length) left (plain :: done)
  return (← go (format.length + 1) format args []).reverse.flatten
where
  /-- a size that may be the next value -/
  sized (m : Option (Option Nat)) (left : List Value) : Work (Option Int × List Value) := do
    match m with
    | none => return (none, left)
    | some (some n) => return (some (n : Int), left)
    | some none => return (some (← intOf (left.headD .undefined)), left.drop 1)

/-! ## Texts -/

/-- where a text is found in another one, from a place on -/
def indexOf (o part : Octets) (start : Nat) : Int :=
  let rec go : Nat → Octets → Nat → Int
    | 0, _, _ => -1
    | fuel + 1, o, i =>
      if part.isPrefixOf o then i else match o with
        | _ :: rest => go fuel rest (i + 1)
        | [] => -1
  if o.length < start then (if part.isEmpty then o.length else -1) else go (o.length + 2) (o.drop start) start

/-- where a text is found last in another one, up to a place -/
def lastIndexOf (o part : Octets) (last : Nat) : Int :=
  let rec go : Nat → Int
    | 0 => if part.isPrefixOf o then 0 else -1
    | i + 1 => if part.isPrefixOf (o.drop (i + 1)) then (i + 1 : Nat) else go i
  go (min last o.length)

/-- where a part of a text begins and ends; negative numbers count from the end -/
def partPlace? (size : Nat) (offset : Int) (length : Option Int) : Option (Nat × Nat) :=
  let start : Int := if offset < 0 then size + offset else offset
  let stop : Int := match length with
    | none => size
    | some n => if n < 0 then size + n else start + n
  if (size : Int) < start || (start < 0 && stop < 0) then none
  else
    let start := start.toNat
    let stop := (min stop size).toNat
    some (start, max start stop)

/-- the number that digits of a base are; a mark in front may say the base -/
def basedNumber (base : Nat) (o : Octets) : Value :=
  let o := o.filter (· != '_')
  match o.dropWhile isGap with
  | '0' :: c :: rest =>
    if c == 'x' || c == 'X' then .int (digitsIn 16 rest).1
    else if c == 'b' || c == 'B' then .int (digitsIn 2 rest).1
    else if (c == 'o' || c == 'O') && base = 8 then .int (digitsIn 8 rest).1
    else .int (digitsIn base (c :: rest)).1
  | c :: rest =>
    if base = 8 && (c == 'x' || c == 'X') then .int (digitsIn 16 rest).1
    else if base = 8 && (c == 'b' || c == 'B') then .int (digitsIn 2 rest).1
    else if base = 16 && (c == 'x' || c == 'X') then .int (digitsIn 16 rest).1
    else .int (digitsIn base (c :: rest)).1
  | [] => .int 0

/-! ## Times -/

/-- the day that is so many days after the first day of 1970: year, month and day -/
def dayAt (days : Int) : Int × Int × Int :=
  let z := days + 719468
  let era := Int.fdiv z 146097
  let doe := z - era * 146097
  let yoe := (doe - doe / 1460 + doe / 36524 - doe / 146096) / 365
  let doy := doe - (365 * yoe + yoe / 4 - yoe / 100)
  let mp := (5 * doy + 2) / 153
  let month := if mp < 10 then mp + 3 else mp - 9
  (yoe + era * 400 + (if month ≤ 2 then 1 else 0), month, doy - (153 * mp + 2) / 5 + 1)

/-- how many days a day is after the first day of 1970 -/
def daysTo (year month day : Int) : Int :=
  let y := if month ≤ 2 then year - 1 else year
  let era := Int.fdiv y 400
  let yoe := y - era * 400
  let doy := (153 * (if 2 < month then month - 3 else month + 9) + 2) / 5 + day - 1
  era * 146097 + (yoe * 365 + yoe / 4 - yoe / 100 + doy) - 719468

/-- the parts of a time: seconds, minutes, hours, day, month, year, day of the week and of the year -/
def timeParts (seconds : Int) : List Int :=
  let days := Int.fdiv seconds 86400
  let left := seconds - days * 86400
  let (year, month, day) := dayAt days
  [left % 60, left / 60 % 60, left / 3600, day, month - 1, year - 1900, (days + 4) % 7, days - daysTo year 1 1, 0]

/-- the names of the days of a week -/
def dayNames : List String := ["Sunday", "Monday", "Tuesday", "Wednesday", "Thursday", "Friday", "Saturday"]

/-- the names of the months -/
def monthNames : List String :=
  ["January", "February", "March", "April", "May", "June", "July", "August", "September", "October", "November", "December"]

/-- a number with zeros in front -/
def withZeros (width : Nat) (n : Int) : Octets :=
  let digits := Nat.toDigits 10 n.natAbs
  (if n < 0 then ['-'] else []) ++ List.replicate (width - digits.length) '0' ++ digits

/-- a time as it is written -/
def timeText (parts : List Int) : Octets :=
  let at_ (i : Nat) : Int := parts.getD i 0
  let name (names : List String) (i : Int) : Octets := ((names.getD i.toNat "").toList).take 3
  let day := number (at_ 3)
  name dayNames (at_ 6) ++ ' ' :: name monthNames (at_ 4) ++ ' ' :: (if day.length < 2 then ' ' :: day else day) ++ ' '
    :: withZeros 2 (at_ 2) ++ ':' :: withZeros 2 (at_ 1) ++ ':' :: withZeros 2 (at_ 0) ++ ' ' :: number (at_ 5 + 1900)

/-- fills in the layout of a time -/
def timeLayout (parts : List Int) : Octets → Octets
  | '%' :: c :: rest =>
    let at_ (i : Nat) : Int := parts.getD i 0
    let shown : Octets := match c with
      | 'Y' => number (at_ 5 + 1900)
      | 'm' => withZeros 2 (at_ 4 + 1)
      | 'd' => withZeros 2 (at_ 3)
      | 'e' => if at_ 3 < 10 then ' ' :: number (at_ 3) else number (at_ 3)
      | 'H' => withZeros 2 (at_ 2)
      | 'I' => withZeros 2 (if at_ 2 % 12 = 0 then 12 else at_ 2 % 12)
      | 'M' => withZeros 2 (at_ 1)
      | 'S' => withZeros 2 (at_ 0)
      | 'y' => withZeros 2 (at_ 5 % 100)
      | 'j' => withZeros 3 (at_ 7 + 1)
      | 'p' => if at_ 2 < 12 then "AM".toList else "PM".toList
      | 'A' => (dayNames.getD (at_ 6).toNat "").toList
      | 'a' => ((dayNames.getD (at_ 6).toNat "").toList).take 3
      | 'B' => (monthNames.getD (at_ 4).toNat "").toList
      | 'b' => ((monthNames.getD (at_ 4).toNat "").toList).take 3
      | 'F' => number (at_ 5 + 1900) ++ '-' :: withZeros 2 (at_ 4 + 1) ++ '-' :: withZeros 2 (at_ 3)
      | 'T' => withZeros 2 (at_ 2) ++ ':' :: withZeros 2 (at_ 1) ++ ':' :: withZeros 2 (at_ 0)
      | 'R' => withZeros 2 (at_ 2) ++ ':' :: withZeros 2 (at_ 1)
      | 'D' => withZeros 2 (at_ 4 + 1) ++ '/' :: withZeros 2 (at_ 3) ++ '/' :: withZeros 2 (at_ 5 % 100)
      | 's' => number (daysTo (at_ 5 + 1900) (at_ 4 + 1) (at_ 3) * 86400 + at_ 2 * 3600 + at_ 1 * 60 + at_ 0)
      | 'Z' => "UTC".toList
      | 'z' => "+0000".toList
      | 'u' => number (if at_ 6 = 0 then 7 else at_ 6)
      | 'w' => number (at_ 6)
      | 'n' => ['\n']
      | 't' => ['\t']
      | '%' => ['%']
      | c => ['%', c]
    shown ++ timeLayout parts rest
  | c :: rest => c :: timeLayout parts rest
  | [] => []

/-- the time that it is -/
def timeNow : Int := 1700000000

/-! ## Files -/

/-- what a letter tells of a file -/
def fileTest (letter : Char) (v : Value) : Work Value := do
  passOnAll
  let files := (← get).files
  match ← fileOf? (match v with
      | .text _ => .undefined
      | v => v) with
  | some (_, a) => do
    match ← fileAt? a with
    | some f =>
      if f.closed then return .undefined
      else match letter with
        | 't' => return .text []
        | 'p' => return truthValue (f.stream.isSome)
        | 'f' => return truthValue (f.stream.isNone)
        | 's' => do
          let rest ← restOf f
          return if rest.isEmpty then .text [] else .int rest.length
        | 'e' | 'r' | 'w' => return .int 1
        | _ => return .text []
    | none => return .undefined
  | none => do
    let o ← textOf v
    let path := pathOf o
    let missing : Work Value := do
      match files.node path with
      | .error e => noteCause e
      | .ok _ => pure ()
      return .undefined
    match files.node path with
    | .error _ =>
      if letter == 'l' then return .text [] else missing
    | .ok node =>
      let size := match files.read path with
        | .ok bytes => bytes.length
        | .error _ => 4096
      match letter with
      | 'e' | 'r' | 'w' | 'o' | 'O' | 'R' | 'W' => return .int 1
      | 'f' => return truthValue (files.isFile path)
      | 'd' => return truthValue node.isFolder
      | 's' => return if size = 0 then .text [] else .int size
      | 'z' => return truthValue (size = 0)
      | 'x' | 'X' => return truthValue (match node with
        | .file _ executable => executable
        | .folder _ => true
        | _ => false)
      | 'l' => return truthValue (match files.locate path false with
        | .ok (.found names) => match files.top.at? names with
          | some (.link _) => true
          | _ => false
        | _ => false)
      | 'M' | 'A' | 'C' => return .int 0
      | _ => return .text []

/-- does something with files, one after the other; gives how often it could be done -/
def countDone (values : List Value) (act : Octets → Work Bool) : Work Value := do
  let mut n := 0
  for v in values do
    if ← act (← textOf v) then n := n + 1
  return .int n

/-! ## By name -/

/-- applies a function that has one value to its arguments; `none` where there is no such function -/
def plainFunction (name : String) (args : List Value) : Option (Work Value) :=
  let first := args.headD .undefined
  let second := args.getD 1 .undefined
  let onText (f : Octets → Octets) : Option (Work Value) := some do return .text (f (← textOf first))
  let onReal (f : Float → Float) : Option (Work Value) := some do
    return .real (.ofFloat (f (realOf (← numberOf first)).toFloat))
  match name with
  | "lc" => onText (recased .lower)
  | "uc" => onText (recased .upper)
  | "fc" => onText (recased .fold)
  | "lcfirst" => onText (recased .firstLower)
  | "ucfirst" => onText (recased .firstUpper)
  | "quotemeta" => onText escaped
  | "length" => some do
    if isDefined first then return .int (← textOf first).length else return .undefined
  | "chr" => some do return .text [Char.ofNat (← sizeOf first)]
  | "ord" => some do return .int (((← textOf first).head?.map Char.toNat).getD 0 : Nat)
  | "int" => some do
    match ← numberOf first with
    | .real x => return match x with
      | .finite _ => settled (.real (if x.truncate.isZero then .zero else x.truncate))
      | x => .real x
    | v => return v
  | "abs" => some do
    match ← numberOf first with
    | .int n => return .int n.natAbs
    | .real x => return .real (if x.isNegative then x.neg else x)
    | v => return v
  | "sqrt" => some do
    let v ← numberOf first
    if (realOf v).isNegative && !(realOf v).isZero then die s!"Can't take sqrt of {String.ofList (← textOf v)}"
    return .real (realOf v).root
  | "log" => some do
    let v ← numberOf first
    if (realOf v).isNegative || (realOf v).isZero then die s!"Can't take log of {String.ofList (← textOf v)}"
    return .real (.ofFloat (Float.log (realOf v).toFloat))
  | "exp" => onReal Float.exp
  | "sin" => onReal Float.sin
  | "cos" => onReal Float.cos
  | "atan2" => some do
    return .real (.ofFloat (Float.atan2 (realOf (← numberOf first)).toFloat (realOf (← numberOf second)).toFloat))
  | "hex" => some do return basedNumber 16 (← textOf first)
  | "oct" => some do return basedNumber 8 (← textOf first)
  | "rand" => some do
    let seed := ((← get).seed * 25214903917 + 11) % 281474976710656
    modify fun w => { w with seed }
    let most := realOf (← numberOf first)
    return .real ((Extended.ofQuotient false seed 281474976710656).mul (if most.isZero then .ofInt 1 else most))
  | "srand" => some do
    let n ← sizeOf first
    modify fun w => { w with seed := n }
    return .int n
  | "index" => some do
    let start : Int ← if args.length ≤ 2 then pure 0 else intOf (args.getD 2 .undefined)
    return .int (indexOf (← textOf first) (← textOf second) start.toNat)
  | "rindex" => some do
    let o ← textOf first
    let last : Int ← if args.length ≤ 2 then pure (o.length : Int) else intOf (args.getD 2 .undefined)
    let part ← textOf second
    if last < 0 then return .int (if part.isEmpty then 0 else -1) else return .int (lastIndexOf o part last.toNat)
  | "substr" => some do
    let o ← textOf first
    let length ← if args.length ≤ 2 then pure none else match args.getD 2 .undefined with
      | .undefined => pure none
      | v => some <$> intOf v
    match partPlace? o.length (← intOf second) length with
    | some (start, stop) => return .text ((o.take stop).drop start)
    | none => return .undefined
  | "sprintf" => some do return .text (← layout (← textOf first) (args.drop 1))
  | "join" => some do return .text (joinWith (← textOf first) (← (args.drop 1).mapM textOf))
  | "time" => some do return .int timeNow
  | "times" => some do return .real .zero
  | "sleep" => some do return .int (← intOf first)
  | "umask" => some do return .int 18
  | "getppid" => some do return .int 1
  | "fork" | "wait" | "waitpid" | "alarm" => some do return .int 0
  | "study" | "lock" => some do return .int 1
  | "unlink" => some (countDone args fun o => do
    let files := (← get).files
    match files.node (pathOf o) with
    | .ok node =>
      if node.isFolder then
        noteCause .isFolder
        return false
      else withFiles (.ok (files.remove (pathOf o)))
    | .error e => do
      noteCause e
      return false)
  | "mkdir" => some do
    let files := (← get).files
    return truthValue (← withFiles (files.makeFolder (pathOf (← textOf first))))
  | "rmdir" => some do
    let files := (← get).files
    let path := pathOf (← textOf first)
    match files.node path with
    | .ok (.folder []) => return truthValue (← withFiles (.ok (files.remove path)))
    | .ok (.folder _) => do
      modify fun w => { w with cause := 39 }
      return .text []
    | .ok _ => do
      noteCause .notFolder
      return .text []
    | .error e => do
      noteCause e
      return .text []
  | "rename" => some do
    passOnAll
    let files := (← get).files
    let from_ := pathOf (← textOf first)
    match files.node from_ with
    | .error e => do
      noteCause e
      return .text []
    | .ok node => return truthValue (← withFiles ((files.remove from_).place (pathOf (← textOf second)) node))
  | "chmod" => some do
    let files := (← get).files
    let mode ← sizeOf first
    countDone (args.drop 1) fun o => do
      match files.node (pathOf o) with
      | .ok (.file content _) => withFiles ((← get).files.place (pathOf o) (.file content (mode &&& 64 != 0)))
      | .ok _ => return true
      | .error e => do
        noteCause e
        return false
  | "chown" | "utime" => some (countDone (args.drop 2) fun o => do
    match (← get).files.node (pathOf o) with
    | .ok _ => return true
    | .error e => do
      noteCause e
      return false)
  | "chdir" => some do
    let files := (← get).files
    let o ← textOf first
    match files.locate (pathOf o) true with
    | .ok (.found names) =>
      if files.isFolder (pathOf o) then do
        modify fun w => { w with files := { files with here := names } }
        return .int 1
      else do
        noteCause .notFolder
        return .text []
    | _ => do
      noteCause .notFound
      return .text []
  | _ => none

end ScriptBridge.Shell.SigilScript
