/-
What `echo` and `printf` print. Both know escapes with a backslash; a format of `printf` is used again while arguments
are left, and an argument that is missing counts as empty. An argument that is no number is complained of, and what
could be read of it is printed; a conversion that is unknown ends the output.

The builtin `printf` and the utility read formats in two ways, which `wide` tells apart: the utility also knows codes in
base sixteen, sizes before the letters of conversions, and a conversion that quotes.
-/
import ScriptBridge.Shell.Numeral

namespace ScriptBridge.Shell

/-- a character of three octal digits at most -/
def octalEscape (o : Octets) : Char × Octets :=
  let digits := (o.take 3).takeWhile fun c => '0' ≤ c && c ≤ '7'
  let n := digits.foldl (fun n c => n * 8 + (c.toNat - 48)) 0
  (Char.ofNat (n % 256), o.drop digits.length)

/-- the character of an escape, after the backslash -/
def escapedChar? : Octets → Option (Char × Octets)
  | 'a' :: rest => some (Char.ofNat 7, rest)
  | 'b' :: rest => some (Char.ofNat 8, rest)
  | 'e' :: rest => some (Char.ofNat 27, rest)
  | 'f' :: rest => some (Char.ofNat 12, rest)
  | 'n' :: rest => some ('\n', rest)
  | 'r' :: rest => some ('\r', rest)
  | 't' :: rest => some ('\t', rest)
  | 'v' :: rest => some (Char.ofNat 11, rest)
  | '\\' :: rest => some ('\\', rest)
  | c :: rest => if '0' ≤ c && c ≤ '7' then some (octalEscape (c :: rest)) else none
  | [] => none

/-- a text with its escapes replaced, as `echo` does it; `true` when an escape ended the output -/
def unescape : Nat → Octets → Octets × Bool
  | 0, _ => ([], false)
  | _, [] => ([], false)
  | _, '\\' :: 'c' :: _ => ([], true)
  | fuel + 1, '\\' :: rest =>
    let found := match rest with
      | '0' :: rest => some (octalEscape rest)
      | rest => escapedChar? rest
    match found with
    | some (c, rest) =>
      let (more, stopped) := unescape fuel rest
      (c :: more, stopped)
    | none =>
      let (more, stopped) := unescape fuel rest
      ('\\' :: more, stopped)
  | fuel + 1, c :: rest =>
    let (more, stopped) := unescape fuel rest
    (c :: more, stopped)

/-- the output of `echo` -/
def echoText (args : List Octets) : Octets :=
  let (newline, args) := match args with
    | ['-', 'n'] :: rest => (false, rest)
    | all => (true, all)
  let joined := (List.intersperse [' '] args).flatten
  let (out, stopped) := unescape (joined.length + 1) joined
  if newline && !stopped then out ++ ['\n'] else out

/-- flags, width and precision of a conversion -/
structure Conversion where
  flags : List Char
  width : Nat
  precision : Option Nat

namespace Conversion

/-- puts a text into its field -/
def pad (c : Conversion) (o : Octets) : Octets :=
  let gap := c.width - o.length
  if c.flags.contains '-' then o ++ List.replicate gap ' ' else List.replicate gap ' ' ++ o

/-- puts sign and digits into their field; zeros may fill it -/
def padDigits (c : Conversion) (zeros : Bool) (sign digits : Octets) : Octets :=
  let digits := if zeros && c.flags.contains '0' && !c.flags.contains '-' then
      List.replicate (c.width - sign.length - digits.length) '0' ++ digits
    else digits
  c.pad (sign ++ digits)

/-- the sign of a number that is shown with one -/
def sign (c : Conversion) (negative : Bool) : Octets :=
  if negative then ['-'] else if c.flags.contains '+' then ['+'] else if c.flags.contains ' ' then [' '] else []

/-- digits with zeros in front up to the precision; a zero of precision zero has none -/
def precise (c : Conversion) (digits : Octets) : Octets :=
  match c.precision with
  | some 0 => if digits == ['0'] then [] else digits
  | some p => List.replicate (p - digits.length) '0' ++ digits
  | none => digits

/-- the text of a whole number; the letter says in which form -/
def whole (c : Conversion) (letter : Char) (n : Int) : Octets :=
  let unsigned (base : Nat) : Octets := Nat.toDigits base (n % 18446744073709551616).toNat
  let alternate := c.flags.contains '#' && n != 0
  let put (sign digits : Octets) : Octets := c.padDigits c.precision.isNone sign (c.precise digits)
  match letter with
  | 'x' => put (if alternate then ['0', 'x'] else []) (unsigned 16)
  | 'X' => put (if alternate then ['0', 'X'] else []) ((unsigned 16).map Char.toUpper)
  | 'o' => put (if alternate then ['0'] else []) (unsigned 8)
  | 'u' => put [] (unsigned 10)
  | _ => put (c.sign (n < 0)) (Nat.toDigits 10 n.natAbs)

/-- the text of a real number; the letter says in which form -/
def real (c : Conversion) (letter : Char) (x : Extended) : Octets :=
  let how : Places := match letter.toLower with
    | 'e' => .exponent
    | 'g' => .general
    | _ => .fixed
  let zeros := match x with
    | .finite _ => true
    | _ => false
  c.padDigits zeros (c.sign x.isNegative)
    (x.placesText how (c.precision.getD 6) letter.isUpper (c.flags.contains '#'))

end Conversion

/-- what is wrong with a format or with an argument -/
inductive PrintComplaint where
  | noNumber (o : Octets)
  | partly (o : Octets)
  | tooLarge (o : Octets)
  | unknown (conversion : Octets)
  | unfinished
  | noDigits
  | badCode (code : Octets)
  | unused (o : Octets)

/-- the wording of the builtin -/
def PrintComplaint.brief : PrintComplaint → Octets
  | noNumber o => o ++ octets ": expected numeric value"
  | partly o => o ++ octets ": not completely converted"
  | tooLarge o => o ++ octets ": Numerical result out of range"
  | unknown conversion => conversion ++ octets ": invalid directive"
  | unfinished => octets "missing format character"
  | noDigits => octets "missing digits"
  | badCode code => code
  | unused o => o

/-- the wording of the utility -/
def PrintComplaint.full : PrintComplaint → Octets
  | noNumber o => ['\''] ++ o ++ octets "': expected a numeric value"
  | partly o => ['\''] ++ o ++ octets "': value not completely converted"
  | tooLarge o => ['\''] ++ o ++ octets "': Numerical result out of range"
  | unknown conversion => conversion ++ octets ": invalid conversion specification"
  | unfinished => octets "%: invalid conversion specification"
  | noDigits => octets "missing hexadecimal number in escape"
  | badCode code => octets "invalid universal character name " ++ code
  | unused o => octets "warning: ignoring excess arguments, starting with '" ++ o ++ ['\'']

/-- a number read from an argument, with what is wrong with the argument -/
def withComplaint {α : Type} (o : Octets) (value : α) (rest : Octets) (tooLarge : Bool) : α × Option PrintComplaint :=
  if !rest.isEmpty then (value, some (if rest.length == o.length then .noNumber o else .partly o))
  else (value, if tooLarge then some (.tooLarge o) else none)

/-- the whole number that an argument is. A quote in front gives the code of the character after it. -/
def wholeArgument (signed : Bool) (o : Octets) : Int × Option PrintComplaint :=
  match o with
  | [] => (0, none)
  | '\'' :: rest => (((rest.headD (Char.ofNat 0)).toNat : Int), none)
  | '"' :: rest => (((rest.headD (Char.ofNat 0)).toNat : Int), none)
  | _ =>
    let (n, rest) := wholeNumeral o
    let (n, out) := if signed then bounded leastWord greatestWord n
      else bounded (-18446744073709551615) 18446744073709551615 n
    withComplaint o n rest out

/-- the real number that an argument is -/
def realArgument (o : Octets) : Extended × Option PrintComplaint :=
  match o with
  | [] => (.finite (.zero false), none)
  | '\'' :: rest => (((Double.ofNat (rest.headD (Char.ofNat 0)).toNat).map .finite).getD .notANumber, none)
  | '"' :: rest => (((Double.ofNat (rest.headD (Char.ofNat 0)).toNat).map .finite).getD .notANumber, none)
  | _ =>
    let (x, rest) := realNumeral o
    let tooLarge := match x with
      | .infinite _ => o.any Char.isDigit
      | _ => false
    withComplaint o x rest tooLarge

/-- what a format has printed, the pieces last one first, what was complained of, and whether it is over; `broken` says
that it ended at a conversion that is unknown -/
structure Printed where
  out : List Octets
  complaints : List PrintComplaint
  stopped : Bool
  broken : Bool

/-- what an escape comes to that only the utility knows -/
inductive WideEscape where
  | text (o rest : Octets)
  | stop
  | fault (complaint : PrintComplaint)

/-- the escape after a backslash, if it is one that only the utility knows. Where characters are bytes, a code beyond
ASCII is written as its escape. -/
def wideEscape? (o : Octets) : Option WideEscape :=
  let code (letter : Char) (size : Nat) (rest : Octets) : WideEscape :=
    let (n, length) := digitsIn 16 (rest.take size)
    if length < size then .fault .noDigits
    else
      let digits := Nat.toDigits 16 n
      let shown := '\\' :: letter :: List.replicate (size - digits.length) '0' ++ digits
      if n < 160 && !"$@\x60".toList.contains (Char.ofNat n) || (55296 ≤ n && n < 57344) then .fault (.badCode shown)
      else .text (if n < 128 then [Char.ofNat n] else shown.take 2 ++ (shown.drop 2).map Char.toUpper) (rest.drop size)
  match o with
  | 'c' :: _ => some .stop
  | 'x' :: rest =>
    let (n, length) := digitsIn 16 (rest.take 2)
    some (if length = 0 then .fault .noDigits else .text [Char.ofNat n] (rest.drop length))
  | 'u' :: rest => some (code 'u' 4 rest)
  | 'U' :: rest => some (code 'U' 8 rest)
  | '"' :: rest => some (.text ['"'] rest)
  | _ => none

/-- a text as one word of a shell -/
def asShellWord (o : Octets) : Octets :=
  let isSafe (c : Char) : Bool := c.isAlphanum || "%+,-./:=@_^".toList.contains c
  if !o.isEmpty && o.all isSafe then o
  else if o.contains '\'' && !o.any fun c => "\"$\x60\\!".toList.contains c then '"' :: o ++ ['"']
  else '\'' :: (o.flatMap fun c => if c == '\'' then octets "'\\''" else [c]) ++ ['\'']

/-- one pass over a format, with the arguments that are left -/
def printfPass (wide : Bool) : Nat → Octets → List Octets → Printed → List Octets × Printed
  | 0, _, args, p => (args, p)
  | _, [], args, p => (args, p)
  | fuel + 1, '\\' :: rest, args, p =>
    match (if wide then wideEscape? rest else none) with
    | some (.text o rest) => printfPass wide fuel rest args { p with out := o :: p.out }
    | some .stop => (args, { p with stopped := true })
    | some (.fault complaint) => (args, { p with complaints := complaint :: p.complaints, stopped := true, broken := true })
    | none =>
      match escapedChar? rest with
      | some (c, rest) => printfPass wide fuel rest args { p with out := [c] :: p.out }
      | none => printfPass wide fuel rest args { p with out := ['\\'] :: p.out }
  | fuel + 1, '%' :: '%' :: rest, args, p => printfPass wide fuel rest args { p with out := ['%'] :: p.out }
  | fuel + 1, '%' :: spec, args, p =>
    let flags := spec.takeWhile fun c => "-+ #0".toList.contains c
    let rest := spec.drop flags.length
    let takeCount (rest : Octets) (args : List Octets) : Option Int × Octets × List Octets :=
      match rest with
      | '*' :: rest => (some (wholeArgument true (args.headD [])).1, rest, args.drop 1)
      | rest =>
        let (n, count) := digitsIn 10 rest
        (if count = 0 then none else some n, rest.drop count, args)
    let (width, rest, args) := takeCount rest args
    let (precision, rest, args) := match rest with
      | '.' :: rest =>
        let (n, rest, args) := takeCount rest args
        (some (n.getD 0), rest, args)
      | rest => (none, rest, args)
    let width := width.getD 0
    let conversion : Conversion :=
      { flags := if width < 0 then '-' :: flags else flags
        width := width.natAbs
        precision := precision.bind fun n => if n < 0 then none else some n.toNat }
    let argument := args.headD []
    let go (o : Octets) (complaint : Option PrintComplaint) (rest : Octets) :=
      printfPass wide fuel rest (args.drop 1)
        { p with out := o :: p.out, complaints := complaint.toList ++ p.complaints }
    let cut (o : Octets) : Octets := match conversion.precision with
      | some n => o.take n
      | none => o
    let rest := if wide then rest.dropWhile fun c => "hlLjtz".toList.contains c else rest
    match rest with
    | [] => (args, { p with complaints := .unfinished :: p.complaints, stopped := true, broken := true })
    | letter :: rest =>
      if letter == 's' then go (conversion.pad (cut argument)) none rest
      else if letter == 'c' then go (conversion.pad [argument.headD (Char.ofNat 0)]) none rest
      else if letter == 'q' && wide then go (asShellWord argument) none rest
      else if letter == 'b' then
        let (o, ends) := unescape (argument.length + 1) argument
        if ends then (args.drop 1, { p with out := conversion.pad (cut o) :: p.out, stopped := true })
        else go (conversion.pad (cut o)) none rest
      else if "diouxX".toList.contains letter then
        let (n, complaint) := wholeArgument (letter == 'd' || letter == 'i') argument
        go (conversion.whole letter n) complaint rest
      else if "eEfFgG".toList.contains letter then
        let (x, complaint) := realArgument argument
        go (conversion.real letter x) complaint rest
      else
        let shown := '%' :: spec.take (spec.length - rest.length)
        (args, { p with complaints := .unknown shown :: p.complaints, stopped := true, broken := true })
  | fuel + 1, c :: rest, args, p =>
    let run := (c :: rest).takeWhile fun c => c != '%' && c != '\\'
    printfPass wide fuel ((c :: rest).drop run.length) args { p with out := run :: p.out }

/-- what `printf` prints and complains of, and its exit status -/
def printfText (wide : Bool) (format : Octets) (args : List Octets) : Octets × List PrintComplaint × Nat :=
  let rec go : Nat → List Octets → Printed → Printed
    | 0, _, p => p
    | rounds + 1, args, p =>
      let (left, p) := printfPass wide (format.length + 1) format args p
      if p.stopped || left.isEmpty || left.length == args.length then p else go rounds left p
  let (left, first) := printfPass wide (format.length + 1) format args ⟨[], [], false, false⟩
  let unused := if wide && !first.stopped && left.length == args.length then left.head? else none
  let p := go (args.length + 1) args ⟨[], [], false, false⟩
  (p.out.reverse.flatten, p.complaints.reverse ++ (unused.map .unused).toList,
    if p.broken then 2 else if p.complaints.isEmpty then 0 else 1)

end ScriptBridge.Shell
