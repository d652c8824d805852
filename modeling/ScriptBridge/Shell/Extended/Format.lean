/-
What the builtins `echo` and `printf` of the extended shell print. A format is used again while arguments are left, and
an argument that is missing counts as empty. An argument that is no number is complained of, and what could be read of
it is printed; a conversion that is unknown ends the output.
-/
import ScriptBridge.Shell.Extended.Quoting
import ScriptBridge.Shell.Extended.Source
import ScriptBridge.Shell.Printing

namespace ScriptBridge.Shell.Extended

/-- the text of an escape, after the backslash; `zero` says that octal codes begin with a zero. `none` stands for an
escape that ends the output. -/
def printedEscape (zero : Bool) (o : Octets) : Option (Octets × Octets) :=
  match o with
  | 'c' :: rest => if zero then none else some (['\\', 'c'], rest)
  | '\'' :: rest => some (if zero then ['\\', '\''] else ['\''], rest)
  | '"' :: rest => some (if zero then ['\\', '"'] else ['"'], rest)
  | '?' :: rest => some (if zero then ['\\', '?'] else ['?'], rest)
  | '0' :: rest =>
    if zero then
      let (c, rest) := octalEscape rest
      some ([c], rest)
    else
      let (c, rest) := octalEscape ('0' :: rest)
      some ([c], rest)
  | c :: rest =>
    if zero && '1' ≤ c && c ≤ '7' then some (['\\', c], rest)
    else some (ansiEscape (c :: rest))
  | [] => some (['\\'], [])

/-- a text with its escapes replaced; `true` when an escape ended the output. `octal` says that every octal code
counts, as in a conversion of `printf`. -/
def printedText (octal : Bool) : Nat → Octets → Octets × Bool
  | 0, _ => ([], false)
  | _, [] => ([], false)
  | fuel + 1, '\\' :: rest =>
    let found := match rest with
      | c :: _ => if octal && '1' ≤ c && c ≤ '7' then
          let (c, rest) := octalEscape rest
          some ([c], rest)
        else printedEscape true rest
      | [] => some (['\\'], [])
    match found with
    | none => ([], true)
    | some (o, rest) =>
      let (more, stopped) := printedText octal fuel rest
      (o ++ more, stopped)
  | fuel + 1, c :: rest =>
    let (more, stopped) := printedText octal fuel rest
    (c :: more, stopped)

/-- the output of `echo` -/
def echoOutput (args : List Octets) : Octets :=
  let isOption (o : Octets) : Bool := match o with
    | '-' :: letters => !letters.isEmpty && letters.all fun c => "neE".toList.contains c
    | _ => false
  let letters := (args.takeWhile isOption).flatMap (List.drop 1)
  let words := args.dropWhile isOption
  let joined := joinWith [' '] words
  let escapes := (letters.reverse.find? fun c => c == 'e' || c == 'E') == some 'e'
  let (out, stopped) := if escapes then printedText false (joined.length + 1) joined else (joined, false)
  if letters.contains 'n' || stopped then out else out ++ ['\n']

/-- what a format has printed, the pieces last one first, with what was complained of; `bad` says that an argument was
no number, and `stopped` that the output is over -/
structure FormatRun where
  out : List Octets
  complaints : List Octets
  bad : Bool
  stopped : Bool

/-- what is complained of where an argument is no number; a number that is too large is only warned of -/
def numberComplaint (o : Octets) : PrintComplaint → Octets × Bool
  | .tooLarge o => (octets "warning: " ++ o ++ octets ": Numerical result out of range", false)
  | _ =>
    let kind := match o with
      | '0' :: 'x' :: _ => "hex "
      | '0' :: 'X' :: _ => "hex "
      | '0' :: c :: _ => if c.isDigit then "octal " else ""
      | _ => ""
    (o ++ octets (": invalid " ++ kind ++ "number"), true)

/-- one pass over a format, with the arguments that are left -/
def formatPass : Nat → Octets → List Octets → FormatRun → List Octets × FormatRun
  | 0, _, args, r => (args, r)
  | _, [], args, r => (args, r)
  | fuel + 1, '\\' :: rest, args, r =>
    match printedEscape false rest with
    | some (o, rest) => formatPass fuel rest args { r with out := o :: r.out }
    | none => (args, { r with stopped := true })
  | fuel + 1, '%' :: '%' :: rest, args, r => formatPass fuel rest args { r with out := ['%'] :: r.out }
  | fuel + 1, '%' :: spec, args, r =>
    let flags := spec.takeWhile fun c => "-+ #0'".toList.contains c
    let rest := spec.drop flags.length
    let takeCount (rest : Octets) (args : List Octets) : Option Int × Octets × List Octets :=
      match rest with
      | '*' :: rest => (some (wholeArgument true (args.headD [])).1, rest, args.drop 1)
      | rest =>
        let (n, count) := digitsIn 10 rest
        (if count = 0 then none else some n, rest.drop count, args)
    let (width, rest, args) := takeCount rest args
    let (precision, rest, args) := match rest with
      | '.' :: rest =>
        let (n, rest, args) := takeCount rest args
        (some (n.getD 0), rest, args)
      | rest => (none, rest, args)
    let width := width.getD 0
    let conversion : Conversion :=
      { flags := if width < 0 then '-' :: flags else flags
        width := width.natAbs
        precision := precision.bind fun n => if n < 0 then none else some n.toNat }
    let argument := args.headD []
    let go (o : Octets) (rest : Octets) := formatPass fuel rest (args.drop 1) { r with out := o :: r.out }
    let withNumber (o : Octets) (complaint : Option PrintComplaint) (rest : Octets) :=
      match complaint with
      | none => go o rest
      | some c =>
        let (text, bad) := numberComplaint argument c
        formatPass fuel rest (args.drop 1)
          { r with out := o :: r.out, complaints := text :: r.complaints, bad := r.bad || bad }
    let cut (o : Octets) : Octets := match conversion.precision with
      | some n => o.take n
      | none => o
    let rest := rest.dropWhile fun c => "hlLjtz".toList.contains c
    match rest with
    | [] => (args, { r with
        complaints := (octets "\x60%" ++ spec ++ octets "': missing format character") :: r.complaints
        bad := true
        stopped := true })
    | letter :: rest =>
      if letter == 's' then go (conversion.pad (cut argument)) rest
      else if letter == 'c' then go (conversion.pad (argument.take 1)) rest
      else if letter == 'q' then go (conversion.pad (cut (backslashed argument))) rest
      else if letter == 'Q' then go (conversion.pad (backslashed (cut argument))) rest
      else if letter == 'b' then
        let (o, ends) := printedText true (argument.length + 1) argument
        if ends then (args.drop 1, { r with out := conversion.pad (cut o) :: r.out, stopped := true })
        else go (conversion.pad (cut o)) rest
      else if "diouxX".toList.contains letter then
        let (n, complaint) := wholeArgument (letter == 'd' || letter == 'i') argument
        withNumber (conversion.whole letter n) complaint rest
      else if "eEfFgG".toList.contains letter then
        let (x, complaint) := realArgument argument
        withNumber (conversion.real letter x) complaint rest
      else (args, { r with
        complaints := (octets "\x60" ++ letter :: octets "': invalid format character") :: r.complaints
        bad := true
        stopped := true })
  | fuel + 1, c :: rest, args, r =>
    let run := (c :: rest).takeWhile fun c => c != '%' && c != '\\'
    formatPass fuel ((c :: rest).drop run.length) args { r with out := run :: r.out }

/-- what a format prints and complains of, and whether an argument was no number -/
def formatted (format : Octets) (args : List Octets) : Octets × List Octets × Bool :=
  let rec go : Nat → List Octets → FormatRun → FormatRun
    | 0, _, r => r
    | rounds + 1, args, r =>
      let (left, r) := formatPass (format.length + 1) format args r
      if r.stopped || left.isEmpty || left.length == args.length then r else go rounds left r
  let r := go (args.length + 1) args ⟨[], [], false, false⟩
  (r.out.reverse.flatten, r.complaints.reverse, r.bad)

end ScriptBridge.Shell.Extended
