/-
What the common utilities share. A utility is called with arguments, an input, files and an environment, and comes to
an exit status, output, complaints, the input that is left and files.

Options are letters after a dash or words after two; they may stand between operands unless a utility says otherwise.
A utility that is given file names reads those in place of its input.
-/
import ScriptBridge.Shell.Names
import ScriptBridge.Shell.Numeral

namespace ScriptBridge.Shell

/-- what is left of an input, and the size of the file that it comes from, if it does -/
structure Stream where
  rest : Octets
  size : Option Nat
deriving Inhabited

/-- a call of a utility -/
structure Call where
  name : Octets
  args : List Octets
  stream : Stream
  files : Files
  environment : List (Octets × Octets)

/-- what running a utility comes to; `lead` is how much of the output came before the complaints, which is all of it
where nothing is said -/
structure UtilityRun where
  status : Nat
  out : Octets
  err : Octets
  lead : Option Nat
  input : Octets
  files : Files

/-- runs a program with its arguments on an input; the cause is given when it cannot be run -/
abbrev Runner := Octets → List Octets → Stream → Files → List (Octets × Octets) → Except FileError UtilityRun

/-- a run that may have ended early -/
abbrev Running (α : Type) := Except UtilityRun α

/-- what a run came to -/
def Running.result : Running UtilityRun → UtilityRun
  | .ok run => run
  | .error run => run

namespace Call

/-- the input that is left -/
def input (c : Call) : Octets := c.stream.rest

/-- a run that neither reads nor writes files -/
def done (c : Call) (status : Nat) (out : Octets) : UtilityRun := ⟨status, out, [], none, c.input, c.files⟩

/-- a complaint of the utility -/
def complaint (c : Call) (message : Octets) : Octets := c.name ++ octets ": " ++ message ++ ['\n']

/-- ends a run with a complaint -/
def refuse {α : Type} (c : Call) (status : Nat) (message : Octets) : Running α :=
  .error { c.done status [] with err := c.complaint message }

/-- where to look when a utility is used wrongly -/
def hint (c : Call) : Octets := octets "Try '" ++ c.name ++ octets " --help' for more information.\n"

/-- a run that was used wrongly, with the name of the utility in front of where to look too -/
def named {α : Type} (c : Call) (r : Running α) : Running α :=
  match r with
  | .ok a => .ok a
  | .error run =>
    let lead := run.err.length - c.hint.length
    .error (if run.err.drop lead == c.hint then
      { run with err := run.err.take lead ++ c.name ++ octets ": " ++ c.hint } else run)

/-- ends a run that is used wrongly; an empty message is left out -/
def misuse {α : Type} (c : Call) (status : Nat) (message : Octets) : Running α :=
  .error { c.done status [] with err := (if message.isEmpty then [] else c.complaint message) ++ c.hint }

/-- the operands, of which there has to be one -/
def needOperand {α : Type} (c : Call) (operands : List α) (what : String) : Running Unit :=
  if operands.isEmpty then c.misuse 1 (octets ("missing " ++ what)) else pure ()

end Call

/-! ## Options -/

/-- the options that a utility knows: letters, letters with a value, and the letters that words stand for; `wrong` is
the status of a call with another one, `leading` says that options end at the first operand, and `optional` are the
letters whose words may have a value -/
structure Known where
  flags : String
  valued : String
  words : List (String × Char)
  wrong : Nat
  leading : Bool
  optional : String := ""

/-- options of one letter, with values where they have them -/
structure Options where
  given : List (Char × Octets)

namespace Options

/-- whether a letter was given -/
def has (o : Options) (c : Char) : Bool := o.given.any fun g => g.1 == c

/-- the last value that a letter was given -/
def value? (o : Options) (c : Char) : Option Octets := (o.given.reverse.find? fun g => g.1 == c).map Prod.snd

/-- all values that a letter was given -/
def values (o : Options) (c : Char) : List Octets := o.given.filterMap fun g => if g.1 == c then some g.2 else none

/-- the last one of some letters that was given -/
def last? (o : Options) (letters : String) : Option Char :=
  (o.given.reverse.find? fun g => letters.toList.contains g.1).map Prod.fst

end Options

namespace Call

/-- takes the options out of arguments -/
def takeOptions (c : Call) (k : Known) : Nat → List Octets → Running (List (Char × Octets) × List Octets)
  | 0, args => .ok ([], args)
  | _, [] => .ok ([], [])
  | fuel + 1, arg :: rest =>
    let onward (found : Char × Octets) (rest : List Octets) : Running (List (Char × Octets) × List Octets) := do
      let (more, rest) ← c.takeOptions k fuel rest
      return (found :: more, rest)
    match arg with
    | ['-', '-'] => .ok ([], rest)
    | '-' :: '-' :: word =>
      let name := word.takeWhile (· != '=')
      let given := word.drop name.length
      let meant := k.words.filter fun w => name.isPrefixOf (octets w.1)
      match (k.words.find? fun w => octets w.1 == name).orElse fun _ =>
          match meant with
          | w :: others => if others.all fun other => other.2 == w.2 then some w else none
          | [] => none with
      | none =>
        if meant.isEmpty then c.misuse k.wrong (octets "unrecognized option '" ++ arg ++ octets "'")
        else c.misuse k.wrong (octets "option '" ++ arg ++ octets "' is ambiguous; possibilities:"
          ++ meant.flatMap fun w => octets (" '--" ++ w.1 ++ "'"))
      | some (long, letter) =>
        if k.optional.toList.contains letter then onward (letter, given.drop 1) rest
        else if !k.valued.toList.contains letter then
          if given.isEmpty then onward (letter, []) rest
          else c.misuse k.wrong (octets ("option '--" ++ long ++ "' doesn't allow an argument"))
        else if !given.isEmpty then onward (letter, given.drop 1) rest
        else match rest with
          | value :: rest => onward (letter, value) rest
          | [] => c.misuse k.wrong (octets ("option '--" ++ long ++ "' requires an argument"))
    | '-' :: letter :: more =>
      if k.valued.toList.contains letter then
        if !more.isEmpty then onward (letter, more) rest
        else match rest with
          | value :: rest => onward (letter, value) rest
          | [] => c.misuse k.wrong (octets "option requires an argument -- '" ++ letter :: ['\''])
      else if k.flags.toList.contains letter then
        onward (letter, []) (if more.isEmpty then rest else ('-' :: more) :: rest)
      else c.misuse k.wrong (octets "invalid option -- '" ++ letter :: ['\''])
    | _ =>
      if k.leading then .ok ([], arg :: rest)
      else do
        let (found, operands) ← c.takeOptions k fuel rest
        return (found, arg :: operands)

/-- the options and the operands of a call -/
def parse (c : Call) (k : Known) : Running (Options × List Octets) := do
  let (given, operands) ← c.takeOptions k (c.args.foldl (fun n arg => n + arg.length + 1) 1) c.args
  return (⟨given⟩, operands)

end Call

/-! ## Reading files -/

/-- how a utility words that it cannot use a file -/
abbrev FileComplaint := Octets → FileError → Octets

/-- a name and the cause -/
def plainComplaint : FileComplaint := fun name e => name ++ octets ": " ++ briefCause e

/-- a complaint that tells files from folders, each with the words around the name -/
def openComplaint (before after folderBefore folderAfter : String) : FileComplaint := fun name e =>
  if e == .isFolder then octets folderBefore ++ name ++ octets folderAfter ++ briefCause e
  else octets before ++ name ++ octets after ++ briefCause e

/-- what was read: names with contents, how many of them came before the first complaint, the complaints, and the
input that is left -/
structure Gathered where
  parts : List (Octets × Octets)
  sound : Option Nat
  err : Octets
  failed : Bool
  input : Octets

namespace Gathered

/-- everything that was read -/
def whole (g : Gathered) : Octets := g.parts.flatMap Prod.snd

/-- how long the output is that came before the first complaint, for an output of the parts that were read -/
def leadOf (g : Gathered) (output : List (Octets × Octets) → Octets) : Option Nat :=
  g.sound.map fun n => (output (g.parts.take n)).length

end Gathered

/-- whether a name stands for the input -/
def namesInput (o : Octets) : Bool :=
  o == ['-'] || ["/dev/stdin", "/dev/fd/0", "/proc/self/fd/0"].contains (String.ofList o)

namespace Call

/-- reads a file by its name -/
def readFile (c : Call) (name : Octets) : Except FileError Octets := (c.files.read (pathOf name)).map ofBytes

/-- reads the named files, or the input when none is named. A folder is complained about; with `opens` it counts as an
empty file all the same. -/
def gatherFrom (c : Call) (opens : Bool) (names : List Octets) (complaint : FileComplaint) : Gathered :=
  let g := (if names.isEmpty then [['-']] else names).foldl (fun (g : Gathered) name =>
    if namesInput name then { g with parts := (name, g.input) :: g.parts, input := [] }
    else match c.readFile name with
      | .ok o => { g with parts := (name, o) :: g.parts }
      | .error e =>
        let parts := if opens && e == .isFolder then (name, []) :: g.parts else g.parts
        { g with
          parts
          sound := g.sound.orElse fun _ => some parts.length
          err := g.err ++ c.complaint (complaint name e)
          failed := true })
    ⟨[], none, [], false, c.input⟩
  { g with parts := g.parts.reverse }

/-- reads the named files, or the input when none is named -/
def gather (c : Call) (names : List Octets) (complaint : FileComplaint) : Gathered := c.gatherFrom false names complaint

/-- ends a run that has read files; `wrong` is the status when one of them could not be read -/
def finish (c : Call) (g : Gathered) (wrong : Nat) (out : Octets) : UtilityRun :=
  ⟨if g.failed then wrong else 0, out, g.err, none, g.input, c.files⟩

/-- a utility that turns what it reads into output -/
def through (c : Call) (names : List Octets) (complaint : FileComplaint) (f : Octets → Octets) : UtilityRun :=
  let g := c.gather names complaint
  { c.finish g 1 (f g.whole) with lead := g.leadOf fun parts => f (parts.flatMap Prod.snd) }

end Call

/-! ## Counts -/

/-- what a letter after a count multiplies it by -/
def multiplier? (o : Octets) : Option Nat :=
  match String.ofList o with
  | "" => some 1
  | "b" => some 512
  | "c" => some 1
  | "w" => some 2
  | "k" | "K" | "KiB" => some 1024
  | "kB" | "KB" => some 1000
  | "M" | "MiB" => some 1048576
  | "MB" => some 1000000
  | "G" | "GiB" => some 1073741824
  | "GB" => some 1000000000
  | _ => none

/-- a count with an optional multiplier -/
def count? (o : Octets) : Option Nat :=
  let (n, length) := digitsIn 10 o
  if length = 0 then none else (multiplier? (o.drop length)).map (n * ·)

/-- whether a text ends with a line feed or is empty -/
def endsLine (o : Octets) : Bool := o.isEmpty || o.getLast? == some '\n'

/-- a text of at least so many characters, blanks in front -/
def padLeft (width : Nat) (o : Octets) : Octets := List.replicate (width - o.length) ' ' ++ o

end ScriptBridge.Shell
