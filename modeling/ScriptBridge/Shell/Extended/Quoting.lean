/-
Texts written so that they read as one word of a script again, in the ways in which the extended shell writes them.
Characters that cannot be shown are written as escapes between `$'` and a quote.
-/
import ScriptBridge.Shell.Octets

namespace ScriptBridge.Shell.Extended

/-- whether a character can be shown -/
def isShown (c : Char) : Bool := ' ' ≤ c && c ≤ '~'

/-- a text with escapes, between `$'` and a quote -/
def escapedWord (o : Octets) : Octets :=
  let shown (c : Char) : Octets :=
    let code := Nat.toDigits 8 c.toNat
    match c.toNat with
    | 7 => ['\\', 'a']
    | 8 => ['\\', 'b']
    | 9 => ['\\', 't']
    | 10 => ['\\', 'n']
    | 11 => ['\\', 'v']
    | 12 => ['\\', 'f']
    | 13 => ['\\', 'r']
    | 27 => ['\\', 'E']
    | 39 => ['\\', '\'']
    | 92 => ['\\', '\\']
    | _ => if isShown c then [c] else '\\' :: List.replicate (3 - code.length) '0' ++ code
  octets "$'" ++ o.flatMap shown ++ ['\'']

/-- a text between quotes; a quote in it stands alone after a backslash -/
def betweenQuotes (o : Octets) : Octets :=
  if o == ['\''] then octets "\\'"
  else '\'' :: (o.flatMap fun c => if c == '\'' then octets "'\\''" else [c]) ++ ['\'']

/-- a text between quotes, or with escapes where that is needed -/
def quotedValue (o : Octets) : Octets := if o.all isShown then betweenQuotes o else escapedWord o

/-- a text between double quotes, or with escapes where that is needed -/
def declaredValue (o : Octets) : Octets :=
  if !o.all isShown then escapedWord o
  else '"' :: (o.flatMap fun c => if "\"$\\\x60".toList.contains c then ['\\', c] else [c]) ++ ['"']

/-- whether a word would not be read as it is -/
def hasMeta (o : Octets) : Bool :=
  (o.any fun c => " \t\n'\"\\|&;()<>!\x7b\x7d*[?]^$\x60".toList.contains c)
    || o.head? == some '#' || o.head? == some '~'
    || (o.zip (o.drop 1)).any fun (a, b) => (a == '=' || a == ':') && b == '~'

/-- a word as it is shown before it runs -/
def tracedWord (o : Octets) : Octets :=
  if o.isEmpty then octets "''"
  else if hasMeta o then (if o.all fun c => isShown c || c == '\t' || c == '\n' then betweenQuotes o else escapedWord o)
  else if o.all isShown then o
  else escapedWord o

/-- a value as variables are listed -/
def listedValue (o : Octets) : Octets :=
  if !o.all isShown then escapedWord o else if hasMeta o then betweenQuotes o else o

/-- a text with backslashes before what is special, or with escapes where that is needed -/
def backslashed (o : Octets) : Octets :=
  if o.isEmpty then octets "''"
  else if !o.all isShown then escapedWord o
  else
    let step (before : Option Char) (c : Char) : Octets :=
      let special : Bool := " !\"$&'()*,;<>?[\\]^\x60\x7b|\x7d".toList.contains c
        || (c == '#' && before.isNone)
        || (c == '~' && (before.isNone || before == some '=' || before == some ':'))
      if special then ['\\', c] else [c]
    (o.foldl (fun (acc : Option Char × List Octets) c => (some c, step acc.1 c :: acc.2)) (none, [])).2.reverse.flatten

end ScriptBridge.Shell.Extended
