/-
Command lines of the external tool. The tool has two modes: it formats a document given on its standard input, or it
lints one. A command is a program with its arguments, built from one configuration.

The line shown to people has single spaces between its words. A word that is empty or holds a blank or a quote is
written between single quotes, each single quote inside as `'\''`; any other word is written as it is. Nothing is ever
run from that line.
-/
import ScriptBridge.Path
import ScriptBridge.Settings.Configuration

namespace ScriptBridge

/-! ## Shown words -/

namespace Text

/-- whether a word has to be written between quotes -/
def needsQuotes (word : List Char) : Bool :=
  word.isEmpty || word.any fun c => isBlank c || c == '"' || c == '\''

/-- each single quote closes the quotation, is written by itself and opens the quotation again -/
def escapeQuotes : List Char → List Char
  | [] => []
  | c :: rest => if c = '\'' then '\'' :: '\\' :: '\'' :: '\'' :: escapeQuotes rest else c :: escapeQuotes rest

/-- the written form of a word -/
def quoteWord (word : List Char) : List Char :=
  if needsQuotes word then '\'' :: (escapeQuotes word ++ ['\'']) else word

/-- the written form of a list of words -/
def quoteWords : List (List Char) → List Char
  | [] => []
  | [word] => quoteWord word
  | word :: more => quoteWord word ++ ' ' :: quoteWords more

end Text

/-! ## Commands -/

/-- what the external tool is asked to do -/
inductive Mode where
  | format
  | lint
deriving DecidableEq, Repr, Inhabited

/-- the word for a mode -/
def Mode.word : Mode → String
  | .format => "format"
  | .lint => "lint"

/-- whether an exit code means success; a linter that found something exits with 1 -/
def Mode.accepts (m : Mode) (exitCode : Int) : Bool :=
  exitCode == 0 || (m == .lint && exitCode == 1)

/-- a program with its arguments -/
structure Command where
  program : String
  args : List String
  mode : Mode
deriving DecidableEq, Repr, Inhabited

/-- the command line as it is shown -/
def Command.display (c : Command) : String :=
  String.ofList (Text.quoteWords ((c.program :: c.args).map String.toList))

/-- what the tool reads: the text of the document and one line feed -/
def stdinPayload (text : String) : String := text ++ "\n"

/-- the program to run: the built-in one, or the configured one -/
def Configuration.executable (c : Configuration) (builtIn : String) : String :=
  if c.useBuiltIn then builtIn else c.executablePath

/-- arguments for formatting -/
def Configuration.formatArgs (c : Configuration) : List String :=
  ["--indent-size=" ++ toString c.indentSize]
    ++ (if c.useSpaces then ["--use-spaces"] else [])
    ++ (if c.reorderAllowed then ["--reorder-code"] else [])
    ++ (if c.safe then ["--safe"] else [])

/-- arguments for linting a document, which is named if it has a path -/
def Configuration.lintArgs (c : Configuration) (path : Option Path) : List String :=
  ["lint"]
    ++ path.toList.map Path.text
    ++ ["--max-line-length", toString c.maxLineLength]
    ++ (if c.ignoredRules.isEmpty then [] else ["--disable", String.intercalate "," c.ignoredRules])

/-- the command for a document with a given path -/
def Command.build (builtIn : String) (mode : Mode) (c : Configuration) (path : Option Path) : Command where
  program := c.executable builtIn
  args := match mode with
    | .format => c.formatArgs
    | .lint => c.lintArgs path
  mode := mode

/-- where the built-in tool lies: beside the folder of the running program -/
def defaultBuiltIn (exe : Path) : Path :=
  let folder := exe.parent?.getD ⟨"."⟩
  ((folder.child "..").child "binaries").child "gdscript-formatter"

end ScriptBridge
