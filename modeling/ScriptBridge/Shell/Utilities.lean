/-
The common utilities by their names. A utility that runs other programs is given a runner for them.
-/
import ScriptBridge.Shell.BlockScript.Command
import ScriptBridge.Shell.Charset
import ScriptBridge.Shell.Compression.Archive
import ScriptBridge.Shell.Counting
import ScriptBridge.Shell.Difference.Command
import ScriptBridge.Shell.Digest
import ScriptBridge.Shell.Dump
import ScriptBridge.Shell.Environment
import ScriptBridge.Shell.Exchange
import ScriptBridge.Shell.Expression
import ScriptBridge.Shell.Figures
import ScriptBridge.Shell.Finding
import ScriptBridge.Shell.Joining
import ScriptBridge.Shell.Launcher
import ScriptBridge.Shell.LineFilter
import ScriptBridge.Shell.Listing
import ScriptBridge.Shell.Pages
import ScriptBridge.Shell.Paragraph
import ScriptBridge.Shell.Pieces
import ScriptBridge.Shell.Rearrange
import ScriptBridge.Shell.RecordScript.Run
import ScriptBridge.Shell.Search
import ScriptBridge.Shell.SigilScript.Command
import ScriptBridge.Shell.Sorting
import ScriptBridge.Shell.StreamEdit.Run

namespace ScriptBridge.Shell

/-- an outdated name of a search, which is said first -/
def outdated (c : Call) (option : String) : Running UtilityRun :=
  let warning := c.complaint (octets "warning: " ++ lastPart c.name ++ octets " is obsolescent; using grep " ++ octets option)
  let r := (grep { c with name := "grep".toList } [octets option]).result
  return { r with err := warning ++ r.err }

/-- runs a utility -/
def runUtility (name : String) (run : Runner) (c : Call) : UtilityRun :=
  let r : Running UtilityRun := match name with
    | "[" | "test" => testUtility c
    | "arch" => arch c
    | "mawk" => RecordScript.awk run c
    | "b2sum" => digestSum (.blake 512) c
    | "base32" => base32 c
    | "base64" => base64 c
    | "basename" => basename c
    | "cat" => cat c
    | "chgrp" => chown true c
    | "chmod" => chmod c
    | "chown" => chown false c
    | "cksum" => cksum c
    | "cmp" => cmp c
    | "comm" => comm c
    | "cp" => cp c
    | "cut" => cut c
    | "date" => date c
    | "dd" => dd c
    | "diff" => Difference.diff c
    | "dirname" => dirname c
    | "echo" => echo c
    | "egrep" => outdated c "-E"
    | "env" => env run c
    | "expand" => expand c
    | "expr" => expr c
    | "factor" => Figures.factor c
    | "false" => return c.done 1 []
    | "fgrep" => outdated c "-F"
    | "find" => find run c
    | "fmt" => Paragraph.fmt c
    | "fold" => fold c
    | "grep" => grep c []
    | "groups" => groups c
    | "gunzip" => Compression.gzip true false c
    | "gzip" => Compression.gzip false false c
    | "head" => head c
    | "hostname" => return c.done 0 (octets "localhost\n")
    | "iconv" => Charset.iconv c
    | "id" => id c
    | "install" => install c
    | "join" => Joining.join c
    | "link" => link c
    | "ln" => ln c
    | "ls" => ls c
    | "md5sum" => digestSum .md5 c
    | "mkdir" => mkdir c
    | "mktemp" => mktemp c
    | "mv" => mv c
    | "nice" => nice run c
    | "nl" => nl c
    | "nohup" => nohup run c
    | "nproc" => nproc c
    | "numfmt" => Figures.numfmt c
    | "od" => od c
    | "paste" => paste c
    | "perl" => SigilScript.command run c
    | "pr" => Pages.pr c
    | "printenv" => printenv c
    | "printf" => printf c
    | "pwd" => pwd c
    | "python3.12" => BlockScript.command c
    | "readlink" => readlink c
    | "realpath" => realpath c
    | "rev" => rev c
    | "rm" => rm c
    | "rmdir" => rmdir c
    | "sed" => StreamEdit.sed c
    | "seq" => seq c
    | "sha1sum" => digestSum .sha1 c
    | "sha224sum" => digestSum .sha224 c
    | "sha384sum" => digestSum .sha384 c
    | "sha256sum" => digestSum .sha256 c
    | "sha512sum" => digestSum .sha512 c
    | "shuf" => shuf c
    | "sleep" => sleep c
    | "sort" => sort c
    | "split" => Pieces.split run c
    | "stat" => stat c
    | "stdbuf" => stdbuf run c
    | "sum" => Figures.sum c
    | "sync" => sync c
    | "tac" => tac c
    | "tail" => tail c
    | "tee" => tee c
    | "timeout" => timeout run c
    | "touch" => touch c
    | "tr" => tr c
    | "truncate" => truncate c
    | "tsort" => tsort c
    | "tty" => tty c
    | "uname" => uname c
    | "unexpand" => unexpand c
    | "uniq" => uniq c
    | "unlink" => unlink c
    | "wc" => wc c
    | "which.debianutils" => which c
    | "whoami" => return c.done 0 (userName ++ ['\n'])
    | "xargs" => xargs run c
    | "yes" => yes c
    | "zcat" => Compression.gzip true true c
    | _ => return c.done 0 []
  r.result

/-- the status of a utility whose output finds no space, with its complaint -/
def withoutSpace (name : String) (c : Call) : Nat × Octets :=
  let cause := octets ": No space left on device"
  let plain := c.complaint (octets "write error" ++ cause)
  match name with
  | "cmp" | "diff" => (2, c.complaint (octets "standard output" ++ cause))
  | "dd" => (1, c.complaint (octets "error writing 'standard output'" ++ cause))
  | "env" => (125, plain)
  | "expr" => (3, plain)
  | "find" => (1, c.complaint (octets "'standard output'" ++ cause) ++ c.complaint (octets "write error"))
  | "grep" | "egrep" | "fgrep" | "ls" => (2, plain)
  | "gzip" => (1, '\n' :: c.complaint (octets "stdout" ++ cause))
  | "sed" => (4, c.complaint (octets "couldn't flush stdout" ++ cause))
  | "sort" => (2, c.complaint (octets "fflush failed: 'standard output'" ++ cause) ++ c.complaint (octets "write error"))
  | "tee" => (1, c.complaint (octets "'standard output'" ++ cause))
  | "wc" | "b2sum" | "md5sum" | "sha1sum" | "sha224sum" | "sha256sum" | "sha384sum" | "sha512sum" =>
    (1, c.complaint (octets "write error"))
  | "yes" => (1, c.complaint (octets "standard output" ++ cause))
  | _ => (1, plain)

end ScriptBridge.Shell
