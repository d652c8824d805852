/-
The files that a machine has of its own: programs, devices, and a few files and folders that can be relied on. A
program is a file whose bytes say which one it is, so that copies and links of it are the same program.
-/
import ScriptBridge.Files.Tree

namespace ScriptBridge

/-- the bytes that a program begins with; its name follows -/
def programMark : List UInt8 := [0x7f, 0x45, 0x4c, 0x46, 0x02, 0x01, 0x01, 0x00, 0xff]

/-- a program -/
def Node.program (name : String) : Node := .file (programMark ++ Text.encode name.toList) true

/-- the name of the program whose bytes these are -/
def programName? (content : List UInt8) : Option String :=
  if programMark.isPrefixOf content then
    (Text.decode? (content.drop programMark.length)).map String.ofList
  else none

namespace BaseSystem

/-- the programs -/
def programs : List String :=
  ["[", "arch", "b2sum", "base32", "base64", "basename", "bash", "cat", "chgrp", "chmod", "chown", "cksum", "cmp",
    "comm", "cp", "cut", "dash", "date", "dd", "diff", "dirname", "du", "echo", "egrep", "env", "expand", "expr",
    "factor", "false", "fgrep", "find", "fmt", "fold", "grep", "groups", "gunzip", "gzip", "head", "hostname",
    "iconv", "id", "install", "join", "link", "ln", "ls", "mawk", "md5sum", "mkdir", "mktemp", "mv", "nice", "nl",
    "nohup", "nproc", "numfmt", "od", "paste", "perl", "pr", "printenv", "printf", "pwd", "python3.12", "readlink",
    "realpath", "rev", "rm", "rmdir", "sed", "seq", "sha1sum", "sha224sum", "sha256sum", "sha384sum", "sha512sum",
    "shuf", "sleep", "sort", "split", "stat", "stdbuf", "sum", "sync", "tac", "tail", "tee", "test", "timeout", "touch", "tr",
    "true", "truncate", "tsort", "tty", "uname", "unexpand", "uniq", "unlink", "wc", "which.debianutils", "whoami",
    "xargs", "yes", "zcat"]

/-- the names that lead to programs -/
def programLinks : List (String × String) :=
  [("awk", "/etc/alternatives/awk"), ("nawk", "/etc/alternatives/nawk"), ("python3", "python3.12"), ("rbash", "bash"),
    ("sh", "dash"), ("which", "/etc/alternatives/which")]

/-- the devices -/
def devices : List (String × Device) :=
  [("full", .full), ("null", .null), ("random", .zero), ("tty", .terminal), ("urandom", .zero), ("zero", .zero)]

/-- the list of users -/
def users : String := "root:x:0:0:root:/root:/bin/bash\n"

/-- a folder of empty folders -/
def folders (names : List String) : List (String × Node) := names.map fun name => (name, .folder [])

/-- a file with a text -/
def textFile (text : String) : Node := .file (Text.encode text.toList) false

/-- all files of a machine -/
def top : Node := .folder
  ([("bin", Node.link "usr/bin"),
    ("dev", Node.folder (devices.map (fun d => (d.1, Node.device d.2))
      ++ folders ["fd"] ++ ["stderr", "stdin", "stdout"].map fun name => (name, Node.device .terminal))),
    ("etc", Node.folder
      [("alternatives", .folder
        [("awk", .link "/usr/bin/mawk"), ("nawk", .link "/usr/bin/mawk"), ("which", .link "/usr/bin/which.debianutils")]),
        ("group", textFile "root:x:0:\n"), ("hostname", textFile "localhost\n"),
        ("hosts", textFile "127.0.0.1\tlocalhost\n"), ("passwd", textFile users), ("resolv.conf", textFile "")]),
    ("lib", Node.link "usr/lib"), ("sbin", Node.link "usr/sbin"), ("tmp", Node.folder []),
    ("usr", Node.folder
      ([("bin", Node.folder (programs.map (fun name => (name, Node.program name))
        ++ programLinks.map fun l => (l.1, Node.link l.2))),
        ("local", Node.folder (folders ["bin", "lib", "sbin", "share"]))]
        ++ folders ["games", "include", "lib", "sbin", "share", "src"])),
    ("var", Node.folder (folders ["cache", "lib", "log", "spool", "tmp"]))]
    ++ folders ["boot", "home", "media", "mnt", "opt", "proc", "root", "run", "srv", "sys"])

end BaseSystem

mutual

/-- a node with what another one has and it lacks -/
def Node.over : Node → Node → Node
  | .folder entries, .folder others =>
    .folder (overEntries entries others ++ others.filter fun e => (Table.find? e.1 entries).isNone)
  | n, _ => n

def overEntries : List (String × Node) → List (String × Node) → List (String × Node)
  | [], _ => []
  | (name, n) :: rest, others =>
    (name, match Table.find? name others with
      | some other => n.over other
      | none => n) :: overEntries rest others

end

/-- files on a machine -/
def Files.onMachine (f : Files) : Files := { f with top := f.top.over BaseSystem.top }

end ScriptBridge
