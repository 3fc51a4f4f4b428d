/-
# The local machine

What local programs act on: a file tree, the directory that the whole run was started in, and the
environment.  A program is started with arguments, a directory and further environment variables;
it prints bytes and ends with a code or by a signal.
-/
import ScriptedShell.Files.Tree

namespace ScriptedShell.Local

open Files

/-- The machine that a run happens on. -/
structure Machine where
  tree : Tree := {}
  /-- The directory that relative paths are taken from. -/
  place : Place := []
  environment : List (String × String) := []
  deriving Repr

/-- How a program is started. -/
structure Invocation where
  program : String
  arguments : List String
  directory : String
  /-- Environment variables set in addition to those of the machine. -/
  environment : List (String × String)
  deriving Repr, DecidableEq

/-- What a program has printed, and the code it ended with; none when a signal ended it. -/
structure Finished where
  output : List UInt8 := []
  errors : List UInt8 := []
  code : Option Nat := some 0
  deriving Repr, DecidableEq

/-- A way to start programs: the program ends, or cannot be started for a reason.  Which programs
there are and what they do is for the spawner to say, and nothing that is proved depends on it. -/
abbrev Spawner := Invocation → Machine → Except String Finished × Machine

/-! ## A machine with the usual programs -/

/-- The directories that every machine has. -/
def standardDirectories : List String :=
  ["/boot", "/dev/pts", "/dev/shm", "/etc/default", "/home", "/media", "/mnt", "/opt", "/proc",
    "/root", "/run/lock", "/srv", "/sys", "/tmp", "/usr/bin", "/usr/games", "/usr/include",
    "/usr/lib", "/usr/lib64", "/usr/local/bin", "/usr/local/etc", "/usr/local/games",
    "/usr/local/include", "/usr/local/lib", "/usr/local/sbin", "/usr/local/share",
    "/usr/local/src", "/usr/sbin", "/usr/share", "/usr/src", "/var/backups", "/var/cache",
    "/var/lib", "/var/local", "/var/log", "/var/mail", "/var/opt", "/var/spool", "/var/tmp"]

/-- The directories that are known by other paths too. -/
def standardLinks : List (String × String) :=
  [("/bin", "usr/bin"), ("/lib", "usr/lib"), ("/lib64", "usr/lib64"), ("/sbin", "usr/sbin"),
    ("/var/run", "/run"), ("/var/lock", "/run/lock"), ("/usr/bin/sh", "dash"),
    ("/usr/bin/awk", "mawk")]

/-- The files that are no store of bytes. -/
def standardDevices : List (String × Device) :=
  [("/dev/null", .null), ("/dev/zero", .zero), ("/dev/full", .full), ("/dev/random", .random),
    ("/dev/urandom", .random), ("/dev/tty", .terminal)]

/-- The programs that every machine has. -/
def standardPrograms : List String :=
  ["[", "arch", "awk", "base64", "basename", "bash", "cat", "chmod", "cmp", "comm", "cp", "cut",
   "dash", "date", "diff", "dirname", "echo", "env", "expand", "expr", "false", "find", "fold",
   "grep", "groups", "head", "hostname", "id", "join", "kill", "ln", "ls", "mawk", "md5sum",
   "mkdir", "mktemp", "mv", "nice", "nl", "nohup", "nproc", "od", "paste", "printenv", "printf",
   "pwd", "readlink", "realpath", "rev", "rm", "rmdir", "sed", "seq", "setsid", "sha1sum",
   "sha256sum", "sleep", "sort", "split", "stat", "stdbuf", "sync", "tac", "tail", "tee", "test",
   "timeout", "touch", "tr", "true", "truncate", "tsort", "tty", "uname", "unexpand", "uniq",
   "users", "wc", "who", "whoami", "xargs", "yes"]

/-- The programs that are scripts, with their texts. -/
def standardScripts : List (String × String) :=
  [("egrep", "#!/bin/sh
exec grep -E \"$@\"
"), ("fgrep", "#!/bin/sh
exec grep -F \"$@\"
"), ("which", "#!/bin/sh
all=
quiet=
while getopts as option; do
  case $option in
    a) all=1 ;;
    s) quiet=1 ;;
    ?) printf '%s\\n' \"Usage: $0 [-as] args\"; exit 2 ;;
  esac
done
shift $((OPTIND - 1))
test $# -gt 0
status=$?
case $PATH in
  (*[!:]:) PATH=$PATH: ;;
esac
show() \x7b
  test -f \"$1\" && test -x \"$1\" || return 1
  test -n \"$quiet\" || printf '%s\\n' \"$1\"
\x7d
set -f
for name do
  found=1
  case $name in
    */*) show \"$name\" && found=0 ;;
    *)
      IFS=:
      for directory in $PATH; do
        show \"$\x7bdirectory:-.\x7d/$name\" && found=0 && test -z \"$all\" && break
      done
      unset IFS
      ;;
  esac
  test $found = 0 || status=1
done
exit $status
")]

/-- The text of the file of users. -/
def usersText : String := "root:x:0:0:root:/root:/bin/bash
"

/-- The files of a machine that nothing has been done with. -/
def standardTree : Tree :=
  let put := fun (t : Tree) (path : String) (node : Node) =>
    t.put ((Path.segments path).filter (!·.isEmpty)) node
  let t : Tree := standardDirectories.foldl
    (fun t path => ((t.makeDirectories [] path).toOption).getD t) {}
  let t := standardPrograms.foldl (fun t name => put t ("/usr/bin/" ++ name) (.program name)) t
  let t := standardDevices.foldl (fun t (path, device) => put t path (.device device)) t
  let t := standardLinks.foldl (fun t (path, target) => put t path (.link target)) t
  let t := standardScripts.foldl (fun t (name, text) =>
    let place := ["usr", "bin", name]
    (t.put place (.file text.toUTF8.toList)).setMode place 0o755) t
  put t "/etc/passwd" (.file usersText.toUTF8.toList)

namespace Machine

/-- The machine after a file has been written, if that can be done, with the directories on the
way to it. -/
def plant (m : Machine) (path : String) (bytes : List UInt8) : Machine :=
  { m with tree := m.tree.plant m.place path bytes }

/-- The machine after a directory has been made, if that can be done. -/
def makeDirectory (m : Machine) (path : String) : Machine :=
  { m with tree := ((m.tree.makeDirectories m.place path).toOption).getD m.tree }

/-- The directory of the user. -/
def home? (m : Machine) : Option String := m.environment.lookup "HOME"

/-- The canonical path of the directory that a path leads to, however long the path is. -/
def directory? (m : Machine) (path : String) : Option String :=
  match m.tree.resolve true m.place path with
  | .error _ => none
  | .ok place =>
    match m.tree.at? place with
    | some .directory => some (Tree.pathOf place)
    | _ => none

/-- The path of the directory that the run was started in. -/
def currentPath (m : Machine) : String := Tree.pathOf m.place

end Machine

end ScriptedShell.Local
