/-
# Usage

How the commands of the shell are used in the extended language, and their options: each command has
a text that tells how it is called, which follows the complaint about a wrong option.
-/
import ScriptedShell.Local.Script.State

namespace ScriptedShell.Local.Script

namespace Usage

/-- How the commands are called. -/
def texts : List (String × String) :=
  [(".", "filename [arguments]"), ("alias", "[-p] [name[=value] ... ]"), ("break", "[n]"),
    ("builtin", "[shell-builtin [arg ...]]"), ("caller", "[expr]"),
    ("cd", "[-L|[-P [-e]] [-@]] [dir]"), ("command", "[-pVv] command [arg ...]"),
    ("continue", "[n]"),
    ("declare", "[-aAfFgiIlnrtux] [name[=value] ...] or declare -p [-aAfFilnrtux] [name ...]"),
    ("dirs", "[-clpv] [+N] [-N]"), ("enable", "[-a] [-dnps] [-f filename] [name ...]"),
    ("eval", "[arg ...]"), ("exec", "[-cl] [-a name] [command [argument ...]] [redirection ...]"),
    ("exit", "[n]"), ("export", "[-fn] [name[=value] ...] or export -p"),
    ("getopts", "optstring name [arg ...]"), ("hash", "[-lr] [-p pathname] [-dt] [name ...]"),
    ("kill", "[-s sigspec | -n signum | -sigspec] pid | jobspec ... or kill -l [sigspec]"),
    ("let", "arg [arg ...]"), ("local", "[option] name[=value] ..."),
    ("mapfile", "[-d delim] [-n count] [-O origin] [-s count] [-t] [-u fd] [-C callback] " ++
      "[-c quantum] [array]"),
    ("popd", "[-n] [+N | -N]"), ("printf", "[-v var] format [arguments]"),
    ("pushd", "[-n] [+N | -N | dir]"), ("pwd", "[-LP]"),
    ("read", "[-ers] [-a array] [-d delim] [-i text] [-n nchars] [-N nchars] [-p prompt] " ++
      "[-t timeout] [-u fd] [name ...]"),
    ("readarray", "[-d delim] [-n count] [-O origin] [-s count] [-t] [-u fd] [-C callback] " ++
      "[-c quantum] [array]"),
    ("readonly", "[-aAf] [name[=value] ...] or readonly -p"), ("return", "[n]"),
    ("set", "[-abefhkmnptuvxBCEHPT] [-o option-name] [--] [-] [arg ...]"), ("shift", "[n]"),
    ("shopt", "[-pqsu] [-o] [optname ...]"), ("source", "filename [arguments]"),
    ("trap", "[-lp] [[arg] signal_spec ...]"), ("type", "[-afptP] name [name ...]"),
    ("typeset", "[-aAfFgiIlnrtux] name[=value] ... or typeset -p [-aAfFilnrtux] [name ...]"),
    ("ulimit", "[-SHabcdefiklmnpqrstuvxPRT] [limit]"), ("umask", "[-p] [-S] [mode]"),
    ("unalias", "[-a] name [name ...]"), ("unset", "[-f] [-v] [-n] [name ...]"),
    ("wait", "[-fn] [-p var] [id ...]")]

/-- Tell how the running command is called, and give up. -/
def refuse : Sh α := do
  let name := ((← get).commandName).getD ""
  Sh.complainRaw (name ++ ": usage: " ++ name ++ " " ++ (texts.lookup name).getD "" ++ "\n")
  modify fun shell => { shell with status := 2 }
  throw .failed

/-- An option that has been read: whether it is set, its letter, and its argument. -/
structure Given where
  isOn : Bool
  letter : Char
  argument : String := ""
  deriving Repr, DecidableEq

/-- The letters of one argument as options, and the arguments after it. -/
def letters (allowed : List Char) (isOn : Bool) : Nat → List Char → List String →
    Sh (List Given × List String)
  | 0, _, rest | _, [], rest => return ([], rest)
  | fuel + 1, c :: cs, rest => do
    match if c = ':' then [] else (allowed.span (· != c)).2 with
    | [] =>
      let sign := if isOn then "-" else "+"
      Sh.warn (sign ++ String.singleton c ++ ": invalid option")
      refuse
    | _ :: ':' :: _ =>
      match cs, rest with
      | [], [] =>
        Sh.warn ("-" ++ String.singleton c ++ ": option requires an argument")
        refuse
      | [], a :: rest => return ([⟨isOn, c, a⟩], rest)
      | cs, rest => return ([⟨isOn, c, String.ofList cs⟩], rest)
    | _ =>
      let (more, rest) ← letters allowed isOn fuel cs rest
      return (⟨isOn, c, ""⟩ :: more, rest)

/-- The options at the front of arguments, and the other arguments; a colon after a letter that is
allowed means that it takes an argument, and `takesBack` that a plus sign takes options back. -/
def options (allowed : String) (takesBack : Bool) : Nat → List String →
    Sh (List Given × List String)
  | 0, arguments => return ([], arguments)
  | _ + 1, [] => return ([], [])
  | fuel + 1, a :: rest =>
    let more := fun (isOn : Bool) (cs : List Char) => do
      let (found, rest) ← letters allowed.toList isOn (cs.length + 1) cs rest
      let (others, rest) ← options allowed takesBack fuel rest
      return (found ++ others, rest)
    match a.toList with
    | ['-', '-'] => return ([], rest)
    | '-' :: c :: cs => more true (c :: cs)
    | '+' :: c :: cs => if takesBack then more false (c :: cs) else return ([], a :: rest)
    | _ => return ([], a :: rest)

/-- The options at the front of arguments, and the other arguments. -/
def split (allowed : String) (arguments : List String) : Sh (List Given × List String) :=
  options allowed false (arguments.length + 1) arguments

/-- Whether an option is among those given. -/
def has (given : List Given) (letter : Char) : Bool := given.any fun g => g.isOn && g.letter = letter

/-- The argument of an option that has been given. -/
def argument? (given : List Given) (letter : Char) : Option String :=
  (given.reverse.find? fun g => g.letter = letter).map (·.argument)

end Usage

end ScriptedShell.Local.Script
