/-
# Choices

The options of the extended language: those with letters, and those with names only.
-/
import ScriptedShell.Local.Script.State

namespace ScriptedShell.Local.Script

namespace Choices

/-- The names of options with their letters; those without are known by name. -/
def names : List (String × Option Char) :=
  [("allexport", some 'a'), ("braceexpand", some 'B'), ("emacs", none), ("errexit", some 'e'),
    ("errtrace", some 'E'), ("functrace", some 'T'), ("hashall", some 'h'),
    ("histexpand", some 'H'), ("history", none), ("ignoreeof", none),
    ("interactive-comments", none), ("keyword", some 'k'), ("monitor", some 'm'),
    ("noclobber", some 'C'), ("noexec", some 'n'), ("noglob", some 'f'), ("nolog", none),
    ("notify", some 'b'), ("nounset", some 'u'), ("onecmd", some 't'), ("physical", some 'P'),
    ("pipefail", none), ("posix", none), ("privileged", some 'p'), ("verbose", some 'v'),
    ("vi", none), ("xtrace", some 'x')]

/-- The letters of options in the order in which they are shown; the last two cannot be set. -/
def letters : List Char := "abefhkmnprtuvxBCEHPTcs".toList

/-- The letters of options that are set at first. -/
def firstLetters : List Char := ['h', 'B']

/-- Options that have names only and do not belong to those with letters. -/
def further : List String :=
  ["autocd", "assoc_expand_once", "cdable_vars", "cdspell", "checkhash", "checkjobs",
    "checkwinsize", "cmdhist", "compat31", "compat32", "compat40", "compat41", "compat42",
    "compat43", "compat44", "complete_fullquote", "direxpand", "dirspell", "dotglob", "execfail",
    "expand_aliases", "extdebug", "extglob", "extquote", "failglob", "force_fignore",
    "globasciiranges", "globskipdots", "globstar", "gnu_errfmt", "histappend", "histreedit",
    "histverify", "hostcomplete", "huponexit", "inherit_errexit", "interactive_comments",
    "lastpipe", "lithist", "localvar_inherit", "localvar_unset", "login_shell", "mailwarn",
    "no_empty_cmd_completion", "nocaseglob", "nocasematch", "noexpand_translation", "nullglob",
    "patsub_replacement", "progcomp", "progcomp_alias", "promptvars", "restricted_shell",
    "shift_verbose", "sourcepath", "varredir_close", "xpg_echo"]

/-- The options that are known by name and set at first. -/
def first : List String :=
  ["interactive-comments", "checkwinsize", "cmdhist", "complete_fullquote", "extquote",
    "force_fignore", "globasciiranges", "globskipdots", "hostcomplete", "interactive_comments",
    "patsub_replacement", "progcomp", "promptvars", "sourcepath"]

/-- Set or take back the option with a letter, and say whether there is one. -/
def setLetter (letter : Char) (isOn : Bool) : Sh Bool := do
  if !letters.elem letter || letter = 'c' || letter = 's' then return false
  modify fun shell => { shell with
    options := letters.filter fun c => if c = letter then isOn else shell.options.elem c }
  return true

/-- Set or take back an option that is known by its name. -/
def setFurther (name : String) (isOn : Bool) : Sh Unit :=
  modify fun shell =>
    let others := shell.choices.filter (· != name)
    { shell with choices := if isOn then name :: others else others }

/-- Set or take back the option with a name, and say whether there is one. -/
def setNamed (name : String) (isOn : Bool) : Sh Bool := do
  match names.lookup name with
  | some (some letter) => setLetter letter isOn
  | some none =>
    setFurther name isOn
    return true
  | none => return false

/-- Whether the option with a name is set. -/
def isSet (shell : Shell) (name : String) : Bool :=
  match names.lookup name with
  | some (some letter) => shell.options.elem letter
  | _ => shell.choices.elem name

/-- A name and whether the option is set, in columns. -/
def row (shell : Shell) (name : String) : String :=
  name ++ String.ofList (List.replicate (15 - name.length) ' ') ++ "\t" ++
    (if isSet shell name then "on" else "off") ++ "\n"

end Choices

end ScriptedShell.Local.Script
