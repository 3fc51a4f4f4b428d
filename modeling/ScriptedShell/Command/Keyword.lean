/-
# Keywords

The first word of a line names a builtin command or, when it is no keyword, makes the line one to
pass through to a shell.  Case does not matter and leading number signs are left out.
-/

namespace ScriptedShell.Command

/-- What a line asks for. -/
inductive Keyword where
  /-- A line for the shell. -/
  | passthrough
  | connect
  | endConnect
  | transfer
  | run
  | openPath
  | back
  | declare
  | remove
  | require
  | unrequire
  | ifExist
  | endIf
  | printMode
  | invokeMode
  | endInvokeMode
  | clear
  | fixRow
  | endFixRow
  deriving Repr, DecidableEq

namespace Keyword

/-- The builtin commands with their words. -/
def table : List (String × Keyword) :=
  [("ssh", connect), ("endssh", endConnect), ("scp", transfer), ("run", run), ("open", openPath),
    ("back", back), ("var", declare), ("rmvar", remove), ("required", require),
    ("unrequired", unrequire), ("ifexist", ifExist), ("endif", endIf), ("print", printMode),
    ("invoke", invokeMode), ("endinvoke", endInvokeMode), ("clear", clear), ("cls", clear),
    ("fixrow", fixRow), ("endfixrow", endFixRow)]

/-- The lower-case form of a word in which only the letters A to Z change. -/
def folded (word : String) : String := String.ofList (word.toList.map Char.toLower)

/-- The command that a first word names. -/
def ofWord (word : String) : Keyword :=
  let bare := String.ofList (word.toList.dropWhile (· = '#'))
  (table.lookup (folded bare)).getD passthrough

/-- The word of a command. -/
def word : Keyword → String
  | passthrough => "passthrough"
  | connect => "ssh"
  | endConnect => "endssh"
  | transfer => "scp"
  | run => "run"
  | openPath => "open"
  | back => "back"
  | declare => "var"
  | remove => "rmvar"
  | require => "required"
  | unrequire => "unrequired"
  | ifExist => "ifexist"
  | endIf => "endif"
  | printMode => "print"
  | invokeMode => "invoke"
  | endInvokeMode => "endinvoke"
  | clear => "clear"
  | fixRow => "fixrow"
  | endFixRow => "endfixrow"

/-- Whether the words of a line of this kind name variables instead of using them. -/
def namesVariables : Keyword → Bool
  | declare | remove | require | unrequire => true
  | _ => false

end Keyword

/-! ## Markers -/

/-- The text that begins a variable's key. -/
def variableMarker : String := "-@"

/-- The text that begins a flag whose value is secret. -/
def secretMarker : String := "-#"

/-- The text that begins a comment. -/
def commentMarker : String := "--"

end ScriptedShell.Command
