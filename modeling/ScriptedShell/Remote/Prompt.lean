/-
# Prompts and password cues

Two questions about one line of a remote shell's output: is it the shell's prompt, and does it ask
for a password.
-/
import ScriptedShell.Text.Blank
import ScriptedShell.Text.Lower

namespace ScriptedShell.Remote

open Text

/-- Whether a line mentions a user who has a name. -/
def mentionsUser (line user : String) : Bool := !user.isEmpty && contains line user

/-- Whether a line is a prompt: it names the user or the superuser and has an `@` and a `:`. -/
def isPromptLine (line user superuser : String) : Bool :=
  (mentionsUser line user || mentionsUser line superuser) &&
    line.toList.elem '@' && line.toList.elem ':'

/-- The characters that end a prompt. -/
def isPromptEnd (c : Char) : Bool := c = '$' || c = '#' || c = '>' || c = '%'

/-- Whether a text ends, blanks aside, the way prompts end. -/
def endsLikePrompt (text : String) : Bool :=
  match (trimEnd text.toList).getLast? with
  | some c => isPromptEnd c
  | none => false

/-- The location that a prompt shows: the line without what ends it. -/
def promptLocation (line : String) : String :=
  String.ofList
    (dropEndWhile (fun c => c = ' ' || c = '#' || c = '$') (trim line.toList))

/-- Whether a line asks for a password: it ends with a colon and has the cue in it, in either
case. -/
def isPasswordCue (line cue : String) : Bool :=
  let cs := trim line.toList
  cs.getLast? = some ':' && occursIn (lower cue.toList) (lower cs)

end ScriptedShell.Remote
