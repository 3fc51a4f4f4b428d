/-
# Expansion

What words stand for: parameters are replaced by their values, scripts by what they print,
expressions by their values and home marks by directories.  What has been put in without quotes is
split into fields, and fields stand for the paths that they are patterns of.
-/
import ScriptedShell.Local.Script.Refined

namespace ScriptedShell.Local.Script

open Files Text

namespace Expansion

/-! ## Home marks -/

/-- The home directory of a user. -/
def homeOf? (shell : Shell) (user : String) : Option String :=
  if user.isEmpty then
    ((shell.vars.lookup "HOME").bind (·.value)).filter fun home => !home.isEmpty
  else if user = "root" then some "/root"
  else none

/-- The user that a home mark names and the pieces after the name, if nothing in the name is quoted
or stands for anything else. -/
def userAt? (isAssignment : Bool) (pieces : Word) : Option (String × Word) :=
  let isEnd := fun (p : Piece) => match p with
    | .char c false => c = '/' || (isAssignment && c = ':')
    | _ => false
  let (name, rest) := pieces.span fun p => !isEnd p
  let chars := name.mapM fun (p : Piece) => match p with
    | .char c false => some c
    | _ => none
  chars.map fun cs => (String.ofList cs, rest)

/-- The bits of the home mark at the front of pieces, and the pieces after it. -/
def homeAt? (shell : Shell) (isAssignment : Bool) : Word → Option (List Bit × Word)
  | .char '~' false :: pieces => do
    let (user, rest) ← userAt? isAssignment pieces
    let home ← homeOf? shell user
    return (bitsOf true home.toList, rest)
  | _ => none

/-! ## Pieces -/

/-- The highest stream that a path to a script is made with. -/
def highestStream : Nat := 63

/-- A path where the output of a script is read, or its input will be written. -/
def channelPath (out : Output) (script : Command) (isInput : Bool) : Sh String := do
  let text ← if isInput then out script else pure []
  let shell ← get
  let (input, output, system) := shell.system.newPipe
  let system := if text.isEmpty then system
    else ((system.write output (String.ofList text)).toOption).getD system
  let isFree := fun (n : Nat) => (shell.streams.lookup n).isNone
  let stream := ((List.range (highestStream + 1)).reverse.find? isFree).getD highestStream
  set { shell with
    system, streams := shell.streams.set stream (if isInput then input else output)
    pending := if isInput then shell.pending else shell.pending ++ [(input, script)] }
  return "/dev/fd/" ++ toString stream

/-- The bits of pieces one after the other, where `inner` gives the bits of words inside them and
`inRun` says whether the piece before was a character that is not quoted. -/
def bitsAlong (out : Output) (inner : Manner → Word → Sh (List Bit)) (m : Manner) (inRun : Bool) :
    Nat → Word → Sh (List Bit)
  | 0, _ | _, [] => return []
  | size + 1, piece :: rest => do
    let goOn := fun (here : List Bit) => do
      return here ++ (← bitsAlong out inner m false size rest)
    match piece with
    | .char c true => goOn [.char c true false]
    | .char c false =>
      let splits := m.isWord && m.isFields
      let here := (if splits && !inRun then [.border false] else []) ++ [.char c false splits]
      let shell ← get
      match if m.isAssignment && c = ':' then homeAt? shell true rest else none with
      | some (home, rest) => return here ++ home ++ (← bitsAlong out inner m false size rest)
      | none => return here ++ (← bitsAlong out inner m true size rest)
    | .mark _ => goOn [.mark]
    | .output script quoted =>
      let text ← out script
      goOn (bitsOf quoted (dropFeeds (text.filter (· != '\x00'))))
    | .number expression quoted =>
      goOn (bitsOf quoted (← numberOf (bitText (← inner {} expression))))
    | .parameter name use word quoted =>
      goOn (← usualBits inner m (← subjectOf name) use word quoted)
    | .refined name index refinement words quoted =>
      goOn (← refinedBits inner m name index refinement words quoted)
    | .items _ => goOn []
    | .channel script isInput => goOn (bitsOf true (← channelPath out script isInput).toList)

/-- The bits of pieces; the number bounds how deep words stand inside each other. -/
def bits (out : Output) : Nat → Manner → Word → Sh (List Bit)
  | 0, _, _ => return []
  | depth + 1, m, pieces => do
    let shell ← get
    match if m.hasHome then homeAt? shell m.isAssignment pieces else none with
    | some (home, rest) =>
      return home ++ (← bitsAlong out (bits out depth) m false rest.length rest)
    | none => bitsAlong out (bits out depth) m false pieces.length pieces

end Expansion

/-- How deep words can stand inside each other. -/
def maxWordDepth : Nat := 1000

namespace Sh

/-- Which names patterns stand for in a shell. -/
def globbing (shell : Shell) : Globbing :=
  { hasDots := !shell.isExtended, showsHidden := shell.choices.elem "dotglob" }

/-- The words that a word stands for. -/
def fieldsFor (out : Expansion.Output) (word : Word) : Sh (List String) := do
  let bits ← Expansion.bits out maxWordDepth { isFields := true, hasHome := true } word
  let shell ← get
  let fields := fieldsOf (Expansion.separators shell) none bits
  if shell.options.elem 'f' then return fields.map bitText
  else
    let words := wordsLike (globbing shell) shell.system.tree shell.directory
    match shell.dialect with
    | .standard => return fields.flatMap fun field => words (bitMarks field)
    | .extended =>
      let isUnmatched := fun (field : List Bit) =>
        pathsFor? (globbing shell) shell.system.tree shell.directory
          (withCarets (bitMarks field)) = some []
      if shell.choices.elem "failglob" then
        match fields.find? isUnmatched with
        | some field => fail ("no match: " ++ bitText field)
        | none => pure ()
      return fields.flatMap fun field =>
        let marks := withCarets (bitMarks field)
        if shell.choices.elem "nullglob" && isUnmatched field then []
        else if (piecesOf (·.char = '/') marks).any hasWild then
          match words marks with
          | [only] => if only = markText marks then [bitText field] else [only]
          | paths => paths
        else [bitText field]

/-- The one text that a word stands for. -/
def textFor (out : Expansion.Output) (word : Word) : Sh String := do
  return bitText (← Expansion.bits out maxWordDepth { hasHome := true } word)

/-- The value that a word stands for in an assignment. -/
def valueFor (out : Expansion.Output) (word : Word) : Sh String := do
  return bitText (← Expansion.bits out maxWordDepth { hasHome := true, isAssignment := true } word)

/-- The text that a text for input stands for. -/
def documentFor (out : Expansion.Output) (word : Word) : Sh String := do
  return bitText (← Expansion.bits out maxWordDepth {} word)

/-- What traced commands begin with: the first character says how deep the script is. -/
def traceFront : Sh String := do
  let shell ← get
  let front := ((← valueOf? "PS4").getD "").toList
  return String.ofList (List.replicate shell.nesting (front.headD '+') ++ front)

/-- Write a command of the extended language to the error output, if that is asked for. -/
def traceText (text : String) : Sh Unit := do
  if (← hasOption 'x') && (← isExtended) then complainRaw ((← traceFront) ++ text ++ "\n")

/-- Whether marks stand for a text, in a shell that may not tell large letters from small ones. -/
def standsFor (has : List Mark → List Char → Bool) (marks : List Mark) (text : List Char) :
    Sh Bool := do
  if ← hasChoice "nocasematch" then
    return has (marks.map fun m => { m with char := m.char.toLower }) (text.map Char.toLower)
  else return has marks text

/-- The marks that a word stands for in a pattern. -/
def patternFor (out : Expansion.Output) (word : Word) : Sh (List Mark) := do
  Expansion.marksOf (← Expansion.bits out maxWordDepth { hasHome := true } word)

end Sh

end ScriptedShell.Local.Script
