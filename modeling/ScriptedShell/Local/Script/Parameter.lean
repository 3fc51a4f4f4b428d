/-
# Parameters

What parameters stand for when words are expanded: one text, or several for all arguments of a script
and for all items of an array.  What is made of them is bits, some of which can set fields apart.
-/
import ScriptedShell.Local.Script.Arithmetic
import ScriptedShell.Local.Script.Fields
import ScriptedShell.Local.Script.State

namespace ScriptedShell.Local.Script

open Files Text

/-- How the pieces of a word are expanded. -/
structure Manner where
  /-- Whether what is put in can become several fields. -/
  isFields : Bool := false
  /-- Whether the pieces are the word of a parameter: then they are split like what is put in. -/
  isWord : Bool := false
  /-- Whether a home mark at the front is replaced. -/
  hasHome : Bool := false
  /-- Whether home marks after colons are replaced too. -/
  isAssignment : Bool := false
  deriving Repr, DecidableEq

namespace Expansion

/-- A way to run a script for its output. -/
abbrev Output := Command → Sh (List Char)

/-- The bits of a text that is put in. -/
def bitsOf (quoted : Bool) (text : List Char) : List Bit :=
  if quoted then text.map fun c => .char c true false
  else .border false :: text.map fun c => .char c false true

/-- The characters that set fields apart. -/
def separators (shell : Shell) : List Char :=
  match shell.vars.lookup "IFS" with
  | some { value := some text, .. } => text.toList
  | _ => [' ', '\t', '\n']

/-- What stands between arguments that are put in as one text. -/
def joint (shell : Shell) : String :=
  match shell.vars.lookup "IFS" with
  | some { value := some text, .. } => String.ofList (text.toList.take 1)
  | _ => " "

/-- Whether the variable of separators is there. -/
def hasSeparators (shell : Shell) : Bool :=
  ((shell.vars.lookup "IFS").bind (·.value)).isSome

/-! ## Subjects -/

/-- What a parameter is: one text, if it has a value, or several. -/
structure Subject where
  /-- The name that messages tell. -/
  name : String
  /-- The value as one text. -/
  value : Option String
  /-- The texts, if there can be several. -/
  texts : Option (List String) := none
  /-- Whether texts stay apart in quotes. -/
  isEach : Bool := false
  /-- Give the parameter a value. -/
  give : String → Sh Unit

/-- The bits of several texts. -/
def listBits (m : Manner) (isEach : Bool) (texts : List String) (quoted : Bool) :
    Sh (List Bit) := do
  let shell ← get
  if m.isFields && quoted && isEach then
    if texts.isEmpty then return []
    else
      let pieces := texts.map fun t => bitsOf true t.toList
      return .border true :: (pieces.intersperse [.cut]).flatten
  else if m.isFields && !quoted then
    let gap := if hasSeparators shell then "\x00" else " "
    return bitsOf false (String.intercalate gap texts).toList
  else
    let gap := if isEach && shell.isExtended then " " else joint shell
    return bitsOf quoted (String.intercalate gap texts).toList

/-- The subject that a name stands for. -/
def subjectOf (name : String) : Sh Subject := do
  let give := fun text => Sh.assign name text false
  if name = "@" || name = "*" then
    let shell ← get
    let texts := shell.parameters
    let value := if shell.isExtended && texts.isEmpty then none
      else some (String.intercalate (joint shell) texts)
    return { name, value, texts := some texts, isEach := name = "@", give }
  else
    let value ← if name.isEmpty then pure none else Sh.parameter? name
    return { name, value, give }

namespace Subject

/-- Say that the subject has no value, if that is asked for. -/
def demand (p : Subject) : Sh Unit := do
  if p.value.isNone && (← Sh.hasOption 'u') then
    if !((← get).isExtended && p.texts.isSome) then Sh.refuse (.unset p.name)

/-- The bits of the value. -/
def bits (p : Subject) (m : Manner) (quoted : Bool) : Sh (List Bit) :=
  match p.texts with
  | some texts => listBits m p.isEach texts quoted
  | none => return bitsOf quoted (p.value.getD "").toList

/-- The bits of what is made of each text. -/
def bitsMade (p : Subject) (m : Manner) (quoted : Bool) (make : List Char → List Char) :
    Sh (List Bit) := do
  let isExtended ← Sh.isExtended
  match if isExtended then p.texts else none with
  | some texts =>
    listBits m p.isEach (texts.map fun t => String.ofList (make t.toList)) quoted
  | none => return bitsOf quoted (make (p.value.getD "").toList)

/-- The length of the value, or the number of texts. -/
def size (p : Subject) : Sh Nat := do
  let isExtended ← Sh.isExtended
  match if isExtended then p.texts else none with
  | some texts => return texts.length
  | none => return (p.value.getD "").length

end Subject

/-- The marks of a pattern. -/
def marksOf (bits : List Bit) : Sh (List Mark) := do
  let marks := patternMarks bits
  return if ← Sh.isExtended then withCarets marks else marks

/-- The bits that are put in for a use of a subject, where `inner` gives the bits of its word. -/
def usualBits (inner : Manner → Word → Sh (List Bit)) (m : Manner) (p : Subject) (use : Use)
    (word : Word) (quoted : Bool) : Sh (List Bit) := do
  let wordBits := inner
    { m with isWord := true, hasHome := !quoted, isAssignment := false } word
  let wordText := do return bitText (← inner { hasHome := !quoted } word)
  let isMissing := fun (orEmpty : Bool) => p.value.isNone || (orEmpty && p.value = some "")
  match use with
  | .meaningless => Sh.refuse (.meaningless "")
  | .value =>
    p.demand
    if p.value.isNone && p.texts.isNone then return if quoted then [] else [.border false]
    else p.bits m quoted
  | .length =>
    p.demand
    return bitsOf quoted (toString (← p.size)).toList
  | .orElse orEmpty => if isMissing orEmpty then wordBits else p.bits m quoted
  | .instead orEmpty => if isMissing orEmpty then return [] else wordBits
  | .assigned orEmpty =>
    if isMissing orEmpty then
      let text ← wordText
      p.give text
      match p.texts with
      | some _ => p.bits m quoted
      | none => return bitsOf quoted text.toList
    else p.bits m quoted
  | .demanded orEmpty =>
    if isMissing orEmpty then
      let text ← wordText
      Sh.refuse (.demanded p.name orEmpty (if word.isEmpty then none else some text))
    else p.bits m quoted
  | .trimmed atEnd longest =>
    p.demand
    let marks ← marksOf (← inner { hasHome := true } word)
    p.bitsMade m quoted (if atEnd then cutEnd longest marks else cutFront longest marks)

/-- The text without line feeds at its end. -/
def dropFeeds (text : List Char) : List Char := (text.reverse.dropWhile (· = '\n')).reverse

/-- Put the value of an expression in, and make its assignments. -/
def numberOf (text : String) : Sh (List Char) := do
  if ← Sh.isExtended then return (toString (← Sh.compute Sh.maxComputed text)).toList
  let shell ← get
  let value := fun name => (shell.vars.lookup name).bind (·.value)
  match Arithmetic.evaluate value text with
  | .error fault => Sh.fail (fault.message text)
  | .ok (n, assigned) =>
    for (name, n) in assigned do
      Sh.assign name (toString n) false
    return (toString n).toList

end Expansion

end ScriptedShell.Local.Script
