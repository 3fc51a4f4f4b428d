/-
# Shown commands

How commands and words are written when a shell of the extended language shows them: functions with
one command a line, deeper ones further to the right, and words as they stood in the script.
-/
import ScriptedShell.Local.Script.Syntax
import ScriptedShell.Local.Script.Source

namespace ScriptedShell.Local.Script

namespace Shown

/-- The sign of the use of a parameter. -/
def useSign : Use → String
  | .value | .length | .meaningless => ""
  | .orElse orEmpty => mark orEmpty "-"
  | .assigned orEmpty => mark orEmpty "="
  | .instead orEmpty => mark orEmpty "+"
  | .demanded orEmpty => mark orEmpty "?"
  | .trimmed atEnd longest =>
    let sign := if atEnd then "%" else "#"
    if longest then sign ++ sign else sign
where
  /-- A sign, after a colon if an empty value counts as missing. -/
  mark (orEmpty : Bool) (sign : String) : String := if orEmpty then ":" ++ sign else sign

/-- The sign of a redirection to or from a file. -/
def redirectSign : Redirect → String
  | .read => "<"
  | .write => ">"
  | .overwrite => ">|"
  | .append => ">>"
  | .both => "<>"

/-- The beginning of a line. -/
def margin (depth : Nat) : String := String.ofList (List.replicate (4 * depth) ' ')

/-- A text in braces after a dollar sign. -/
def inBraces (text : String) : String := "$\x7b" ++ text ++ "\x7d"

/-- The quote of characters that are shown as they are. -/
def plain : Option Char := some ' '

/-- A character in a word, where `quote` is the quote that is open. -/
def charText (quote : Option Char) (c : Char) (quoted : Bool) : List Char :=
  match quote with
  | some '"' => if "\"$\\`".toList.elem c then ['\\', c] else [c]
  | some _ => [c]
  | none => if quoted then ['\\', c] else [c]

mutual

/-- A word as it stands in a script, where `quote` is the quote that is open. -/
def word (fuel : Nat) (quote : Option Char) (pieces : List Piece) : String :=
  match fuel with
  | 0 => ""
  | fuel + 1 =>
    match pieces with
    | [] => ""
    | .mark q :: rest =>
      let sign := if q = '"' then "\"" else "'"
      sign ++ word fuel (if quote.isNone then some q else none) rest
    | .char c quoted :: rest => String.ofList (charText quote c quoted) ++ word fuel quote rest
    | .parameter name .value _ _ :: rest =>
      let goesOn := match rest with
        | .char c _ :: _ => isNameChar c
        | _ => false
      (if goesOn || 1 < name.length && !isName name.toList then inBraces name else "$" ++ name) ++
        word fuel quote rest
    | piece :: rest => special fuel piece ++ word fuel quote rest

/-- A piece that stands for something else. -/
def special (fuel : Nat) (piece : Piece) : String :=
  match fuel with
  | 0 => ""
  | fuel + 1 =>
    match piece with
    | .char c _ => String.singleton c
    | .mark q => String.singleton q
    | .parameter name .length _ _ => inBraces ("#" ++ name)
    | .parameter name use inner quoted =>
      inBraces (name ++ useSign use ++ word fuel (if quoted then plain else none) inner)
    | .output script _ => "$(" ++ command fuel 0 false script ++ ")"
    | .number expression _ => "$((" ++ word fuel plain expression ++ "))"
    | .refined name index refinement words _ =>
      let index := match index with
        | some index => "[" ++ word fuel none index ++ "]"
        | none => ""
      let texts := words.map (word fuel none)
      inBraces (match refinement with
        | .usual .length => "#" ++ name ++ index
        | .usual use => name ++ index ++ useSign use ++ String.join texts
        | .indirect use => "!" ++ name ++ index ++ useSign use ++ String.join texts
        | .keys => "!" ++ name ++ index
        | .names => "!" ++ name ++ (if index.isEmpty then "*" else "@")
        | .stretch => name ++ index ++ ":" ++ String.intercalate ":" texts
        | .replaced isAll atEnd =>
          let sign := match isAll, atEnd with
            | true, _ => "//"
            | false, some false => "/#"
            | false, some true => "/%"
            | false, none => "/"
          name ++ index ++ sign ++ String.intercalate "/" texts
        | .recased isUpper isAll =>
          let sign := if isUpper then "^" else ","
          name ++ index ++ sign ++ (if isAll then sign else "") ++ String.join texts
        | .transformed letter => name ++ index ++ "@" ++ String.singleton letter
        | .meaningless text => text)
    | .items values => "(" ++ String.intercalate " " (values.map (word fuel none)) ++ ")"
    | .channel script isInput =>
      (if isInput then "<(" else ">(") ++ command fuel 0 false script ++ ")"

/-- A redirection. -/
def redirection (fuel : Nat) (change : Redirection) : String :=
  match fuel with
  | 0 => ""
  | fuel + 1 =>
    let numbered := fun (usual stream : Nat) => if stream = usual then "" else toString stream
    match change with
    | .file kind stream target =>
      numbered (if kind = .read || kind = .both then 0 else 1) stream ++ redirectSign kind ++ " " ++
        word fuel none target
    | .copy stream target =>
      toString stream ++ (if stream = 0 then "<&" else ">&") ++ word fuel none target
    | .document stream _ _ => numbered 0 stream ++ "<<"
    | .text stream target => numbered 0 stream ++ "<<< " ++ word fuel none target
    | .all kind target => "&" ++ redirectSign kind ++ " " ++ word fuel none target

/-- A question in double brackets. -/
def question (fuel : Nat) (asked : Question) : String :=
  match fuel with
  | 0 => ""
  | fuel + 1 =>
    match asked with
    | .unary operator operand => operator ++ " " ++ word fuel none operand
    | .binary operator a b => word fuel none a ++ " " ++ operator ++ " " ++ word fuel none b
    | .negated inner => "! " ++ question fuel inner
    | .both a b => question fuel a ++ " && " ++ question fuel b
    | .either a b => question fuel a ++ " || " ++ question fuel b

/-- A command; commands after each other stand on lines of their own if `hasLines` says so, with a
margin of some depth. -/
def command (fuel : Nat) (depth : Nat) (hasLines : Bool) (c : Command) : String :=
  match fuel with
  | 0 => ""
  | fuel + 1 =>
    let words := fun (ws : List Word) => String.intercalate " " (ws.map (word fuel none))
    let inline := command fuel depth hasLines
    let body := fun (c : Command) =>
      margin (depth + 1) ++ command fuel (depth + 1) hasLines c ++ ";\n"
    let with' := fun (text : String) (changes : List Redirection) =>
      String.intercalate " " (text :: changes.map (redirection fuel))
    let loop := fun (front : String) (c : Command) =>
      front ++ ";\n" ++ margin depth ++ "do\n" ++ body c ++ margin depth ++ "done"
    match c with
    | .nothing => ""
    | .simple _ assignments ws changes =>
      String.intercalate " " ((assignments ++ ws).map (word fuel none) ++
        changes.map (redirection fuel))
    | .piped commands => String.intercalate " | " (commands.map inline)
    | .negated inner => "! " ++ inline inner
    | .sequence first second =>
      match first with
      | .background _ _ => inline first ++ " " ++ inline second
      | first =>
        inline first ++ (if hasLines then ";\n" ++ margin depth else "; ") ++ inline second
    | .both first second => inline first ++ " && " ++ inline second
    | .either first second => inline first ++ " || " ++ inline second
    | .background _ inner => inline inner ++ " &"
    | .subshell _ inner changes => with' ("( " ++ inline inner ++ " )") changes
    | .redirected _ inner changes =>
      match inner, changes with
      | .sequence _ _, _ | .simple _ _ _ _, _ | _, [] =>
        with' ("\x7b \n" ++ margin (depth + 1) ++ command fuel (depth + 1) hasLines inner ++ "\n" ++
          margin depth ++ "\x7d") changes
      | inner, changes => with' (inline inner) changes
    | .choose test yes no =>
      "if " ++ inline test ++ "; then\n" ++ body yes ++
        (match no with
          | .nothing => ""
          | no => margin depth ++ "else\n" ++ body no) ++ margin depth ++ "fi"
    | .loop isUntil test inner =>
      (if isUntil then "until " else "while ") ++ inline test ++ "; do\n" ++ body inner ++
        margin depth ++ "done"
    | .each _ name ws inner => loop ("for " ++ name ++ " in " ++ words ws) inner
    | .menu _ name ws inner => loop ("select " ++ name ++ " in " ++ words ws) inner
    | .count _ first test next inner =>
      "for ((" ++ String.intercalate "; " ([first, test, next].map (word fuel none)) ++ "))\n" ++
        margin depth ++ "do\n" ++ body inner ++ margin depth ++ "done"
    | .select _ subject branches =>
      "case " ++ word fuel none subject ++ " in \n" ++
        String.join (branches.map (branch fuel (depth + 1))) ++ margin depth ++ "esac"
    | .define _ name inner =>
      "function " ++ name ++ " () \n" ++ margin depth ++ block fuel depth inner
    | .question _ asked => "[[ " ++ question fuel asked ++ " ]]"
    | .compute _ expression => "((" ++ word fuel plain expression ++ "))"
    | .timed isPlain inner => "time " ++ (if isPlain then "-p " else "") ++ inline inner

/-- A branch of a selection. -/
def branch (fuel : Nat) (depth : Nat) (b : Branch) : String :=
  match fuel with
  | 0 => ""
  | fuel + 1 =>
    match b with
    | .mk patterns inner ending =>
      let sign := match ending with
        | .done => ";;"
        | .through => ";&"
        | .onward => ";;&"
      margin depth ++ String.intercalate " | " (patterns.map (word fuel none)) ++ ")\n" ++
        margin (depth + 1) ++ command fuel (depth + 1) true inner ++ "\n" ++ margin depth ++ sign ++
        "\n"

/-- The body of a function in braces. -/
def block (fuel : Nat) (depth : Nat) (inner : Command) : String :=
  match fuel with
  | 0 => ""
  | fuel + 1 =>
    "\x7b \n" ++ margin (depth + 1) ++ command fuel (depth + 1) true inner ++ "\n" ++
      margin depth ++ "\x7d"

end

/-- How deep commands are shown. -/
def maxDepth : Nat := 10000

/-- A function as it is shown. -/
def function (name : String) (body : Command) : String :=
  let (body, ending) := match body with
    | .redirected line inner changes =>
      (match inner with
        | .sequence _ _ | .simple _ _ _ _ | .both _ _ | .either _ _ | .piped _ =>
          (inner, String.join (changes.map fun r => " " ++ redirection maxDepth r))
        | inner => if changes.isEmpty then (inner, "") else (.redirected line inner changes, ""))
    | body => (body, "")
  name ++ " () \n" ++ block maxDepth 0 body ++ ending ++ "\n"

end Shown

end ScriptedShell.Local.Script
