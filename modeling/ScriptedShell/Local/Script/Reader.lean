/-
# Reading scripts

The commands that the text of a script makes, read one complete command after the other.  What
stands for the output of a script is read as a script at once, so that words and commands are read
by functions that call each other; a number bounds how deep they do.
-/
import ScriptedShell.Local.Script.Assignment
import ScriptedShell.Local.Script.Printing

namespace ScriptedShell.Local.Script

namespace Reader

/-- Where pieces are read, which says what ends them and what is special among them. -/
inductive Place where
  /-- In a word, up to a character that ends it. -/
  | word
  /-- Between double quotes. -/
  | quoted
  /-- After the use of a parameter, up to the closing brace. -/
  | brace
  /-- The same inside double quotes; `inner` says whether a quote inside is open. -/
  | quotedBrace (inner : Bool)
  /-- In an arithmetic expression with some brackets open. -/
  | number (brackets : Nat)
  /-- In a text for input. -/
  | document
  /-- In a part of a use, up to one of some characters, which is not read. -/
  | part (stops : List Char)
  /-- At the right side of a question, with some brackets open; `isRegex` says whether it is a regular
  expression. -/
  | answer (isRegex : Bool) (brackets : Nat)
  deriving DecidableEq

namespace Place

/-- Whether everything here is quoted. -/
def isQuoted : Place → Bool
  | word | brace | part _ | answer _ _ => false
  | _ => true

/-- Whether a backslash before a character is an escape in quotes. -/
def escapes (place : Place) (c : Char) : Bool :=
  c = '\\' || c = backquote || c = '$' ||
    (c = '"' && place != document) ||
    (c = '\x7d' && match place with
      | quotedBrace _ => true
      | _ => false)

/-- Whether quotes are read here as in words. -/
def hasQuotes : Place → Bool
  | word | brace | part _ | answer _ _ => true
  | _ => false

/-- Whether the pieces end before a character, where `done` has the pieces read so far with the last
one first. -/
def endsBefore (c : Char) (done : Word) : Place → Bool
  | word => endsWord c
  | part stops => stops.elem c
  | answer isRegex 0 =>
    if c = '(' then
      !isRegex && !(match done with
        | .char d false :: _ => "?*+@!".toList.elem d
        | _ => false)
    else endsWord c && !(isRegex && (c = '|' || c = '<' || c = '>'))
  | _ => false

end Place

/-! ## Names and symbols -/

/-- The name of a parameter in braces, and whether its length is meant. -/
def braceName (fuel : Nat) : Reader (Option (String × Bool)) := do
  let cs ← joined
  match cs with
  | '#' :: _ =>
    let _ ← next?
    match ← joined with
    | c :: _ =>
      if isNameStart c then return some (String.ofList (← takeChars isNameChar fuel []), true)
      else if c.isDigit then return some (String.ofList (← takeChars Char.isDigit fuel []), true)
      else if isSpecialParameter c then
        let back ← get
        let _ ← next?
        match ← joined with
        | '\x7d' :: _ => return some (String.singleton c, true)
        | _ => set back; return some ("#", false)
      else return some ("#", false)
    | [] => return some ("#", false)
  | c :: _ =>
    if isNameStart c then return some (String.ofList (← takeChars isNameChar fuel []), false)
    else if c.isDigit then return some (String.ofList (← takeChars Char.isDigit fuel []), false)
    else if isSpecialParameter c then
      let _ ← next?
      return some (String.singleton c, false)
    else return none
  | [] => return none

/-- The use that a mark after the name of a parameter stands for. -/
def useOf? (orEmpty : Bool) : Char → Option Use
  | '-' => some (.orElse orEmpty)
  | '=' => some (.assigned orEmpty)
  | '+' => some (.instead orEmpty)
  | '?' => some (.demanded orEmpty)
  | _ => none

/-- The use of a parameter in braces, after its name; nothing but the closing brace may follow a
length. -/
def braceUse (isLength : Bool) : Reader Use := do
  match ← joined with
  | '\x7d' :: cs => goOn cs; return if isLength then .length else .value
  | c :: cs =>
    if isLength then return .meaningless
    else if c = '%' || c = '#' then
      goOn cs
      return .trimmed (c = '%') (← accept c)
    else if c = ':' then
      goOn cs
      match ← joined with
      | '\x7d' :: _ => return .meaningless
      | d :: cs => goOn cs; return (useOf? true d).getD .meaningless
      | [] => return .meaningless
    else
      goOn cs
      return (useOf? false c).getD .meaningless
  | [] => throw .openBrace

/-- The text up to a mark that no backslash stands before. -/
def backquotedText (inQuotes : Bool) : Nat → List Char → Reader (List Char)
  | 0, _ => throw .openBackquote
  | fuel + 1, done => do
    match ← next? with
    | none => throw .openBackquote
    | some '\\' =>
      match ← rest with
      | [] => backquotedText inQuotes fuel ('\\' :: done)
      | c :: cs =>
        if c = '\n' then goOnBelow cs else goOn cs
        if c = '\\' || c = backquote || c = '$' || (inQuotes && c = '"') then
          backquotedText inQuotes fuel (c :: done)
        else backquotedText inQuotes fuel (c :: '\\' :: done)
    | some c => if c = backquote then return done.reverse else backquotedText inQuotes fuel (c :: done)

/-- The symbols that set commands apart, longer ones first. -/
def operators : Dialect → List String
  | .standard => ["&&", "||", ";;", ";", "&", "|", "(", ")"]
  | .extended => ["&&", "||", ";;&", ";;", ";&", ";", "&", "|&", "|", "(", ")"]

/-- The symbols that change streams, longer ones first. -/
def redirects : Dialect → List String
  | .standard => ["<<-", "<<", ">>", "<&", ">&", ">|", "<>", "<", ">"]
  | .extended =>
    ["<<<", "<<-", "<<", ">>", "<&", ">&", ">|", "<>", "<", ">", "&>>", "&>"]

/-- Read one of some symbols. -/
def acceptSymbol (symbols : List String) : Reader (Option String) := do
  match symbols with
  | [] => return none
  | s :: others =>
    let back ← get
    for c in s.toList do
      if !(← accept c) then
        set back
        return ← acceptSymbol others
    return some s

/-- Read something that a mark has to close, which began in a line. -/
def closing (mark : String) (line : Nat) (act : Reader α) : Reader α := do
  try act catch fault =>
    match fault with
    | .openQuote | .openNumber | .openBrace | .openBackquote => unclosed fault mark line
    | fault => throw fault

/-- Pass over gaps and comments. -/
def skipGaps : Nat → Reader Unit
  | 0 => return ()
  | fuel + 1 => do
    match ← joined with
    | c :: cs =>
      if isGap c then goOn cs; skipGaps fuel
      else if c = '#' then goOn (cs.dropWhile (· != '\n')); skipGaps fuel
      else return ()
    | [] => return ()

/-- The alias that a word stands for, unless its text is being read already: `before` is what was
left when the word began. -/
def aliasOf? (text : String) (before : Nat) : Reader (Option String) := do
  let r ← get
  if r.replaced.any fun (name, left) => name = text && left < before then return none
  else return r.aliases.lookup text

/-- Put the text of an alias in front of what is left. -/
def replaceBy (name text : String) : Reader Unit :=
  modify fun r => { r with
    rest := text.toList ++ r.rest
    replaced := (name, r.rest.length) :: r.replaced }

/-- Whether the text of an alias that ends with a gap has just been read. -/
def isAfterAlias (before : Nat) : Reader Bool := do
  let r ← get
  let isPassed := fun (p : String × Nat) => before ≤ p.2
  let ended := r.replaced.filter isPassed
  set { r with replaced := r.replaced.filter fun p => !isPassed p }
  return ended.any fun (name, _) => ((r.aliases.lookup name).getD "").toList.getLast?.any isGap

/-- What stands for the arguments of a script. -/
def allArguments : Word := [.parameter "@" .value [] true]

/-- Whether an index means all items of an array, set apart from each other. -/
def isEach (index : Word) : Bool := plainText? index = some "@"

/-- Whether a piece can stand for no word at all even in quotes. -/
def isListed : Piece → Bool
  | .parameter "@" .value [] _ => true
  | .refined name index refinement _ _ =>
    (name = "@" || index.any isEach || refinement = .names) && refinement != .usual .length
  | _ => false

/-! ## Expressions and questions -/

/-- Whether the bracket that is open at the front of a text is closed together with the one that was
opened before it, and not apart from it. -/
def closesTwice : Nat → List Char → Bool
  | _, [] => true
  | depth, '\\' :: _ :: cs => closesTwice depth cs
  | depth, '(' :: cs => closesTwice (depth + 1) cs
  | 0, ')' :: cs => cs.head? = some ')'
  | depth + 1, ')' :: cs => closesTwice depth cs
  | depth, _ :: cs => closesTwice depth cs

/-- The operators of one operand in questions. -/
def questionUnaries : List String :=
  ["-a", "-b", "-c", "-d", "-e", "-f", "-g", "-h", "-k", "-n", "-o", "-p", "-r", "-s", "-t", "-u",
    "-v", "-w", "-x", "-z", "-G", "-L", "-N", "-O", "-R", "-S"]

/-- The operators of two operands in questions. -/
def questionBinaries : List String :=
  ["=", "==", "!=", "=~", "-eq", "-ne", "-lt", "-le", "-gt", "-ge", "-nt", "-ot", "-ef"]

/-! ## Words and commands -/

mutual

/-- Pieces up to what ends them here; `done` has those read so far, the last one first. -/
def pieces (fuel : Nat) (place : Place) (done : Word) : Reader Word :=
  match fuel with
  | 0 => throw .openQuote
  | fuel + 1 => do
    let add := fun (p : Piece) => pieces fuel place (p :: done)
    let addQuoted := fun (quote : Char) (inner : Word) =>
      pieces fuel place (.mark quote :: inner.reverse ++ .mark quote :: done)
    match ← joined with
    | [] =>
      match place with
      | .word | .document | .answer _ _ => return done.reverse
      | .quoted => throw .openQuote
      | .number _ => throw .openNumber
      | .brace | .part _ => throw .openBrace
      | .quotedBrace _ => throw .openQuote
    | c :: cs =>
      let isChannel := (c = '<' || c = '>') && cs.head? = some '(' && place = .word &&
        (← isExtended)
      if place.endsBefore c done && !isChannel then return done.reverse
      else if isChannel then
        goOn (cs.drop 1)
        add (.channel (← scriptInBrackets fuel) (c = '<'))
      else
        if c = '\n' then goOnBelow cs else goOn cs
        if c = '\\' then
          match cs with
          | [] => add (.char '\\' true)
          | d :: cs =>
            goOn cs
            if place.isQuoted && !place.escapes d then
              pieces fuel place (.char d true :: .char '\\' true :: done)
            else add (.char d true)
        else if c = '$' && place.hasQuotes && cs.head? = some '\'' && (← isExtended) then
          match escapedText (cs.length + 1) [] (cs.drop 1) with
          | none => unclosed .openQuote "'" (← get).line
          | some (text, after) =>
            let passed := (cs.take (cs.length - after.length)).count '\n'
            modify fun r => { r with rest := after, line := r.line + passed }
            addQuoted '$' (text.map fun c => .char c true)
        else if c = '$' && place.hasQuotes && cs.head? = some '"' && (← isExtended) then
          pieces fuel place done
        else if c = '$' then
          match ← dollar fuel place with
          | some piece => add piece
          | none => add (.char '$' place.isQuoted)
        else if c = backquote then
          let line := (← get).line
          let text ← closing (String.singleton backquote) line
            (backquotedText place.isQuoted fuel [])
          add (.output (← enclosedScript fuel text) place.isQuoted)
        else if c = '\'' && place.hasQuotes then
            match cs.span (· != '\'') with
            | (inner, _ :: after) =>
              modify fun r => { r with rest := after, line := r.line + inner.count '\n' }
              addQuoted '\'' (inner.map fun c => .char c true)
            | _ =>
              let line := (← get).line
              modify fun r => { r with rest := [], line := r.line + cs.count '\n' }
              unclosed .openQuote "'" line
        else if c = '"' && place.hasQuotes then
          let line := (← get).line
          let inner ← closing "\"" line (pieces fuel .quoted [])
          match inner with
          | [piece] => if isListed piece then add piece else addQuoted '"' inner
          | inner => addQuoted '"' inner
        else match place, c with
          | .quoted, '"' => return done.reverse
          | .quotedBrace inner, '"' => pieces fuel (.quotedBrace (!inner)) (.mark c :: done)
          | .brace, '\x7d' | .quotedBrace false, '\x7d' => return done.reverse
          | .number brackets, '(' => pieces fuel (.number (brackets + 1)) (.char c true :: done)
          | .number (brackets + 1), ')' => pieces fuel (.number brackets) (.char c true :: done)
          | .number 0, ')' => if ← accept ')' then return done.reverse else add (.char ')' true)
          | .answer isRegex brackets, '(' =>
            pieces fuel (.answer isRegex (brackets + 1)) (.char c false :: done)
          | .answer isRegex (brackets + 1), ')' =>
            pieces fuel (.answer isRegex brackets) (.char c false :: done)
          | _, _ => add (.char c place.isQuoted)

/-- The piece after a dollar sign, if there is one. -/
def dollar (fuel : Nat) (place : Place) : Reader (Option Piece) :=
  match fuel with
  | 0 => return none
  | fuel + 1 => do
    let quoted := place.isQuoted
    match ← joined with
    | '(' :: cs =>
      goOn cs
      let line := (← get).line
      let dialect := (← get).dialect
      let isNumber : Bool := match ← joined with
        | '(' :: cs => dialect = .standard || closesTwice 0 cs
        | _ => false
      if isNumber then
        let _ ← accept '('
        return some (.number (← closing ")" line (pieces fuel (.number 0) [])) quoted)
      else return some (.output (← scriptInBrackets fuel) quoted)
    | '\x7b' :: cs =>
      goOn cs
      if ← isExtended then
        let line := (← get).line
        return some (← closing "\x7d" line (refinedBrace fuel place))
      match ← braceName (fuel + 1) with
      | none => return some (.parameter "" .meaningless (← pieces fuel (braceIn place false) []) quoted)
      | some (name, isLength) =>
        match ← braceUse isLength with
        | .value => return some (.parameter name .value [] quoted)
        | .length => return some (.parameter name .length [] quoted)
        | .trimmed atEnd longest =>
          return some (.parameter name (.trimmed atEnd longest) (← pieces fuel .brace []) quoted)
        | use => return some (.parameter name use (← pieces fuel (braceIn place false) []) quoted)
    | c :: cs =>
      if c = '[' && (← isExtended) then
        goOn cs
        let line := (← get).line
        let expression ← closing "]" line (pieces fuel (.part [']']) [])
        let _ ← accept ']'
        return some (.number expression quoted)
      else if isNameStart c then
        return some (.parameter (String.ofList (← takeChars isNameChar (fuel + 1) [])) .value []
          quoted)
      else if isSpecialParameter c then
        goOn cs
        return some (.parameter (String.singleton c) .value [] quoted)
      else return none
    | [] => return none
where
  /-- Where the word after a use is read. -/
  braceIn (place : Place) (inner : Bool) : Place :=
    if place.isQuoted then .quotedBrace inner else .brace

/-- The script up to a closing bracket. -/
def scriptInBrackets (fuel : Nat) : Reader Command :=
  match fuel with
  | 0 => return .nothing
  | fuel + 1 => do
    let announced := (← get).announced
    modify fun r => { r with announced := [] }
    let script ← commands fuel 2 .nothing
    documents fuel
    modify fun r => { r with announced }
    let t ← token fuel false false false
    if !t.isOperator ")" then
      match t with
      | .textEnd => unclosed (.unexpected t.symbol (some "\")\"")) ")" (← get).line
      | _ => unexpected (some "\")\"")
    modify fun r => { r with isPushed := false }
    return script

/-- What the extended language makes of a parameter in braces; the opening brace has been read. -/
def refinedBrace (fuel : Nat) (place : Place) : Reader Piece :=
  match fuel with
  | 0 => throw .openBrace
  | fuel + 1 => do
    let before ← get
    let quoted := place.isQuoted
    let inBraces : Place := if quoted then .quotedBrace false else .brace
    let meaningless : Reader Piece := do
      set before
      let _ ← pieces fuel inBraces []
      let text := before.rest.take (before.rest.length - (← rest).length)
      return .refined "" none (.meaningless (String.ofList ('$' :: '\x7b' :: text))) [] quoted
    let isIndirect ← match ← joined with
      | '!' :: c :: after =>
        if isNameStart c || c.isDigit || (c = '#' && after.head? = some '\x7d') then accept '!'
        else pure false
      | _ => pure false
    match ← braceName (fuel + 1) with
    | none => meaningless
    | some (name, isLength) =>
      let index ← if isName name.toList && (← accept '[') then do
          let index ← pieces fuel (.part [']']) []
          let _ ← accept ']'
          pure (some index)
        else pure none
      let isList := index.any fun i => plainText? i = some "@" || plainText? i = some "*"
      let finish := fun (refinement : Refinement) (words : List Word) =>
        match refinement, index, isIndirect with
        | .usual use, none, false =>
          let trims := match use with
            | .trimmed _ _ => name = "@" || name = "*"
            | _ => false
          if trims then Piece.refined name none refinement words quoted
          else Piece.parameter name use (words.headD []) quoted
        | .usual use, none, true => Piece.refined name none (.indirect use) words quoted
        | refinement, index, _ => Piece.refined name index refinement words quoted
      match ← joined with
      | '\x7d' :: cs =>
        goOn cs
        if isLength then return finish (.usual .length) []
        else if isIndirect && isList then return finish .keys []
        else return finish (.usual .value) []
      | c :: cs =>
        if isLength then meaningless
        else if isIndirect && (c = '*' || c = '@') && cs.head? = some '\x7d' then
          goOn (cs.drop 1)
          return .refined name (if c = '@' then some (plainWord "@") else none) .names [] quoted
        else match c with
          | ':' =>
            goOn cs
            match (← joined).head?.bind (useOf? true) with
            | some use =>
              let _ ← next?
              return finish (.usual use) [← pieces fuel inBraces []]
            | none =>
              let offset ← pieces fuel (.part [':', '\x7d']) []
              if ← accept ':' then
                let size ← pieces fuel (.part ['\x7d']) []
                let _ ← accept '\x7d'
                return finish .stretch [offset, size]
              else
                let _ ← accept '\x7d'
                return finish .stretch [offset]
          | '%' | '#' =>
            goOn cs
            let longest ← accept c
            return finish (.usual (.trimmed (c = '%') longest)) [← pieces fuel .brace []]
          | '/' =>
            goOn cs
            let isAll ← accept '/'
            let atEnd ← if isAll then pure none
              else if ← accept '#' then pure (some false)
              else if ← accept '%' then pure (some true)
              else pure none
            let front ← if ← accept '/' then pure [.char '/' true] else pure []
            let what ← pieces fuel (.part ['/', '\x7d']) []
            let by' ← if ← accept '/' then pieces fuel (.part ['\x7d']) [] else pure []
            let _ ← accept '\x7d'
            return finish (.replaced isAll atEnd) [front ++ what, by']
          | '^' | ',' =>
            goOn cs
            let isAll ← accept c
            return finish (.recased (c = '^') isAll) [← pieces fuel .brace []]
          | '@' =>
            match cs with
            | letter :: '\x7d' :: cs =>
              goOn cs
              return finish (.transformed letter) []
            | _ => meaningless
          | c =>
            match useOf? false c with
            | some use =>
              goOn cs
              return finish (.usual use) [← pieces fuel inBraces []]
            | none => meaningless
      | [] => throw .openBrace

/-- Questions one of which must hold. -/
def questions (fuel : Nat) : Reader Question :=
  match fuel with
  | 0 => unexpected none
  | fuel + 1 => do
    let first ← allQuestions fuel
    if (← token fuel true false false).isOperator "||" then
      return .either first (← questions fuel)
    else
      pushBack
      return first

/-- Questions that must all hold. -/
def allQuestions (fuel : Nat) : Reader Question :=
  match fuel with
  | 0 => unexpected none
  | fuel + 1 => do
    let first ← oneQuestion fuel
    if (← token fuel true false false).isOperator "&&" then
      return .both first (← allQuestions fuel)
    else
      pushBack
      return first

/-- One question, or questions in brackets. -/
def oneQuestion (fuel : Nat) : Reader Question :=
  match fuel with
  | 0 => unexpected none
  | fuel + 1 => do
    match ← token fuel true false false with
    | .operator "(" =>
      let inner ← questions fuel
      if !(← token fuel true false false).isOperator ")" then
        throw (.badQuestion (some "expected `)'") (← lastText))
      return inner
    | .word word _ =>
      let shown ← lastText
      let first := (plainText? word).getD ""
      if first = "]]" then throw (.badQuestion none first)
      else if first = "!" then return .negated (← oneQuestion fuel)
      else if questionUnaries.elem first then
        match ← token fuel false false false with
        | .word operand _ =>
          if plainText? operand != some "]]" then return .unary first operand
          else wrong "]]" "unary" "]]"
        | _ => wrong (← lastText) "unary" first
      else
        match ← token fuel false false false with
        | .redirect none symbol =>
          if symbol = "<" || symbol = ">" then questionWith fuel symbol word
          else throw (.badQuestion none symbol)
        | .word operator _ =>
          let operator := (plainText? operator).getD ""
          if questionBinaries.elem operator then questionWith fuel operator word
          else if operator = "]]" then
            pushBack
            return .unary "-n" word
          else
            let shown ← lastText
            throw (.badQuestion (some "conditional binary operator expected") shown)
        | t =>
          if t.isOperator "&&" || t.isOperator "||" || t.isOperator ")" then
            pushBack
            return .unary "-n" word
          else
            let found ← lastText
            throw (.badQuestion
              (some ("unexpected token `" ++ found ++ "', conditional binary operator expected"))
              (if t.symbol = "newline" then shown else found))
    | .textEnd => throw .early
    | _ => throw (.badQuestion none (← lastText))
where
  /-- Say that an operand is none. -/
  wrong (found kind shown : String) : Reader Question :=
    throw (.badQuestion
      (some ("unexpected argument `" ++ found ++ "' to conditional " ++ kind ++ " operator"))
      shown)

/-- The question that an operator asks about a word and the one that follows. -/
def questionWith (fuel : Nat) (operator : String) (first : Word) : Reader Question :=
  match fuel with
  | 0 => unexpected none
  | fuel + 1 => do
    let wrong : Reader Question := do
      let found ← lastText
      throw (.badQuestion
        (some ("unexpected argument `" ++ found ++ "' to conditional binary operator")) operator)
    if ["=", "==", "!=", "=~"].elem operator then
      skipGaps (fuel + 1)
      match ← pieces fuel (.answer (operator = "=~") 0) [] with
      | [] =>
        let _ ← token fuel false false false
        wrong
      | second => return .binary operator first second
    else
      match ← token fuel false false false with
      | .word second _ => return .binary operator first second
      | _ => wrong

/-- The values of an array up to the closing bracket, after those read so far with the last one
first. -/
def arrayItems (fuel : Nat) (done : List Word) : Reader (List Word) :=
  match fuel with
  | 0 => return done.reverse
  | fuel + 1 => do
    match ← token fuel true false false with
    | .word word _ => arrayItems fuel ((← withItems fuel word) :: done)
    | t => if t.isOperator ")" then return done.reverse else unexpected none

/-- A word with the values of an array after it, if it ends with the sign of an assignment and they
follow. -/
def withItems (fuel : Nat) (word : Word) : Reader Word :=
  match fuel with
  | 0 => return word
  | fuel + 1 => do
    let endsWithSign := match word.getLast? with
      | some (.char '=' false) => true
      | _ => false
    if endsWithSign && (← isExtended) then
      if ← accept '(' then
        let values ← arrayItems fuel []
        return word ++ [.items values]
    return word

/-- The loop over numbers after its keyword and two brackets. -/
def countLoop (fuel line : Nat) : Reader Command :=
  match fuel with
  | 0 => return .nothing
  | fuel + 1 => do
    let first ← pieces fuel (.part [';']) []
    let _ ← accept ';'
    let test ← pieces fuel (.part [';']) []
    let _ ← accept ';'
    let next ← closing ")" line (pieces fuel (.number 0) [])
    let t ← token fuel true true true
    if !t.isOperator ";" then pushBack
    return .count line first test next (← loopBody fuel)

/-- The body of a loop over words. -/
def loopBody (fuel : Nat) : Reader Command :=
  match fuel with
  | 0 => return .nothing
  | fuel + 1 => do
    let t ← token fuel true true true
    let isBraced := t.isReserved "\x7b" && (← isExtended)
    if !isBraced && !t.isReserved "do" then unexpected (some "\"do\"")
    let body ← commands fuel 0 .nothing
    expect fuel (.reserved (if isBraced then "\x7d" else "done"))
    return body

/-- The script that a text inside a script is. -/
def enclosedScript (fuel : Nat) (text : List Char) : Reader Command :=
  match fuel with
  | 0 => return .nothing
  | fuel + 1 => do
    let before ← get
    set { before with
      rest := text, source := text, announced := [], isPushed := false, replaced := [] }
    let script ← commands fuel 2 .nothing
    documents fuel
    modify fun r => { r with
      rest := before.rest, source := before.source, announced := before.announced, isPushed := before.isPushed,
      replaced := before.replaced, line := before.line }
    return script

/-- Read the texts for input that have been announced. -/
def documents (fuel : Nat) : Reader Unit :=
  match fuel with
  | 0 => return ()
  | fuel + 1 => do
    match (← get).announced with
    | [] => return ()
    | a :: others =>
      modify fun r => { r with announced := others }
      let text ← readDocument a
      if a.expands then
        let before ← get
        set { before with rest := text, announced := [] }
        let word ← pieces fuel .document []
        modify fun r => { r with
          rest := before.rest, announced := before.announced, line := before.line }
        keepDocument a.number word
      else keepDocument a.number (text.map fun c => .char c true)
      documents fuel

/-- The next token.  Line ends before it can be passed over, and a word can be a reserved word or an
alias. -/
def token (fuel : Nat) (passesLines reserves replaces : Bool) : Reader Token :=
  match fuel with
  | 0 => return .textEnd
  | fuel + 1 => do
    let r ← get
    let found ← if r.isPushed then
        set { r with isPushed := false }
        pure (r.last, r.before)
      else newToken fuel
    let keep := fun (t : Token) => do
      modify fun r => { r with last := t, before := found.2 }
      return t
    match found with
    | (.lineEnd, _) =>
      if passesLines then
        documents fuel
        token fuel passesLines reserves replaces
      else keep .lineEnd
    | (.word word false, before) =>
      let isNext ← isAfterAlias before
      match plainText? word with
      | none => keep (.word word false)
      | some text =>
        if reserves && (reservedIn r.dialect).elem text then keep (.reserved text)
        else if replaces || isNext then
          match ← aliasOf? text before with
          | some value =>
            replaceBy text value
            token fuel passesLines reserves replaces
          | none => keep (.word word false)
        else keep (.word word false)
    | (t, _) => keep t

/-- The next token as it is written, and how much was left before it. -/
def newToken (fuel : Nat) : Reader (Token × Nat) :=
  match fuel with
  | 0 => return (.textEnd, 0)
  | fuel + 1 => do
    skipGaps (fuel + 1)
    let cs ← joined
    let before := cs.length
    modify fun r => { r with tokenLine := r.line }
    match cs with
    | [] => return (.textEnd, before)
    | '\n' :: cs => goOnBelow cs; return (.lineEnd, before)
    | cs =>
      let dialect := (← get).dialect
      let (digits, after) := cs.span Char.isDigit
      let stream := if !digits.isEmpty && (digits.length = 1 || dialect = .extended) &&
          (after.head?.any fun d => d = '<' || d = '>') then
          some (Text.digitsValue digits) else none
      if stream.isSome then goOn after
      let isChannel := stream.isNone && dialect = .extended && match cs with
        | c :: '(' :: _ => c = '<' || c = '>'
        | _ => false
      let read : Reader Token := do
        let word ← pieces fuel .word []
        let isQuoted := word.any fun p => match p with
          | .mark _ => true
          | .char _ quoted => quoted
          | .parameter "@" .value [] true => true
          | _ => false
        return .word word isQuoted
      if isChannel then return (← read, before)
      match ← acceptSymbol (redirects dialect) with
      | some symbol => return (.redirect stream symbol, before)
      | none =>
        match ← acceptSymbol (operators dialect) with
        | some symbol => return (.operator symbol, before)
        | none => return (← read, before)

/-- Commands one after the other.  At the top (`level` 1) they end with the line; else line ends are
passed over, and with `level` 2 there may be none. -/
def commands (fuel : Nat) (level : Nat) (done : Command) : Reader Command :=
  match fuel with
  | 0 => return done
  | fuel + 1 => do
    let isTop := level = 1 || level = 3
    let t ← token fuel (!isTop) true true
    match t with
    | .lineEnd =>
      documents fuel
      return done
    | .textEnd =>
      documents fuel
      pushBack
      return done
    | t =>
      pushBack
      if level = 2 && t.endsList then return done
      else
        let next ← conditions fuel
        let after ← token fuel false false false
        let line := (← get).line
        let next := if after.isOperator "&" then .background line next else next
        let all := match done with
          | .nothing => next
          | done => .sequence done next
        let level := if isTop then 3 else 2
        match after with
        | .textEnd =>
          documents fuel
          pushBack
          return all
        | .lineEnd =>
          pushBack
          commands fuel level all
        | after =>
          if after.isOperator ";" || after.isOperator "&" then commands fuel level all
          else
            if isTop then unexpected none
            pushBack
            return all

/-- Pipelines joined by conditions on success. -/
def conditions (fuel : Nat) : Reader Command :=
  match fuel with
  | 0 => return .nothing
  | fuel + 1 => do moreConditions fuel (← pipeline fuel true)

/-- A first command with the pipelines that are joined to it by conditions on success. -/
def moreConditions (fuel : Nat) (first : Command) : Reader Command :=
  match fuel with
  | 0 => return first
  | fuel + 1 => do
    let t ← token fuel false false false
    if t.isOperator "&&" then
      moreConditions fuel (.both first (← pipeline fuel false))
    else if t.isOperator "||" then
      moreConditions fuel (.either first (← pipeline fuel false))
    else
      pushBack
      return first

/-- Commands joined by pipes; before the first of them line ends have been passed over or are passed
over now. -/
def pipeline (fuel : Nat) (isFirst : Bool) : Reader Command :=
  match fuel with
  | 0 => return .nothing
  | fuel + 1 => do
    let t ← token fuel (!isFirst) true true
    if t.isReserved "time" then
      let isPlain : Bool := match ← token fuel false true true with
        | .word word _ => plainText? word = some "-p"
        | _ => false
      if !isPlain then pushBack
      return .timed isPlain (← pipeline fuel true)
    let isNegated := t.isReserved "!"
    if isNegated then
      let t ← token fuel false true true
      if t.isReserved "!" && (← isExtended) then
        pushBack
        return .negated (← pipeline fuel true)
    pushBack
    let first ← command fuel
    let all ← morePiped fuel [first]
    return if isNegated then .negated all else all

/-- The commands of a pipeline, the last one first, with those that follow. -/
def morePiped (fuel : Nat) (done : List Command) : Reader Command :=
  match fuel with
  | 0 => return .nothing
  | fuel + 1 => do
    let t ← token fuel false false false
    if t.isOperator "|" || t.isOperator "|&" then
      let line := (← get).line
      let done := if t.isOperator "|" then done
        else match done with
          | .simple line assignments words changes :: others =>
            .simple line assignments words (changes ++ [.copy 2 (plainWord "1")]) :: others
          | last :: others => .redirected line last [.copy 2 (plainWord "1")] :: others
          | [] => []
      let _ ← token fuel true true true
      pushBack
      morePiped fuel ((← command fuel) :: done)
    else
      pushBack
      match done with
      | [only] => return only
      | done => return .piped done.reverse

/-- One command with its redirections; its first token is to be read again. -/
def command (fuel : Nat) : Reader Command :=
  match fuel with
  | 0 => return .nothing
  | fuel + 1 => do
    let line := (← get).line
    match ← token fuel false false false with
    | .word _ _ | .redirect _ _ =>
      pushBack
      simple fuel line [] [] [] true
    | .operator "(" =>
      let dialect := (← get).dialect
      let computes : Bool := match ← joined with
        | '(' :: cs => dialect = .extended && closesTwice 0 cs
        | _ => false
      if computes then
        let _ ← accept '('
        let expression ← closing ")" line (pieces fuel (.number 0) [])
        redirected fuel line (.compute line expression)
      else
        let body ← commands fuel 0 .nothing
        expect fuel (.operator ")")
        return .subshell line body (← redirections fuel [])
    | .reserved "\x7b" =>
      let body ← commands fuel 0 .nothing
      expect fuel (.reserved "\x7d")
      if ← isExtended then return .redirected line body (← redirections fuel [])
      redirected fuel line body
    | .reserved "if" =>
      redirected fuel line (← choice fuel)
    | .reserved word =>
      if word = "while" || word = "until" then
        let test ← commands fuel 0 .nothing
        expect fuel (.reserved "do")
        let body ← commands fuel 0 .nothing
        expect fuel (.reserved "done")
        redirected fuel line (.loop (word = "until") test body)
      else if word = "for" then redirected fuel line (← eachLoop fuel line)
      else if word = "case" then redirected fuel line (← selection fuel line)
      else if word = "select" then
        match ← eachLoop fuel line with
        | .each line name words body => redirected fuel line (.menu line name words body)
        | other => redirected fuel line other
      else if word = "[[" then
        let asked ← questions fuel
        match ← token fuel true false false with
        | .word word _ =>
          if plainText? word != some "]]" then
            throw (.badQuestion (some "syntax error in conditional expression") (← lastText))
        | .textEnd => throw (.openQuestion line)
        | _ => throw (.badQuestion (some "syntax error in conditional expression") (← lastText))
        redirected fuel line (.question line asked)
      else if word = "function" then
        match ← token fuel false false false with
        | .word word _ =>
          let t ← token fuel true true true
          if t.isOperator "(" then
            expect fuel (.operator ")")
            let _ ← token fuel true true true
          pushBack
          return .define line ((literalText? word).getD "") (← command fuel)
        | _ => unexpected none
      else unexpected none
    | _ => unexpected none

/-- Read a token that must come next, which can be reserved. -/
def expect (fuel : Nat) (wanted : Token) : Reader Unit :=
  match fuel with
  | 0 => return ()
  | fuel + 1 => do
    let t ← token fuel false true false
    let isWanted := match wanted with
      | .operator s => t.isOperator s
      | .reserved s => t.isReserved s
      | _ => false
    if !isWanted then unexpected (some wanted.symbol)

/-- A compound command with the redirections after it. -/
def redirected (fuel line : Nat) (body : Command) : Reader Command :=
  match fuel with
  | 0 => return body
  | fuel + 1 => do
    match ← redirections fuel [] with
    | [] => return body
    | changes => return .redirected line body changes

/-- Redirections, after those read so far with the last one first. -/
def redirections (fuel : Nat) (done : List Redirection) : Reader (List Redirection) :=
  match fuel with
  | 0 => return done.reverse
  | fuel + 1 => do
    match ← token fuel false true true with
    | .redirect stream symbol => redirections fuel ((← redirection fuel stream symbol) :: done)
    | _ =>
      pushBack
      return done.reverse

/-- The redirection that a symbol and the word after it make. -/
def redirection (fuel : Nat) (stream : Option Nat) (symbol : String) : Reader Redirection :=
  match fuel with
  | 0 => unexpected none
  | fuel + 1 => do
    let isInput := symbol.toList.head? = some '<'
    let n := stream.getD (if isInput then 0 else 1)
    match ← token fuel false false false with
    | .word word isQuoted =>
      if symbol = "<<<" then return .text n word
      else if symbol = "&>" then return .all .write word
      else if symbol = "&>>" then return .all .append word
      else if symbol = "<<" || symbol = "<<-" then
        let ending := (literalText? word).getD ""
        return .document n (← announce ending (symbol = "<<-") (!isQuoted)) (!isQuoted)
      else if symbol = ">&" || symbol = "<&" then
        let isFixed := match plainText? word with
          | some text => text = "-" || (text.length = 1 && text.toList.all Char.isDigit)
          | none => true
        if isFixed || (← isExtended) then return .copy n word else throw .badStream
      else
        let kind : Redirect :=
          if symbol = ">>" then .append
          else if symbol = ">|" then .overwrite
          else if symbol = "<>" then .both
          else if isInput then .read
          else .write
        return .file kind n word
    | _ => unexpected none

/-- A simple command, with its parts read so far, the last ones first.  While `early` holds, words
can assign variables or be aliases. -/
def simple (fuel line : Nat) (assignments words : List Word) (changes : List Redirection)
    (early : Bool) : Reader Command :=
  match fuel with
  | 0 => return .nothing
  | fuel + 1 => do
    match ← token fuel false false early with
    | .word word _ =>
      let dialect := (← get).dialect
      let isAssignment := (assignmentOf? dialect word).isSome
      let declares := match words.getLast?.bind plainText? with
        | some name => dialect = .extended && extendedDeclarers.elem name
        | none => false
      let word ← if isAssignment && (early || declares) then withItems fuel word else pure word
      if early && isAssignment then
        simple fuel line (word :: assignments) words changes true
      else simple fuel line assignments (word :: words) changes false
    | .redirect stream symbol =>
      let change ← redirection fuel stream symbol
      simple fuel line assignments words (change :: changes) early
    | .operator "(" =>
      match words, assignments, changes with
      | [word], [], [] =>
        expect fuel (.operator ")")
        let dialect := (← get).dialect
        match (plainText? word).filter fun text =>
            dialect = .extended || (isName text.toList && !isSpecial text) with
        | none => throw .badFunctionName
        | some name =>
          let line := (← get).line
          let t ← token fuel true true true
          let isCompound := match t with
            | .reserved _ => true
            | t => t.isOperator "("
          if dialect = .extended && !isCompound then unexpected none
          pushBack
          return .define line name (← command fuel)
      | _, _, _ => finish
    | _ => finish
where
  /-- The command is complete. -/
  finish : Reader Command := do
    pushBack
    return .simple line assignments.reverse words.reverse changes.reverse
  /-- Whether a command of the shell has a name that no function can have. -/
  isSpecial (name : String) : Bool :=
    [".", ":", "break", "continue", "eval", "exec", "exit", "export", "readonly", "return", "set",
      "shift", "times", "trap", "unset"].elem name

/-- A choice after its first keyword. -/
def choice (fuel : Nat) : Reader Command :=
  match fuel with
  | 0 => return .nothing
  | fuel + 1 => do
    let test ← commands fuel 0 .nothing
    expect fuel (.reserved "then")
    let yes ← commands fuel 0 .nothing
    match ← token fuel false true false with
    | .reserved "elif" => return .choose test yes (← choice fuel)
    | .reserved "else" =>
      let no ← commands fuel 0 .nothing
      expect fuel (.reserved "fi")
      return .choose test yes no
    | _ =>
      pushBack
      expect fuel (.reserved "fi")
      return .choose test yes .nothing

/-- A loop over words after its keyword. -/
def eachLoop (fuel line : Nat) : Reader Command :=
  match fuel with
  | 0 => return .nothing
  | fuel + 1 => do
    let isCount : Bool := match ← joined with
      | '(' :: '(' :: _ => true
      | ' ' :: '(' :: '(' :: _ => true
      | _ => false
    if isCount && (← isExtended) then
      skipGaps (fuel + 1)
      let _ ← acceptSymbol ["(("]
      return ← countLoop fuel line
    match ← token fuel false false false with
    | .word word false =>
      let dialect := (← get).dialect
      match (plainText? word).filter fun text =>
          dialect = .extended || isName text.toList with
      | none => throw .badLoopVariable
      | some name =>
        let t ← token fuel true true true
        let words ← if t.isReserved "in" then do
            let words ← loopWords fuel []
            let last := (← get).last
            let isEnd := match last with
              | .lineEnd => true
              | t => t.isOperator ";"
            if !isEnd then unexpected none
            pure words
          else do
            if !t.isOperator ";" then pushBack
            pure [allArguments]
        return .each line name words (← loopBody fuel)
    | _ => if ← isExtended then unexpected none else throw .badLoopVariable

/-- The words of a loop, after those read so far with the last one first. -/
def loopWords (fuel : Nat) (done : List Word) : Reader (List Word) :=
  match fuel with
  | 0 => return done.reverse
  | fuel + 1 => do
    match ← token fuel false false false with
    | .word word _ => loopWords fuel (word :: done)
    | _ => return done.reverse

/-- A selection after its keyword. -/
def selection (fuel line : Nat) : Reader Command :=
  match fuel with
  | 0 => return .nothing
  | fuel + 1 => do
    match ← token fuel false false false with
    | .word subject _ =>
      let t ← token fuel true true true
      if !t.isReserved "in" then unexpected (some "\"in\"")
      return .select line subject (← branches fuel [])
    | _ => unexpected (some "word")

/-- The branches of a selection up to its end, after those read so far with the last one first. -/
def branches (fuel : Nat) (done : List Branch) : Reader (List Branch) :=
  match fuel with
  | 0 => return done.reverse
  | fuel + 1 => do
    let t ← token fuel true true false
    if t.isReserved "esac" then return done.reverse
    else
      let t ← if t.isOperator "(" then token fuel false false false else pure t
      let patterns ← patternList fuel t []
      if !(← get).last.isOperator ")" then unexpected (some "\")\"")
      let body ← commands fuel 2 .nothing
      let branch := Branch.mk patterns body
      let t ← token fuel true true false
      if t.isReserved "esac" then return (branch .done :: done).reverse
      else if t.isOperator ";;" then branches fuel (branch .done :: done)
      else if t.isOperator ";&" then branches fuel (branch .through :: done)
      else if t.isOperator ";;&" then branches fuel (branch .onward :: done)
      else unexpected (some "\";;\"")

/-- The patterns of a branch: the one that a token is, and those that follow it. -/
def patternList (fuel : Nat) (t : Token) (done : List Word) : Reader (List Word) :=
  match fuel with
  | 0 => return done.reverse
  | fuel + 1 => do
    let word := match t with
      | .word word _ => word
      | .reserved text => plainWord text
      | _ => []
    let after ← token fuel false false false
    if after.isOperator "|" then patternList fuel (← token fuel false false false) (word :: done)
    else return (word :: done).reverse

end

/-- The next complete command of a text, if there is one: `none` at the end of the text. -/
def completeCommand (fuel : Nat) : Reader (Option Command) := do
  modify fun r => { r with isPushed := false, announced := [] }
  let c ← commands fuel 1 .nothing
  let r ← get
  match c, r.last, r.isPushed with
  | .nothing, .textEnd, true => return none
  | c, _, _ => return some c

end Reader

end ScriptedShell.Local.Script
