/-
# Printing texts

Programs that print their arguments, numbers in a row, names of paths and variables, and what they
read.
-/
import ScriptedShell.Local.Program.Show
import ScriptedShell.Local.Script.Printing

namespace ScriptedShell.Local.Program

open Act Files Number Text

/-! ## Arguments -/

/-- The digits of some base at the front of a text, at most a number of them. -/
def digitsIn (base count : Nat) (cs : List Char) : List Char :=
  (cs.take count).takeWhile fun c => (Script.Arithmetic.digitOf? base c).isSome

/-- The number that digits of a base write. -/
def valueIn (base : Nat) (digits : List Char) : Nat :=
  digits.foldl (fun n c => base * n + (Script.Arithmetic.digitOf? base c).getD 0) 0

/-- The text that an escape stands for, and what follows it; `none` when all output ends.  What
follows the backslash is given; `isZero` says that octal digits follow a zero. -/
def escapeText (isZero : Bool) (cs : List Char) : Option (List Char × List Char) :=
  match cs with
  | [] => some (['\\'], [])
  | 'c' :: _ => none
  | 'e' :: rest => some (['\x1b'], rest)
  | 'x' :: rest =>
    let ds := digitsIn 16 2 rest
    if ds.isEmpty then some (['\\', 'x'], rest)
    else some ([Char.ofNat (valueIn 16 ds)], rest.drop ds.length)
  | c :: rest =>
    let octal := fun (cs : List Char) =>
      let ds := digitsIn 8 3 cs
      some ([Char.ofNat (valueIn 8 ds % 256)], cs.drop ds.length)
    if c = '0' && isZero then octal rest
    else if Script.isOctal c then octal cs
    else match Script.letterByte? c with
      | some b => some ([b], rest)
      | none => some (['\\', c], rest)

/-- A text whose escapes are resolved, and whether all output ends with it. -/
def resolveText (isZero : Bool) : Nat → List Char → List Char → List Char × Bool
  | 0, done, _ => (done.reverse, false)
  | _ + 1, done, [] => (done.reverse, false)
  | fuel + 1, done, '\\' :: cs =>
    match escapeText isZero cs with
    | none => (done.reverse, true)
    | some (text, rest) => resolveText isZero fuel (text.reverse ++ done) rest
  | fuel + 1, done, c :: cs => resolveText isZero fuel (c :: done) cs

/-- A text whose escapes are resolved, and whether all output ends with it. -/
def resolveAll (isZero : Bool) (text : String) : List Char × Bool :=
  resolveText isZero (text.length + 1) [] text.toList

/-- Print arguments. -/
def echo (_ : Runner) : Program := do
  let isOption := fun (a : String) =>
    1 < a.length && a.toList.head? = some '-' && (a.toList.drop 1).all fun c => "neE".toList.elem c
  let arguments ← arguments
  let letters := ((arguments.takeWhile isOption).map fun a => a.toList.drop 1).flatten
  let words := arguments.dropWhile isOption
  let escapes := (letters.reverse.find? fun c => c != 'n') = some 'e'
  let text := String.intercalate " " words
  let ending := if letters.elem 'n' then [] else ['\n']
  if escapes then
    let (text, stops) := resolveAll true text
    printChars (if stops then text else text ++ ending)
  else printChars (text.toList ++ ending)
  return 0

/-- What a format prints: the text so far, the last byte first, the arguments that are left, and the
complaints. -/
structure Formatting where
  arguments : List String
  text : List Char := []
  complaints : List String := []
  isFailed : Bool := false
  isStopped : Bool := false
  fault : Option String := none

namespace Formatting

/-- Add text. -/
def add (f : Formatting) (cs : List Char) : Formatting := { f with text := cs.reverse ++ f.text }

/-- Take the next argument. -/
def next (f : Formatting) : Option String × Formatting :=
  match f.arguments with
  | [] => (none, f)
  | a :: rest => (some a, { f with arguments := rest })

/-- Complain. -/
def complain (f : Formatting) (text : String) (isFailure : Bool) : Formatting :=
  { f with complaints := f.complaints ++ [text], isFailed := f.isFailed || isFailure }

/-- Complain about what follows a number in an argument. -/
def check (f : Formatting) (argument : String) (isNumber : Bool) (rest : List Char)
    (inRange : Bool) : Formatting :=
  if !isNumber then f.complain (Named.quoted argument ++ ": expected a numeric value") true
  else if !rest.isEmpty then
    f.complain (Named.quoted argument ++ ": value not completely converted") true
  else if !inRange then
    f.complain (Named.quoted argument ++ ": Numerical result out of range") true
  else f

/-- Take the next argument as a number, where `read` reads one at the front of a text. -/
def number (f : Formatting) (zero : α) (ofCode : Nat → α) (read : List Char → Option (α × List Char))
    (bound : α → α × Bool) : α × Formatting :=
  match f.next with
  | (none, f) => (zero, f)
  | (some a, f) =>
    match a.toList with
    | [] => (zero, f.check a false [] true)
    | q :: cs =>
      if (q = '\'' || q = '"') && !cs.isEmpty then
        let n := ofCode ((cs.head?.map Char.toNat).getD 0)
        match cs.drop 1 with
        | [] => (n, f)
        | rest => (n, f.complain ("warning: " ++ String.ofList rest ++
            ": character(s) following character constant have been ignored") false)
      else match read a.toList with
        | none => (zero, f.check a false [] true)
        | some (n, rest) =>
          let (n, inRange) := bound n
          (n, f.check a true rest inRange)

/-- Take the next argument as a whole number. -/
def integer (f : Formatting) (isSigned : Bool) : Int × Formatting :=
  let low : Int := if isSigned then Script.Arithmetic.smallest else -(Nat.pow 2 64 - 1)
  let high : Int := if isSigned then Script.Arithmetic.largest else Nat.pow 2 64 - 1
  f.number 0 Int.ofNat (Script.Arithmetic.signedAt? Script.Arithmetic.numeralAt) fun n =>
    let bounded := if !isSigned && n < low then high else max low (min high n)
    (bounded, bounded = n)

/-- Take the next argument as a number with a fraction. -/
def quantity (f : Formatting) : Quantity × Formatting :=
  f.number default (fun n => .ofInt n) Quantity.readAt? fun q => (q.rounded extended, true)

/-- Read a width or a precision, which can be an argument. -/
def amount (f : Formatting) (cs : List Char) : Option Int × List Char × Formatting :=
  match cs with
  | '*' :: cs =>
    if f.arguments.isEmpty then (none, cs, f) else let (n, f) := f.integer true; (some n, cs, f)
  | cs =>
    let (digits, rest) := cs.span Char.isDigit
    (if digits.isEmpty then none else some (Text.digitsValue digits), rest, f)

/-- Print what a directive makes of the next argument. -/
def apply (f : Formatting) (d : Directive) (whole : List Char) : Formatting :=
  let c := d.letter
  if c = 's' then let (a, f) := f.next; f.add (d.textOf (a.getD "").toList)
  else if c = 'b' then
    let (a, f) := f.next
    let (text, stops) := resolveAll true (a.getD "")
    { f.add text with isStopped := stops }
  else if c = 'q' then let (a, f) := f.next; f.add (Named.shown (a.getD "")).toList
  else if c = 'c' then
    let (a, f) := f.next
    f.add (d.fill [((a.getD "").toList.head?).getD '\x00'])
  else if c = 'd' || c = 'i' then let (n, f) := f.integer true; f.add (d.integerText n)
  else if c = 'o' || c = 'u' || c = 'x' || c = 'X' then
    let (n, f) := f.integer false
    f.add (d.integerText n)
  else if "aAeEfFgG".toList.elem c then let (q, f) := f.quantity; f.add (d.quantityText q)
  else { f with fault := some (String.ofList whole ++ ": invalid conversion specification") }

/-- The name of a character by its code, and what follows it. -/
def codeText (letter : Char) (count : Nat) (cs : List Char) : List Char × List Char :=
  let ds := digitsIn 16 count cs
  let n := valueIn 16 ds
  let rest := cs.drop ds.length
  if n < 128 then ([Char.ofNat n], rest)
  else
    let text := (Nat.toDigits 16 n).map Char.toUpper
    ('\\' :: letter :: List.replicate (count - text.length) '0' ++ text, rest)

/-- Print what a format makes of arguments, once. -/
def once : Nat → List Char → Formatting → Formatting
  | 0, _, f => f
  | _ + 1, [], f => f
  | fuel + 1, '\\' :: '"' :: cs, f => once fuel cs (f.add ['"'])
  | fuel + 1, '\\' :: 'u' :: cs, f =>
    let (text, rest) := codeText 'u' 4 cs
    once fuel rest (f.add text)
  | fuel + 1, '\\' :: 'U' :: cs, f =>
    let (text, rest) := codeText 'U' 8 cs
    once fuel rest (f.add text)
  | fuel + 1, '\\' :: cs, f =>
    match escapeText false cs with
    | none => { f with isStopped := true }
    | some (text, rest) => once fuel rest (f.add text)
  | fuel + 1, '%' :: '%' :: cs, f => once fuel cs (f.add ['%'])
  | fuel + 1, '%' :: cs, f =>
    let isFlag := fun (c : Char) => "#-+ 0'I".toList.elem c
    let d := (cs.takeWhile isFlag).foldl Directive.withFlag { letter := 's' }
    let (width, rest, f) := f.amount (cs.dropWhile isFlag)
    let d := match width with
      | some n => d.withWidth n
      | none => d
    let (d, rest, f) := match rest with
      | '.' :: rest =>
        let (n, rest, f) := f.amount rest
        (d.withPrecision (n.getD 0), rest, f)
      | rest => (d, rest, f)
    let rest := rest.dropWhile fun c => "hlLjtz".toList.elem c
    match rest with
    | [] => { f with fault := some ("%" ++ String.ofList cs ++ ": invalid conversion specification") }
    | letter :: rest =>
      let f := f.apply { d with letter } ('%' :: cs.take (cs.length - rest.length))
      if f.fault.isSome || f.isStopped then f else once fuel rest f
  | fuel + 1, c :: cs, f => once fuel cs (f.add [c])

/-- Print what a format makes of arguments, again and again while there are arguments left that it
takes. -/
def all (cs : List Char) : Nat → Formatting → Formatting
  | 0, f => f
  | fuel + 1, f =>
    let before := f.arguments
    let f := once (cs.length + 1) cs f
    if f.fault.isSome || f.isStopped || f.arguments.isEmpty then f
    else if f.arguments.length = before.length then
      f.complain ("warning: ignoring excess arguments, starting with " ++
        Named.quoted (before.headD "")) false
    else all cs fuel f

end Formatting

/-- Print arguments in a format. -/
def printf (_ : Runner) : Program := do
  let arguments ← arguments
  let arguments := if arguments.head? = some "--" then arguments.drop 1 else arguments
  match arguments with
  | [] => missingOperand 1
  | format :: arguments =>
    let f := Formatting.all format.toList (arguments.length + 1) { arguments }
    for text in f.complaints do
      complain text
    match f.fault with
    | some text =>
      complain text
      printChars f.text.reverse
      return 1
    | none =>
      printChars f.text.reverse
      return if f.isFailed then 1 else 0

/-- The size of the pieces in which a line is printed without an end. -/
def pieceSize : Nat := 16384

/-- Print a line until nobody reads it. -/
def yes (_ : Runner) : Program := do
  let (_, words) ← options [] 1 false
  let line := String.intercalate " " (if words.isEmpty then ["y"] else words) ++ "\n"
  let piece := String.join (List.replicate (pieceSize / line.length + 1) line)
  for _ in List.range 1000 do
    match ← tryWrite 1 piece with
    | none => pure ()
    | some fault =>
      complain ("standard output: " ++ fault.text)
      quit 1
  return 0

/-! ## Numbers -/

/-- A number of an argument: its value, the number of its places after the point, and how many
characters it has. -/
structure Operand where
  value : Quantity
  places : Nat
  width : Nat

/-- The number that an argument writes. -/
def operand? (text : String) : Option Operand :=
  match Quantity.readAt? text.toList with
  | some (value@(.finite ..), []) =>
    let cs := text.toList
    let isHex := cs.any fun c => c = 'x' || c = 'X'
    let (mantissa, power) := if isHex then (cs, []) else cs.span fun c => c != 'e' && c != 'E'
    let places := ((mantissa.span (· != '.')).2.drop 1).length
    let e := ((String.ofList (power.drop 1)).toInt?).getD 0
    let places := if isHex then 0 else ((places : Int) - e).toNat
    some ⟨value, places, cs.length⟩
  | _ => none

/-- A number as a fraction. -/
def fractionOf : Quantity → Int × Nat
  | .finite isNegative num den => (if isNegative then -(num : Int) else num, den)
  | _ => (0, 1)

/-- The number that is written as a whole number of parts. -/
def quantityOf (n : Int) (den : Nat) : Quantity := .finite (n < 0) n.natAbs den

/-- The numbers from a first one to a last one. -/
def numbersFrom (step last : Int) : Nat → Int → List Int
  | 0, _ => []
  | count + 1, n =>
    if (0 < step && last < n) || (step < 0 && n < last) then []
    else n :: numbersFrom step last count (n + step)

/-- The most numbers that are printed. -/
def maxNumbers : Nat := 1000000

/-- The characters up to a directive, where two percent signs stand for one, and the rest. -/
def beforeDirective : List Char → List Char × List Char
  | '%' :: '%' :: rest =>
    let (front, rest) := beforeDirective rest
    ('%' :: front, rest)
  | '%' :: rest => ([], '%' :: rest)
  | [] => ([], [])
  | c :: rest =>
    let (front, rest) := beforeDirective rest
    (c :: front, rest)

/-- A format of one directive for numbers: what stands before it, the directive and what follows; or
what is wrong with it. -/
def numberFormat (cs : List Char) : Except String (List Char × Directive × List Char) :=
  match beforeDirective cs with
  | (_, []) => .error "has no % directive"
  | (front, rest) =>
    let rest := rest.drop 1
    let isFlag := fun (c : Char) => "-+#0 '".toList.elem c
    let d := (rest.takeWhile isFlag).foldl Directive.withFlag { letter := 'g' }
    let (width, rest) := (rest.dropWhile isFlag).span Char.isDigit
    let d := { d with width := digitsValue width }
    let (d, rest) := match rest with
      | '.' :: rest =>
        let (ds, rest) := rest.span Char.isDigit
        ({ d with precision := some (digitsValue ds) }, rest)
      | rest => (d, rest)
    match if rest.head? = some 'L' then rest.drop 1 else rest with
    | [] => .error "ends in %"
    | c :: rest =>
      if !"aAeEfFgG".toList.elem c then
        .error ("has unknown %" ++ String.singleton c ++ " directive")
      else match beforeDirective rest with
        | (back, []) => .ok (front, { d with letter := c }, back)
        | _ => .error "has too many % directives"

/-- The arguments before the first negative number that is no value of an option, and the others. -/
def beforeNegative : List String → List String × List String
  | [] => ([], [])
  | a :: rest =>
    match a.toList with
    | '-' :: c :: _ =>
      if c.isDigit || c = '.' then ([], a :: rest)
      else if ["-s", "-f", "--separator", "--format"].elem a then
        match rest with
        | value :: rest =>
          let (front, back) := beforeNegative rest
          (a :: value :: front, back)
        | [] => ([a], [])
      else
        let (front, back) := beforeNegative rest
        (a :: front, back)
    | _ => ([], a :: rest)

/-- Print numbers in a row. -/
def seq (_ : Runner) : Program := do
  let known := flags [('w', "equal-width")] ++ valued [('s', "separator"), ('f', "format")]
  let given ← arguments
  let (front, back) := beforeNegative given
  let (o, words) ← withArguments front (options known 1 true)
  let words := words ++ back
  let read := fun (text : String) => do
    match operand? text with
    | some n => pure n
    | none => misused 1 ("invalid floating point argument: " ++ Named.quoted text)
  let one : Operand := ⟨.ofInt 1, 0, 1⟩
  let (first, step, last, stepText) ← match words with
    | [] => missingOperand 1
    | [last] => do pure (one, one, ← read last, "1")
    | [first, last] => do pure (← read first, one, ← read last, "1")
    | [first, step, last] => do
      let first ← read first
      let stepRead ← read step
      pure (first, stepRead, ← read last, step)
    | _ :: _ :: _ :: extra :: _ => extraOperand 1 extra
  let (a, aDen) := fractionOf first.value
  let (s, sDen) := fractionOf step.value
  let (z, zDen) := fractionOf last.value
  if s = 0 then misused 1 ("invalid Zero increment value: " ++ Named.quoted stepText)
  let den := aDen * sDen * zDen
  let places := max first.places step.places
  let numbers := numbersFrom (s * (aDen * zDen : Nat)) (z * (aDen * sDen : Nat)) maxNumbers
    (a * (sDen * zDen : Nat))
  let plain := fun (n : Int) =>
    let sign := if n < 0 then ['-'] else []
    sign ++ Quantity.fixedText places false n.natAbs den
  let texts ← match o.last? 'f' with
    | some format =>
      match numberFormat format.toList with
      | .ok (front, d, back) =>
        pure (numbers.map fun n => front ++ d.quantityText (quantityOf n den) ++ back)
      | .error fault => do
        complain ("format " ++ Named.quoted format ++ " " ++ fault)
        quit 1
    | none =>
      if o.has 'w' then
        let lastText := if z < 0 then
            '-' :: Quantity.fixedText places false z.natAbs zDen
          else Quantity.fixedText places false z.natAbs zDen
        let width := max (plain (a * (sDen * zDen : Nat))).length lastText.length
        pure (numbers.map fun n =>
          let cs := plain n
          match cs with
          | '-' :: ds => '-' :: (List.replicate (width - cs.length) '0' ++ ds)
          | cs => List.replicate (width - cs.length) '0' ++ cs)
      else pure (numbers.map plain)
  let separator := ((o.last? 's').getD "\n").toList
  if !texts.isEmpty then printChars ((texts.intersperse separator).flatten ++ ['\n'])
  return 0

/-! ## Names of paths -/

/-- A path without slashes at its end. -/
def dropSlashes (path : String) : List Char :=
  let kept := (path.toList.reverse.dropWhile (· = '/')).reverse
  if kept.isEmpty && !path.isEmpty then ['/'] else kept

/-- The last name of a path. -/
def lastName (path : String) : String :=
  let kept := dropSlashes path
  if kept = ['/'] then "/"
  else String.ofList (kept.reverse.takeWhile (· != '/')).reverse

/-- The path without its last name. -/
def directoryName (path : String) : String :=
  let kept := dropSlashes path
  if kept = ['/'] then "/"
  else
    let front := kept.reverse.dropWhile (· != '/')
    if front.isEmpty then "."
    else String.ofList (dropSlashes (String.ofList front.reverse))

/-- A name without an ending, unless it is the whole name. -/
def dropEnding (ending name : String) : String :=
  let front := name.toList.take (name.length - ending.length)
  if !front.isEmpty && !ending.isEmpty && String.ofList front ++ ending = name then
    String.ofList front
  else name

/-- Print the last names of paths. -/
def basename (_ : Runner) : Program := do
  let known := flags [('a', "multiple"), ('z', "zero")] ++ valued [('s', "suffix")]
  let (o, words) ← options known 1 true
  let ending := if o.has 'z' then "\x00" else "\n"
  if words.isEmpty then missingOperand 1
  if o.has 'a' || o.has 's' then
    print (String.join (words.map fun w =>
      dropEnding ((o.last? 's').getD "") (lastName w) ++ ending))
  else match words with
    | [path] => print (lastName path ++ ending)
    | [path, suffix] => print (dropEnding suffix (lastName path) ++ ending)
    | _ => extraOperand 1 (words.getD 2 "")
  return 0

/-- Print paths without their last names. -/
def dirname (_ : Runner) : Program := do
  let (o, words) ← options (flags [('z', "zero")]) 1 true
  if words.isEmpty then missingOperand 1
  let ending := if o.has 'z' then "\x00" else "\n"
  print (String.join (words.map fun w => directoryName w ++ ending))
  return 0

/-- Print the directory. -/
def pwd (_ : Runner) : Program := do
  let (o, _) ← options (flags [('L', "logical"), ('P', "physical")]) 1 false
  let task ← read
  let plain := toOctets (Tree.pathOf task.directory)
  match if o.lastOf? ['L', 'P'] = some 'L' then task.environment.lookup "PWD" else none with
  | some path => print (path ++ "\n")
  | none => print (plain ++ "\n")
  return 0

/-! ## Variables and streams -/

/-- Print variables of the environment. -/
def printenv (_ : Runner) : Program := do
  let (o, names) ← options (flags [('0', "null")]) 2 true
  let ending := if o.has '0' then "\x00" else "\n"
  let environment := (← read).environment
  if names.isEmpty then
    print (String.join (environment.map fun (name, value) => name ++ "=" ++ value ++ ending))
    return 0
  let found := names.map fun name => List.lookup name environment
  print (String.join (found.filterMap fun v => v.map (· ++ ending)))
  return if found.all Option.isSome then 0 else 1

/-- Print the input and write it to files. -/
def tee (_ : Runner) : Program := do
  let known := flags [('a', "append"), ('i', "ignore-interrupts"), ('p', "")] ++
    longFlags [('1', "output-error")]
  let (o, paths) ← options known 1 false
  let text := match ← readStream 0 with
    | .ok text => text
    | .error _ => []
  let status ← forEach paths fun path => do
    let how : System.Opening :=
      { canWrite := true, makes := true, empties := !o.has 'a', appends := o.has 'a' }
    if let some stream := streamAt? path then
      let _ ← tryWrite stream (String.ofList text)
      return 0
    match (← get).openPath (← read).directory (ofOctets path) how (← read).mask with
    | .ok (file, s) =>
      set s
      match (← get).write file (String.ofList text) with
      | .ok s =>
        set s
        return 0
      | .error fault =>
        complainOf path fault.text
        return 1
    | .error fault =>
      complainOf path fault.text
      return 1
  printChars text
  return status

/-- The thousandths of a second that a text says: a number with a letter for its unit. -/
def duration? (text : String) : Option Nat :=
  match Quantity.readAt? text.toList with
  | some (.finite false num den, unit) =>
    let seconds := match unit with
      | [] | ['s'] => some 1
      | ['m'] => some 60
      | ['h'] => some 3600
      | ['d'] => some 86400
      | _ => none
    seconds.map fun s => (num * s * 1000 + den - 1) / den
  | some (.infinite false, _) => some 1000000000000
  | _ => none

/-- Let time pass; a task that has to be done before it is over is ended. -/
def pass (time : Nat) : Act Unit := do
  modify fun s => { s with clock := s.clock + time }
  if (← read).deadline.any (· < (← get).clock) then throw (.signal 15)

/-- Wait for some time. -/
def sleep (_ : Runner) : Program := do
  let (_, words) ← options [] 1 false
  if words.isEmpty then missingOperand 1
  let bad := words.filter fun w => (duration? w).isNone
  for w in bad do
    complain ("invalid time interval " ++ Named.quoted w)
  if !bad.isEmpty then seeHelp 1
  pass ((words.filterMap duration?).foldl (· + ·) 0)
  return 0

/-- The programs that print texts. -/
def printing : List (String × (Runner → Program)) :=
  [("echo", echo), ("printf", printf), ("yes", yes), ("seq", seq), ("basename", basename),
    ("dirname", dirname), ("pwd", pwd), ("printenv", printenv), ("tee", tee), ("sleep", sleep),
    ("true", fun _ => return 0), ("false", fun _ => return 1), ("sync", fun _ => return 0)]

end ScriptedShell.Local.Program
