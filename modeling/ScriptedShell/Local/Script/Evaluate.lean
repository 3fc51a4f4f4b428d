/-
# Evaluation

What commands do.  Commands contain words, words contain scripts, and some commands run others, so
that all of this is done by functions that call each other; a number bounds how deep they do.
-/
import ScriptedShell.Local.Script.Answer
import ScriptedShell.Local.Script.Braces
import ScriptedShell.Local.Script.Extended
import ScriptedShell.Local.Script.Reader

namespace ScriptedShell.Local.Script

open Files Text

/-- What is known of the place where a command stands. -/
structure Context where
  /-- Its failure is looked at, so that it does not end a script that failures end. -/
  isTested : Bool := false
  /-- Nothing follows it in a subshell. -/
  isLast : Bool := false
  /-- Nothing follows it in a script that is an argument. -/
  isFinal : Bool := false
  deriving Repr, DecidableEq

namespace Context

/-- The place inside a command whose parts follow each other. -/
def inner (c : Context) : Context := { c with isLast := false, isFinal := false }

/-- The place inside a command that says when its parts are run. -/
def inside (c : Context) : Context := { c with isFinal := false }

/-- The place of a condition. -/
def tested : Context := { isTested := true }

end Context

/-- The most functions that are called inside each other. -/
def maxCalls : Nat := 1000

/-- The wording of calls that go too deep. -/
def depthText : String := "Maximum function recursion depth (" ++ toString maxCalls ++ ") reached"

/-- The most rounds of a loop. -/
def maxRounds : Nat := 100000000

namespace Sh

/-- Go on from a state as long as there is a next one. -/
def iterate (step : σ → Sh (Option σ)) : Nat → σ → Sh Unit
  | 0, _ => return ()
  | rounds + 1, state => do
    match ← step state with
    | some state => iterate step rounds state
    | none => return ()

/-- Do something with parts of the state as they were before, whatever the outcome is. -/
def protecting (restore : Shell → Shell → Shell) (act : Sh α) : Sh α := do
  let before ← get
  let result ← act.outcome
  modify (restore before)
  proceed result

/-- Set the status. -/
def setStatus (n : Nat) : Sh Unit := modify fun shell => { shell with status := n }

/-- Set how deep the script is. -/
def setNesting (n : Nat) : Sh Unit := modify fun shell => { shell with nesting := n }

/-- Set the line that messages are about. -/
def setLine (n : Nat) : Sh Unit := modify fun shell => { shell with line := n }

/-! ## Streams -/

/-- Lead a stream to an open file. -/
def setStream (stream file : Nat) : Sh Unit :=
  modify fun shell => { shell with streams := shell.streams.set stream file }

/-- How a kind of redirection opens its file. -/
def openingOf (isGuarded : Bool) : Redirect → System.Opening
  | .read => { canRead := true }
  | .write =>
    { canWrite := true, makes := true, empties := true, isNew := isGuarded }
  | .overwrite => { canWrite := true, makes := true, empties := true }
  | .append => { canWrite := true, makes := true, appends := true }
  | .both => { canRead := true, canWrite := true, makes := true }

/-- Lead a stream to a file. -/
def redirectFile (kind : Redirect) (stream : Nat) (path : String) : Sh Unit := do
  let shell ← get
  match (Act.streamAt? path).bind fun n => List.lookup n shell.streams with
  | some file => setStream stream file
  | none =>
    let opening := openingOf (shell.options.elem 'C') kind
    match shell.system.openPath shell.directory (ofOctets path) opening shell.mask with
    | .ok (file, system) =>
      set { shell with system }
      setStream stream file
    | .error fault => refuse (.closedFile path opening.makes fault)

/-- Lead a stream to where another one leads, or close it. -/
def redirectCopy (stream : Nat) (target : String) : Sh Unit := do
  let digits := target.toList
  let shell ← get
  if target = "-" then set { shell with streams := shell.streams.close stream }
  else if !digits.isEmpty && digits.all Char.isDigit &&
      (digits.length = 1 || shell.isExtended) then
    match shell.streams.lookup (digitsValue digits) with
    | some file => setStream stream file
    | none => refuse (.badStream target)
  else if shell.isExtended then
    if stream = 1 then
      redirectFile .write 1 target
      match (← get).streams.lookup 1 with
      | some file => setStream 2 file
      | none => return ()
    else fail (target ++ ": ambiguous redirect")
  else fail SyntaxFault.badStream.message

/-- Lead a stream to a text. -/
def redirectText (stream : Nat) (text : String) : Sh Unit := do
  let shell ← get
  let (input, output, system) := shell.system.newPipe
  let system := ((system.write output text).toOption).getD system
  set { shell with system }
  setStream stream input

/-! ## Tasks -/

/-- Run a task that has been found at a path. -/
def runTask (path : String) (launch : Launch) : Sh Ended := do
  let run ← read
  let shell ← get
  let (process, system) := shell.system.newProcess
  let last := if shell.isExtended then [("_", path)] else []
  let task : Task :=
    { name := launch.name, arguments := launch.arguments
      environment := ((environment shell).filter fun p => last.isEmpty || p.1 != "_") ++ last
      directory := shell.directory, streams := shell.streams, mask := shell.mask, process,
      parent := shell.process, deadline := shell.deadline }
  let (ended, system) := run launch.program task system
  set { shell with system }
  if shell.deadline.any (· < system.clock) then throw (.killed 15)
  return ended

/-- Say which signal has ended a task. -/
def reportEnd : Ended → Sh Unit
  | .signal n => do
    if n != 2 && n != pipeSignal then complainRaw (Signal.textOf n ++ "\n")
  | .code _ => return ()

/-- The name of the program of a shell. -/
def shellProgram : Dialect → String
  | .standard => "dash"
  | .extended => "bash"

/-- The wording of why a program cannot be run, and the status for it. -/
def launchFailure (dialect : Dialect) (isPath : Bool) : LaunchFault → String × Nat
  | .file .missing | .file .notDirectory =>
    match dialect with
    | .standard => ("not found", 127)
    | .extended => (if isPath then "No such file or directory" else "command not found", 127)
  | .file fault => (fault.text, if fault = .nameTooLong || fault = .tooManyLinks then 127 else 126)
  | .noFormat => ("Exec format error", 126)

/-- What is launched for a path; a file of unknown format is a script. -/
def launchPath (path name : String) (arguments : List String) : Sh (Except LaunchFault Launch) := do
  let shell ← get
  match launch shell.system.tree shell.directory path name arguments with
  | .error .noFormat => return .ok ⟨shellProgram shell.dialect, path, path :: arguments⟩
  | .error fault =>
    match shell.dialect, shell.system.tree.node shell.directory (ofOctets path) with
    | .extended, .ok (_, .directory) => return .error (.file .isDirectory)
    | _, _ => return .error fault
  | result => return result

/-! ## Jobs -/

/-- The end of a job, which runs now if it has not run. -/
def finishJob (job : Job) : Sh Ended := do
  match job.ended with
  | some ended => return ended
  | none =>
    let shell ← get
    let (ended, system) := job.work shell.system
    set { shell with system }
    Builtin.setJob { job with ended := some ended }
    return ended

/-- Let all jobs come to their ends. -/
def finishJobs : Sh Unit := do
  for job in (← get).jobs.reverse do
    if job.ended.isNone then let _ ← finishJob job

/-- Wait for jobs. -/
def wait (arguments : List String) : Sh Nat := do
  let names ← if ← isExtended then do pure (← Usage.split "fnp:" arguments).2
    else do pure (← Builtin.splitOptions "" arguments).2
  if names.isEmpty then
    finishJobs
    modify fun shell => { shell with jobs := [] }
    return 0
  let mut status := 127
  for name in names do
    let job ← if name.toList.head? = some '%' then pure (some (← Builtin.jobNamed name))
      else do
        let n ← Builtin.numberOf name
        pure ((← get).jobs.find? (·.process = n))
    match job with
    | none => status := 127
    | some job =>
      let ended ← finishJob job
      reportEnd ended
      status := ended.status
  return status

/-! ## Options -/

/-- Write a command that is about to run to the error output, if that is asked for. -/
def trace (assignments : List (String × Option String)) (words : List String) : Sh Unit := do
  if ← hasOption 'x' then
    let front ← traceFront
    if ← isExtended then
      for (name, value) in assignments do
        complainRaw (front ++ name ++ String.ofList (quotedIfNeeded (value.getD "").toList) ++ "\n")
      let shown := words.map fun word =>
        let cs := word.toList
        if word.isEmpty then "''"
        else if cs.any fun c => isControl c && c != '\n' && c != '\t' then
          String.ofList (escapedQuotes cs)
        else if cs.any hasMeaning then String.ofList (singleQuotes cs)
        else word
      if !words.isEmpty then complainRaw (front ++ String.intercalate " " shown ++ "\n")
    else
      let all := (assignments.map fun (name, value) => name ++ value.getD "") ++ words
      complainRaw (front ++ String.intercalate " " all ++ "\n")

/-- End the script when a command has failed and failures end it. -/
def checkFailure (c : Context) (status : Nat) : Sh Unit := do
  if status != 0 && !c.isTested && (← hasOption 'e') then throw .exit

end Sh

/-- What the first word of a command means. -/
inductive Meaning where
  | special (name : String)
  | regular (name : String)
  | function (body : Command)
  | program
  deriving Inhabited

/-- What a name means to a shell. -/
def meaningOf (shell : Shell) (allowsFunctions : Bool) (name : String) : Meaning :=
  let function := if allowsFunctions then shell.functions.lookup name else none
  match shell.dialect, function with
  | .standard, function =>
    if Builtin.specialNames.elem name then .special name
    else match function with
      | some body => .function body
      | none => if Builtin.regularNames.elem name then .regular name else .program
  | .extended, some body => .function body
  | .extended, none => if Extended.isCommand shell name then .regular name else .program

/-- The commands of a language whose arguments can be assignments. -/
def declarersIn : Dialect → List String
  | .standard => declarers
  | .extended => extendedDeclarers

/-- A command while its words are expanded: the words that there are, those that are still to be
expanded, and what is known of the command. -/
structure Called where
  words : List String
  left : List Word
  meaning : Meaning
  /-- Whether the command is special by its first word. -/
  isSpecial : Bool
  /-- Whether the command needs no variables of its own. -/
  isOpen : Bool
  search : Option String := none
  /-- The first words, which say how the others are called. -/
  before : List String := []

mutual

/-- Run a command, and give its status. -/
def run (fuel : Nat) (c : Context) (command : Command) : Sh Nat :=
  match fuel with
  | 0 => Sh.fail depthText
  | fuel + 1 => do
    takeSignals fuel
    if (← Sh.hasOption 'n') then return (← get).status
    let finish := fun (status : Nat) => do
      Sh.setStatus status
      takeSignals fuel
      return status
    let checked := fun (status : Nat) => do
      Sh.setStatus status
      takeSignals fuel
      onFailure fuel c status
      Sh.checkFailure c status
      return status
    let single := fun (status : Nat) => do
      modify fun shell => { shell with pipeStatuses := [status] }
      checked status
    match command with
    | .nothing => return (← get).status
    | .simple line assignments words changes =>
      single (← simple fuel c line assignments words changes)
    | .piped commands =>
      modify fun shell => { shell with pipeStatuses := [] }
      checked (← piped fuel c.inside commands none)
    | .negated inner =>
      let status ← run fuel Context.tested inner
      finish (if status = 0 then 1 else 0)
    | .sequence first second =>
      let _ ← run fuel c.inner first
      run fuel c second
    | .both first second =>
      if (← run fuel Context.tested first) = 0 then run fuel c second else finish (← get).status
    | .either first second =>
      if (← run fuel Context.tested first) != 0 then run fuel c second else finish 0
    | .background line inner =>
      Sh.setLine line
      background fuel inner
      finish 0
    | .subshell line inner changes =>
      Sh.setLine line
      let ended ← subshell fuel (do
        redirect fuel changes
        run fuel { c.inside with isLast := true } inner)
      Sh.reportEnd ended
      single ended.status
    | .question line asked =>
      Sh.setLine line
      match ← (asked.answer (output fuel) maxQuestionDepth).outcome with
      | .ok result => single (match result with
        | some holds => if holds then 0 else 1
        | none => 2)
      | .error .failed => single (← get).status
      | .error flow => throw flow
    | .compute line expression =>
      Sh.setLine line
      match ← (computed fuel "((" expression 1).outcome with
      | .ok n => single (if n = 0 then 1 else 0)
      | .error .failed => single 1
      | .error flow => throw flow
    | .count line first test next body =>
      Sh.setLine line
      let number := fun (expression : Word) => computed fuel "((" expression 1
      match ← (number first).outcome with
      | .error .failed => single 1
      | .error flow => throw flow
      | .ok _ =>
        finish (← looping fuel (do return (← number test) != 0) (do
          let result ← (run fuel c.inner body).outcome
          match result with
          | .ok status =>
            let _ ← number next
            return status
          | .error (.again 1) =>
            let _ ← number next
            return (← get).status
          | result => Sh.proceed result))
    | .timed isPlain inner =>
      let status ← run fuel c.inner inner
      Sh.complainRaw (if isPlain then "real 0.00\nuser 0.00\nsys 0.00\n"
        else "\nreal\t0m0.000s\nuser\t0m0.000s\nsys\t0m0.000s\n")
      finish status
    | .menu line name words body =>
      Sh.setLine line
      let texts ← words.flatMapM fun word => do
        (bracedWords (← get).dialect word).flatMapM fun word => Sh.fieldsFor (output fuel) word
      finish (← menu fuel name texts (run fuel c.inner body))
    | .redirected line inner changes =>
      Sh.setLine line
      finish (← redirected fuel changes (run fuel c.inner inner))
    | .choose test yes no =>
      if (← run fuel Context.tested test) = 0 then run fuel c.inside yes
      else match no with
        | .nothing => finish 0
        | no => run fuel c.inside no
    | .loop isUntil test body =>
      finish (← looping fuel (do
        let holds := (← run fuel Context.tested test) = 0
        return holds != isUntil) (run fuel c.inner body))
    | .each line name words body =>
      Sh.setLine line
      let front := "for " ++ name ++ " in " ++
        String.intercalate " " (words.map (Shown.word Shown.maxDepth none))
      let texts ← words.flatMapM fun word => do
        (bracedWords (← get).dialect word).flatMapM fun word => Sh.fieldsFor (output fuel) word
      finish (← overTexts fuel name texts (do
        Sh.traceText front
        run fuel c.inner body))
    | .select line subject branches =>
      Sh.setLine line
      Sh.traceText ("case " ++ Shown.word Shown.maxDepth none subject ++ " in")
      let text ← Sh.textFor (output fuel) subject
      match ← chosen fuel c.inside text.toList branches false none with
      | some status => finish status
      | none => finish 0
    | .define line name body =>
      Sh.setLine line
      modify fun shell => { shell with
        functions := (name, body) :: shell.functions.filter (·.1 != name)
        origins := (name, shell.definingFile) :: shell.origins.filter (·.1 != name) }
      finish 0

/-- Do what is to be done when a command has failed. -/
def onFailure (fuel : Nat) (c : Context) (status : Nat) : Sh Unit :=
  match fuel with
  | 0 => return ()
  | fuel + 1 => do
    let shell ← get
    if status != 0 && !c.isTested && shell.isExtended then
      match shell.traps.lookup Extended.failureEvent with
      | none => return ()
      | some action =>
        set { shell with traps := shell.traps.filter (·.1 != Extended.failureEvent) }
        let _ ← (runText fuel { isTested := true } action.toList "").outcome
        modify fun now => { now with
          traps := if (now.traps.lookup Extended.failureEvent).isSome then now.traps
            else (Extended.failureEvent, action) :: now.traps
          status := shell.status, pipeStatuses := shell.pipeStatuses }

/-- The number of an expression that stands in words; one without anything has a number of its
own. -/
def computed (fuel : Nat) (name : String) (expression : Word) (missing : Int) : Sh Int :=
  match fuel with
  | 0 => return 0
  | fuel + 1 => do
    let text ← Sh.documentFor (output fuel) expression
    if text.toList.all Arithmetic.isSpace then return missing
    Sh.traceText ("(( " ++ text ++ " ))")
    let before := (← get).commandName
    modify fun shell => { shell with commandName := some name }
    let result ← (Sh.compute Sh.maxComputed text).outcome
    modify fun shell => { shell with commandName := before }
    Sh.proceed result

/-- Run a body for each text that is chosen by its number from the input. -/
def menu (fuel : Nat) (name : String) (texts : List String) (body : Sh Nat) : Sh Nat :=
  match fuel with
  | 0 => return 2
  | fuel + 1 =>
    if texts.isEmpty then return 0
    else do
      let show' : Sh Unit := Sh.complainRaw (String.join (texts.zipIdx.map fun (text, i) =>
        toString (i + 1) ++ ") " ++ text ++ "\n"))
      show'
      let asked : Sh (Option String) := do
        Sh.complainRaw ((← Sh.valueOf? "PS3").getD "#? ")
        let status ← Extended.read []
        if status = 0 then return some ((← Sh.valueOf? "REPLY").getD "")
        else
          let _ ← Sh.print "\n"
          return none
      looping fuel (do
        let mut answer ← asked
        if answer = some "" then
          show'
          answer ← asked
        match answer with
        | none => return false
        | some text =>
          let n := (text.toNat?).getD 0
          Sh.assign name (if n = 0 then "" else texts.getD (n - 1) "") false
          return true) body

/-- What a script prints. -/
def output (fuel : Nat) (script : Command) : Sh (List Char) :=
  match fuel with
  | 0 => return []
  | fuel + 1 => do
    let shell ← get
    let (input, out, system) := shell.system.newPipe
    set { shell with system }
    let ended ← subshell fuel (do
      Sh.setStream 1 out
      if shell.isExtended then Sh.setNesting (shell.nesting + 1)
      match shell.dialect, script with
      | _, .nothing => return 0
      | .extended, .simple _ [] [] [.file .read 0 target] => copyFile fuel target
      | _, script => run fuel { isLast := true } script)
    Sh.reportEnd ended
    let shell ← get
    let text := shell.system.pipeText input
    set { shell with substituted := ended.status, system := shell.system.setPipe input {} }
    return text

/-- Print a file. -/
def copyFile (fuel : Nat) (target : Word) : Sh Nat :=
  match fuel with
  | 0 => return 1
  | fuel + 1 => do
    let path ← Sh.textFor (output fuel) target
    match ← (Sh.redirectFile .read 0 path).outcome with
    | .error .failed => return 1
    | .error flow => throw flow
    | .ok () =>
      match ← Extended.inputText 0 with
      | some (text, _) => return if ← Sh.print (String.ofList text) then 0 else 1
      | none => return 1

/-- Run something in a shell of its own, which leaves nothing behind but what it has written. -/
def subshell (fuel : Nat) (act : Sh Nat) : Sh Ended :=
  match fuel with
  | 0 => return .code 2
  | fuel + 1 => do
    let before ← get
    let (process, system) := before.system.newProcess
    set { before with
      system, process, parent := before.process, jobs := []
      traps := before.traps.filter fun p => p.2.isEmpty }
    let result ← (do
      let status ← act
      Sh.setStatus status).outcome
    let ended ← atEnd fuel result
    let system := (← get).system
    set { before with system }
    return ended

/-- The end of a shell: what is to be done then is done, and jobs come to their ends. -/
def atEnd (fuel : Nat) (result : Except Flow Unit) : Sh Ended :=
  match fuel with
  | 0 => return .code 2
  | fuel + 1 => do
    let finish := fun (result : Except Flow Unit) => do
      let _ ← Sh.finishJobs.outcome
      match result with
      | .error (.killed n) => return .signal n
      | _ => return .code ((← get).status % 256)
    match result with
    | .error (.killed n) => finish (.error (.killed n))
    | _ =>
      let shell ← get
      match shell.traps.lookup 0 with
      | none => finish (.ok ())
      | some action =>
        set { shell with traps := shell.traps.filter (·.1 != 0), commandName := none }
        match ← (runText fuel {} action.toList "").outcome with
        | .error .exit => finish (.ok ())
        | .error (.killed n) => finish (.error (.killed n))
        | _ =>
          Sh.setStatus shell.status
          finish (.ok ())

/-- Do what is to be done for signals that have been sent. -/
def takeSignals (fuel : Nat) : Sh Unit :=
  match fuel with
  | 0 => return ()
  | fuel + 1 => do
    let shell ← get
    match shell.system.takeSent shell.process with
    | ([], _) => return ()
    | (signals, system) =>
      set { shell with system }
      for n in signals do
        let shell ← get
        match if n = 9 then none else shell.traps.lookup n with
        | none => if Signal.ends n then throw (.killed n)
        | some action =>
          if !action.isEmpty then
            let _ ← runText fuel {} action.toList ""
            Sh.setStatus shell.status

/-- Run the commands of a text one after the other, and give the status of the last one; faults in
the text are told with a label for the text. -/
def runText (fuel : Nat) (c : Context) (text : List Char) (label : String) : Sh Nat :=
  match fuel with
  | 0 => Sh.fail depthText
  | fuel + 1 => do
    let dialect := (← get).dialect
    let text := if dialect = .extended && text.getLast? != some '\n' then text ++ ['\n'] else text
    Sh.iterate (fun (reading, hasRun) => do
      let shell ← get
      let hasAliases := dialect = .standard || shell.choices.elem "expand_aliases"
      let reading := { reading with
        aliases := if hasAliases then shell.aliases else []
        nextDocument := shell.nextDocument, documents := [] }
      let (result, reading) := (Reader.completeCommand (8 * reading.rest.length + 100)).run reading
      if dialect = .extended then
        for (ending, line) in reading.endless do
          Sh.complainRaw (shell.reporter ++ ": line " ++ toString (reading.line - 1) ++
            ": warning: here-document at line " ++ toString line ++
            " delimited by end-of-file (wanted `" ++ ending ++ "')\n")
      let reading := { reading with endless := [] }
      modify fun shell => { shell with
        documents := reading.documents ++ shell.documents
        nextDocument := reading.nextDocument }
      match result with
      | .error fault =>
        match dialect with
        | .standard =>
          Sh.setLine reading.line
          Sh.fail fault.message
        | .extended => badText fuel text label reading fault
      | .ok none =>
        if !hasRun then Sh.setStatus 0
        return none
      | .ok (some command) =>
        match command with
        | .nothing => return some (reading, hasRun)
        | command =>
          let isFinal := label = "-c" && reading.rest.all Arithmetic.isSpace
          match ← (run fuel { c with isFinal } command).outcome with
          | .error .failed => if dialect = .standard then throw .failed
          | result => let _ ← Sh.proceed result
          return some (reading, true)) (text.length + 2)
      (({ rest := text, dialect, source := text } : Reading), false)
    return (← get).status

/-- Tell of a fault in a text of the extended language, and give up. -/
def badText (fuel : Nat) (text : List Char) (label : String) (reading : Reading)
    (fault : SyntaxFault) : Sh α :=
  match fuel with
  | 0 => throw .failed
  | _ + 1 => do
    let shell ← get
    let line := match fault with
      | .unclosed _ start | .openQuestion start => start
      | .unexpected _ _ | .badQuestion _ _ => reading.tokenLine
      | _ => reading.line
    let shown := String.ofList ((piecesOf (· = '\n') text).getD (line - 1) [])
    let frontAt := fun (line : Nat) =>
      shell.reporter ++ ": " ++ (if label.isEmpty then "" else label ++ ": ") ++
        "line " ++ toString line ++ ": "
    let front := frontAt line
    match fault with
    | .openQuestion _ => Sh.complainRaw (front ++ "unexpected EOF while looking for `]]'\n")
    | _ => pure ()
    let front := match fault with
      | .openQuestion _ => frontAt reading.line
      | _ => front
    Sh.complainRaw (String.join ((fault.lines shown).map fun text => front ++ text ++ "\n"))
    Sh.setStatus 2
    throw .failed

/-- Run the parts of a pipeline: each one reads what the one before it has written. -/
def piped (fuel : Nat) (c : Context) (commands : List Command) (input : Option Nat) : Sh Nat :=
  match fuel with
  | 0 => return 2
  | fuel + 1 => do
    let setInput : Sh Unit := match input with
      | some file => Sh.setStream 0 file
      | none => return ()
    match commands with
    | [] => return 0
    | [last] =>
      let before := (← get).pipeStatuses
      let status ← if ← Sh.hasChoice "lastpipe" then
          Sh.protecting (fun before shell => { shell with streams := before.streams }) (do
            setInput
            run fuel c.inner last)
        else do
          let ended ← subshell fuel (do
            setInput
            run fuel { c with isLast := true } last)
          Sh.reportEnd ended
          pure ended.status
      let statuses := before ++ [status]
      modify fun shell => { shell with pipeStatuses := statuses }
      if ← Sh.hasChoice "pipefail" then return ((statuses.filter (· != 0)).getLast?).getD 0
      return status
    | first :: rest =>
      let shell ← get
      let (next, out, system) := shell.system.newPipe
      set { shell with system }
      let ended ← subshell fuel (do
        setInput
        Sh.setStream 1 out
        run fuel { c with isLast := true } first)
      Sh.reportEnd ended
      modify fun shell => { shell with pipeStatuses := shell.pipeStatuses ++ [ended.status] }
      piped fuel c rest (some next)

/-- Begin a job. -/
def background (fuel : Nat) (command : Command) : Sh Unit :=
  match fuel with
  | 0 => return ()
  | fuel + 1 => do
    let runner ← read
    let shell ← get
    let (process, system) := shell.system.newProcess
    let (input, system) := system.hold { target := .device .null }
    let inner : Shell :=
      { shell with
        process, parent := shell.process, jobs := []
        streams := shell.streams.set 0 input
        traps := shell.traps.filter fun p => p.2.isEmpty }
    let work := fun (system : System) =>
      let act : Sh Ended := do
        let result ← (do
          let status ← run fuel { isLast := true } command
          Sh.setStatus status).outcome
        atEnd fuel result
      match act runner { inner with system } with
      | (.ok ended, shell) => (ended, shell.system)
      | (.error _, shell) => (.code 2, shell.system)
    let number := (shell.jobs.head?.map (·.number)).getD 0 + 1
    set { shell with
      system, jobs := { number, process, work } :: shell.jobs, lastJob := some process }

/-- Run a body again and again while a test holds. -/
def looping (fuel : Nat) (test : Sh Bool) (body : Sh Nat) : Sh Nat :=
  match fuel with
  | 0 => return 2
  | _ + 1 => do
    Sh.protecting (fun before shell => { shell with loops := before.loops }) (do
      modify fun shell => { shell with loops := shell.loops + 1 }
      Sh.iterate (fun (status : Nat) => do
        let round : Sh (Option Nat) := do if ← test then return some (← body) else return none
        match ← round.outcome with
        | .ok (some status) => return some status
        | .ok none =>
          Sh.setStatus status
          return none
        | .error (.again 1) => return some (← get).status
        | .error (.again (n + 1)) => throw (.again n)
        | .error (.leave 1) => return none
        | .error (.leave (n + 1)) => throw (.leave n)
        | .error flow => throw flow) maxRounds 0
      return (← get).status)

/-- Run a body once for each of some texts. -/
def overTexts (fuel : Nat) (name : String) (texts : List String) (body : Sh Nat) : Sh Nat :=
  match fuel with
  | 0 => return 2
  | _ + 1 => do
    Sh.protecting (fun before shell => { shell with loops := before.loops }) (do
      modify fun shell => { shell with loops := shell.loops + 1 }
      Sh.setStatus 0
      Sh.iterate (fun (texts : List String) => do
        match texts with
        | [] => return none
        | text :: rest =>
          Sh.assign name text false
          match ← body.outcome with
          | .ok _ | .error (.again 1) => return some rest
          | .error (.again (n + 1)) => throw (.again n)
          | .error (.leave 1) => return none
          | .error (.leave (n + 1)) => throw (.leave n)
          | .error flow => throw flow) (texts.length + 1) texts
      return (← get).status)

/-- Run the body of the first branch with a pattern that stands for a text, and those that are to
follow it; `goesOn` says that the next body follows whatever its patterns are. -/
def chosen (fuel : Nat) (c : Context) (text : List Char) (branches : List Branch) (goesOn : Bool)
    (status : Option Nat) : Sh (Option Nat) :=
  match fuel with
  | 0 => return none
  | fuel + 1 => do
    match branches with
    | [] => return status
    | .mk patterns body ending :: rest =>
      let isChosen ← if goesOn then pure true
        else patterns.anyM fun pattern => do
          let marks ← Sh.patternFor (output fuel) pattern
          Sh.standsFor matchesAll marks text
      if isChosen then
        let status ← run fuel c body
        match ending with
        | .done => return some status
        | .through => chosen fuel c text rest true (some status)
        | .onward => chosen fuel c text rest false (some status)
      else chosen fuel c text rest false status

/-- Carry out redirections. -/
def redirect (fuel : Nat) (changes : List Redirection) : Sh Unit :=
  match fuel with
  | 0 => return ()
  | fuel + 1 => do
    let acts ← changes.mapM fun change => do
      match change with
      | .file kind stream target =>
        let path ← Sh.textFor (output fuel) target
        return Sh.redirectFile kind stream path
      | .copy stream target =>
        let text ← Sh.textFor (output fuel) target
        return Sh.redirectCopy stream text
      | .document stream number expands =>
        let word := ((← get).documents.lookup number).getD []
        let text ← if expands then Sh.documentFor (output fuel) word
          else pure ((literalText? word).getD "")
        return Sh.redirectText stream text
      | .text stream word =>
        let text ← Sh.textFor (output fuel) word
        return Sh.redirectText stream (text ++ "\n")
      | .all kind target =>
        let path ← Sh.textFor (output fuel) target
        return do
          Sh.redirectFile kind 1 path
          match (← get).streams.lookup 1 with
          | some file => Sh.setStream 2 file
          | none => return ()
    for act in acts do
      act

/-- Run something with redirections that end with it. -/
def redirected (fuel : Nat) (changes : List Redirection) (act : Sh Nat) : Sh Nat :=
  match fuel with
  | 0 => return 2
  | fuel + 1 =>
    Sh.protecting (fun before shell => { shell with streams := before.streams }) (do
      match ← (redirect fuel changes).outcome with
      | .error .failed =>
        let status := if ← Sh.isExtended then 1 else 2
        Sh.setStatus status
        return status
      | .error flow => throw flow
      | .ok () =>
        let status ← act
        feedPending fuel
        return status)

/-- Run the scripts that read what a command has written to their paths. -/
def feedPending (fuel : Nat) : Sh Unit :=
  match fuel with
  | 0 => return ()
  | fuel + 1 => do
    let shell ← get
    match shell.pending with
    | [] => return ()
    | (file, script) :: others =>
      set { shell with pending := others }
      let _ ← subshell fuel (do
        Sh.setStream 0 file
        run fuel { isLast := true } script)
      feedPending fuel

/-- Make an assignment, and give what is to be told of it. -/
def assignOne (fuel : Nat) (exports isOwn : Bool) (word : Word) : Sh (String × Option String) :=
  match fuel with
  | 0 => return ("", none)
  | fuel + 1 => do
    match assignmentOf? (← get).dialect word with
    | none => return ("", none)
    | some a =>
      match a.value with
      | [.items values] =>
        Declaring.fill a.name a.appends false (← arrayEntries fuel values)
        return (Shown.word Shown.maxDepth none word, none)
      | value =>
        let value ← Sh.valueFor (output fuel) value
        let sign := if a.appends then "+=" else "="
        if isOwn then Sh.makeLocal a.name
        match a.index with
        | some index =>
          let key ← Expansion.keyAt a.name (← Sh.documentFor (output fuel) index)
          Sh.assignItem Sh.maxComputed a.name key value a.appends
          let index := Shown.word Shown.maxDepth none index
          return (a.name ++ "[" ++ index ++ "]" ++ sign, some value)
        | none =>
          if a.appends then
            Declaring.give { name := a.name, appends := true, value := some value } false
          else Sh.assign a.name value exports
          return (a.name ++ sign, some value)

/-- The items that the values of an array make: their indexes, their values, and whether these are
added to what is there. -/
def arrayEntries (fuel : Nat) (values : List Word) :
    Sh (List (Option String × String × Bool)) :=
  match fuel with
  | 0 => return []
  | fuel + 1 =>
    values.flatMapM fun word => do
      let indexed := match indexAt? word with
        | some (index, sign :: value) =>
          if sign.isPlain '=' then some (index, false, value)
          else match value with
            | second :: value =>
              if sign.isPlain '+' && second.isPlain '=' then some (index, true, value) else none
            | [] => none
        | _ => none
      match indexed with
      | some (index, appends, value) =>
        let key ← Sh.documentFor (output fuel) index
        return [(some key, ← Sh.valueFor (output fuel) value, appends)]
      | none =>
        let texts ← (bracedWords .extended word).flatMapM fun word =>
          Sh.fieldsFor (output fuel) word
        return texts.map fun text => (none, text, false)

/-- Expand words until there is one that says what the command is. -/
def called (fuel : Nat) (words : List String) (left : List Word) (allowsFunctions : Bool)
    (first : Option Called) : Sh Called :=
  match fuel with
  | 0 => Sh.fail depthText
  | fuel + 1 => do
    match words, left with
    | [], [] =>
      match first with
      | some f => return { f with words := [], left := [] }
      | none => return ⟨[], [], .regular ":", false, true, none, []⟩
    | [], word :: left =>
      called fuel (← Sh.fieldsFor (output fuel) word) left allowsFunctions first
    | name :: rest, left =>
      let meaning := meaningOf (← get) allowsFunctions name
      let isSpecial := match meaning with
        | .special _ => true
        | _ => false
      let here : Called := match first with
        | none => ⟨name :: rest, left, meaning, isSpecial, isSpecial, none, []⟩
        | some f => { f with words := name :: rest, left, meaning, isOpen := false }
      match meaning with
      | .regular "command" => commandOptions fuel here rest left
      | _ => return here

/-- Take the options of `command` away and go on with the command that it names; other options mean
that `command` is asked about names. -/
def commandOptions (fuel : Nat) (here : Called) (words : List String) (left : List Word) :
    Sh Called :=
  match fuel with
  | 0 => return here
  | fuel + 1 => do
    match words, left with
    | [], [] => return { here with words := ["command"], left := [] }
    | [], word :: left =>
      let more ← Sh.fieldsFor (output fuel) word
      commandOptions fuel { here with words := here.words ++ more, left } more left
    | word :: rest, left =>
      match word.toList with
      | ['-', '-'] =>
        if rest.isEmpty then
          match left with
          | [] => return here
          | next :: left =>
            let more ← Sh.fieldsFor (output fuel) next
            if more.isEmpty then commandOptions fuel here ["--"] left
            else called fuel more left false (some here)
        else called fuel rest left false (some here)
      | '-' :: c :: cs =>
        if (c :: cs).all (· = 'p') then
          commandOptions fuel { here with search := some defaultSearch } rest left
        else return here
      | _ => called fuel (word :: rest) left false (some here)

/-- Run a simple command. -/
def simple (fuel : Nat) (c : Context) (line : Nat) (assignments words : List Word)
    (changes : List Redirection) : Sh Nat :=
  match fuel with
  | 0 => return 2
  | fuel + 1 => do
    Sh.setLine line
    let before ← get
    let dialect := before.dialect
    set { before with substituted := 0, compounds := [], pending := [] }
    let called ← called fuel [] (words.flatMap (bracedWords dialect)) true none
    let declares := match called.meaning with
      | .special name | .regular name => (declarersIn dialect).elem name
      | _ => false
    let more ← called.left.flatMapM fun word => do
      match if declares then assignmentOf? dialect word else none with
      | some a =>
        let front ← match a.index with
          | some index => pure (a.name ++ "[" ++ (← Sh.documentFor (output fuel) index) ++ "]")
          | none => pure a.name
        let sign := if a.appends then "+=" else "="
        match a.value with
        | [.items values] =>
          let entries ← arrayEntries fuel values
          modify fun shell => { shell with compounds := (a.name, entries) :: shell.compounds }
          return [front ++ sign]
        | value => return [front ++ sign ++ (← Sh.valueFor (output fuel) value)]
      | none => Sh.fieldsFor (output fuel) word
    let words := called.words ++ more
    let isExec := match called.meaning with
      | .special "exec" | .regular "exec" => true
      | _ => false
    let act : Sh Nat := do
      match ← (redirect fuel changes).outcome with
      | .error .failed =>
        let status := if dialect = .extended then 1 else 2
        Sh.setStatus status
        if called.isSpecial then throw .failed
        return status
      | .error flow => throw flow
      | .ok () =>
        let exports := !called.isOpen || (isExec && words.length > 1)
        let assigned ← assignments.mapM (assignOne fuel exports (!called.isOpen))
        Sh.trace assigned words
        match words with
        | [] => return (← get).substituted
        | name :: arguments =>
          let status ← carryOut fuel c called name arguments
          feedPending fuel
          return status
    let framed : Sh Nat :=
      if called.isOpen || (dialect = .extended && assignments.isEmpty) then act
      else do
        Sh.enterFrame
        let result ← act.outcome
        Sh.leaveFrame
        Sh.proceed result
    if isExec then
      let before ← get
      let status ← framed
      if words.length > 1 then modify fun shell => { shell with streams := before.streams }
      return status
    else
      let status ← if changes.isEmpty then framed
        else Sh.protecting (fun before shell => { shell with streams := before.streams }) framed
      match dialect, words.getLast? with
      | .extended, some last =>
        modify fun shell => { shell with
          streams := shell.streams.filter fun p => p.1 ≤ 9 || before.streams.elem p }
        Sh.putVariable "_" { value := some last }
      | _, _ => pure ()
      return status

/-- Carry out a command whose words have been expanded. -/
def carryOut (fuel : Nat) (c : Context) (called : Called) (name : String)
    (arguments : List String) : Sh Nat :=
  match fuel with
  | 0 => return 2
  | fuel + 1 => do
    match called.meaning with
    | .function body => callFunction fuel c name body arguments
    | .special command | .regular command =>
      let before ← get
      set { before with commandName := some name }
      let result ← (builtin fuel c command called arguments).outcome
      modify fun shell => { shell with commandName := before.commandName }
      match result with
      | .error .failed => if called.isSpecial then throw .failed else return (← get).status
      | result => Sh.proceed result
    | .program =>
      let search ← match called.search with
        | some search => pure search
        | none => Builtin.searchPath
      program fuel c search name arguments

/-- Run a program, and give its status. -/
def program (fuel : Nat) (c : Context) (search name : String) (arguments : List String) : Sh Nat :=
  match fuel with
  | 0 => return 2
  | _ + 1 => do
    let shell ← get
    let found ← if name.toList.elem '/' then Sh.launchPath name name arguments
      else match findProgram shell.system.tree shell.directory search name with
        | .ok path =>
          Builtin.remember name path
          Sh.launchPath path name arguments
        | .error fault =>
          let text := if shell.isExtended && shell.commandName.isSome then "not found"
            else (Sh.launchFailure shell.dialect false (.file fault)).1
          Sh.warn (name ++ ": " ++ text)
          return 127
    match found with
    | .error fault =>
      let (text, status) := Sh.launchFailure shell.dialect true fault
      Sh.warn (name ++ ": " ++ text)
      return status
    | .ok launch =>
      if launch.program = "sleep" then Sh.finishJobs
      let shell ← get
      let path := (shell.hashed.lookup name).getD name
      let isReplaced := c.isFinal && shell.isExtended && shell.traps.isEmpty
      if isReplaced then
        match (shell.vars.lookup "SHLVL").bind fun v => v.value.bind Arithmetic.decimal? with
        | some n => Sh.assign "SHLVL" (toString (n - 1)) true
        | none => pure ()
      let ended ← Sh.runTask path launch
      match ended with
      | .signal n =>
        if c.isLast || isReplaced then throw (.killed n)
        Sh.reportEnd ended
        return ended.status
      | .code n => return n

/-- Call a function. -/
def callFunction (fuel : Nat) (c : Context) (name : String) (body : Command)
    (arguments : List String) : Sh Nat :=
  match fuel with
  | 0 => return 2
  | fuel + 1 => do
    let isExtended ← Sh.isExtended
    let result ← (Sh.protecting (fun before shell => { shell with
      parameters := before.parameters, loops := before.loops, calls := before.calls
      isFunction := before.isFunction, frames := before.frames
      optionIndex := if isExtended then shell.optionIndex else before.optionIndex
      optionLetter := if isExtended then shell.optionLetter else before.optionLetter }) (do
      if maxCalls ≤ (← get).calls then Sh.fail depthText
      if isExtended then Sh.enterFrame
      modify fun shell => { shell with
        parameters := arguments, loops := 0, calls := shell.calls + 1, isFunction := true
        frames := (name, (shell.origins.lookup name).getD "") :: shell.frames
        optionIndex := if isExtended then shell.optionIndex else 1
        optionLetter := if isExtended then shell.optionLetter else 0 }
      (run fuel c.inner body).outcome)).outcome
    if isExtended then Sh.leaveFrame
    match ← Sh.proceed result with
    | .ok status => return status
    | .error .returned => return (← get).status
    | .error flow => throw flow

/-- Carry out a command of the shell. -/
def builtin (fuel : Nat) (c : Context) (command : String) (called : Called)
    (arguments : List String) : Sh Nat :=
  match fuel with
  | 0 => return 2
  | fuel + 1 => do
    let statusOf := fun (texts : List String) => do
      match texts with
      | [] => return (← get).status
      | text :: _ => Builtin.numberOf text
    if ← Sh.isExtended then return ← extendedBuiltin fuel c command called arguments
    match command with
    | "eval" =>
      if arguments.isEmpty then return 0
      else runText fuel c.inner (String.intercalate " " arguments).toList ""
    | "." => source fuel arguments
    | "exec" =>
      let (_, words) ← Builtin.splitOptions "" arguments
      match words with
      | [] => return 0
      | name :: arguments =>
        let status ← program fuel { c with isLast := true } (← Builtin.searchPath) name arguments
        Sh.setStatus status
        modify fun shell => { shell with traps := [] }
        throw .exit
    | "exit" =>
      Sh.setStatus (← statusOf arguments)
      throw .exit
    | "return" =>
      Sh.setStatus (← statusOf arguments)
      throw .returned
    | "break" | "continue" =>
      let n ← match arguments with
        | [] => pure 1
        | text :: _ => Builtin.numberOf text
      if n = 0 then Sh.fail ("Illegal number: " ++ (arguments.headD ""))
      let n := min n (← get).loops
      if n = 0 then return 0
      Sh.setStatus 0
      throw (if command = "break" then .leave n else .again n)
    | "wait" => Sh.wait arguments
    | "command" =>
      let (options, names) ← Builtin.splitOptions "pvV" arguments
      let search ← match called.search with
        | some search => pure search
        | none => Builtin.searchPath
      match names, options.reverse.find? fun o => o.1 != 'p' with
      | name :: _, some (letter, _) => Builtin.describe name search (letter = 'V')
      | _, _ => return 0
    | command =>
      match Builtin.table.lookup command with
      | some act => act arguments
      | none => return 0

/-- Run the commands of a file. -/
def source (fuel : Nat) (arguments : List String) : Sh Nat :=
  match fuel with
  | 0 => return 2
  | fuel + 1 => do
    let (_, names) ← Builtin.splitOptions "" arguments
    match names with
    | [] => return 0
    | name :: _ =>
      let shell ← get
      let t := shell.system.tree
      let path ← if name.toList.elem '/' then pure name
        else
          let found := (candidates (← Builtin.searchPath) name).find? fun path =>
            t.isFile shell.directory (ofOctets path)
          match found with
          | some path => pure path
          | none => Sh.fail (name ++ ": not found")
      match t.read shell.directory (ofOctets path) with
      | .error fault => Sh.fail ("cannot open " ++ path ++ ": " ++ openText false fault)
      | .ok bytes =>
        modify fun shell => { shell with commandName := some path }
        match ← (runText fuel {} (octets bytes) "").outcome with
        | .error .returned => return (← get).status
        | result => Sh.proceed result

/-- Carry out a command of a shell of the extended language. -/
def extendedBuiltin (fuel : Nat) (c : Context) (command : String) (called : Called)
    (arguments : List String) : Sh Nat :=
  match fuel with
  | 0 => return 2
  | fuel + 1 => do
    let plain := match arguments with
      | "--" :: rest => rest
      | arguments => arguments
    let statusOf : Sh Nat := do
      match plain with
      | [] => return (← get).status
      | [text] =>
        match Arithmetic.decimal? text with
        | some n => return (n % 256).toNat
        | none =>
          Sh.warn (text ++ ": numeric argument required")
          return 2
      | _ =>
        Sh.warn "too many arguments"
        Sh.setStatus 1
        throw .exit
    match command with
    | "eval" =>
      if plain.isEmpty then return 0
      else
        modify fun shell => { shell with commandName := none }
        Sh.protecting (fun before shell => { shell with nesting := before.nesting }) (do
          Sh.setNesting ((← get).nesting + 1)
          runText fuel c.inner (String.intercalate " " plain).toList "eval")
    | "." | "source" => extendedSource fuel plain
    | "exec" =>
      let (_, words) ← Usage.split "cla:" arguments
      match words with
      | [] => return 0
      | name :: arguments =>
        modify fun shell => { shell with commandName := some "exec" }
        let status ← program fuel { c with isLast := true } (← Builtin.searchPath) name arguments
        Sh.setStatus status
        modify fun shell => { shell with traps := [] }
        throw .exit
    | "exit" =>
      Sh.setStatus (← statusOf)
      throw .exit
    | "return" =>
      let shell ← get
      if shell.frames.isEmpty then
        Sh.failWith 2 "can only `return' from a function or sourced script"
      Sh.setStatus (← statusOf)
      throw .returned
    | "break" | "continue" =>
      let n ← match plain with
        | [] => pure 1
        | text :: _ =>
          match Arithmetic.decimal? text with
          | some n => pure n
          | none =>
            Sh.warn (text ++ ": numeric argument required")
            Sh.setStatus 128
            throw .exit
      let loops := (← get).loops
      if loops = 0 then
        Sh.warn "only meaningful in a `for', `while', or `until' loop"
        return 0
      if n ≤ 0 then
        Sh.warn (toString n ++ ": loop count out of range")
        Sh.setStatus 1
        throw (.leave loops)
      let n := min n.toNat loops
      Sh.setStatus 0
      throw (if command = "break" then .leave n else .again n)
    | "wait" => Sh.wait arguments
    | "builtin" =>
      match plain with
      | [] => return 0
      | name :: arguments =>
        if Extended.names.elem name then
          modify fun shell => { shell with commandName := some name }
          extendedBuiltin fuel c name called arguments
        else Sh.fail (name ++ ": not a shell builtin")
    | "command" =>
      let (given, names) ← Usage.split "pvV" arguments
      let search ← match called.search with
        | some search => pure search
        | none => Builtin.searchPath
      if Usage.has given 'v' || Usage.has given 'V' then
        Extended.describe names search (Usage.has given 'V')
      else return 0
    | command =>
      match (Extended.table.lookup command).or (Builtin.table.lookup command) with
      | some act => act arguments
      | none => return 0

/-- Run the commands of a file, with further arguments as those of a script. -/
def extendedSource (fuel : Nat) (arguments : List String) : Sh Nat :=
  match fuel with
  | 0 => return 2
  | fuel + 1 => do
    match arguments with
    | [] =>
      Sh.warn "filename argument required"
      Usage.refuse
    | name :: given =>
      let shell ← get
      let t := shell.system.tree
      let search ← Builtin.searchPath
      let found := if name.toList.elem '/' then none
        else (candidates search name).find? fun path =>
          t.isFile shell.directory (ofOctets path)
      let path := found.getD name
      modify fun shell => { shell with commandName := none }
      match t.read shell.directory (ofOctets path) with
      | .error .isDirectory => Sh.fail (name ++ ": Is a directory")
      | .error fault => Sh.fail (name ++ ": " ++ fault.text)
      | .ok bytes =>
        modify fun now => { now with
          frames := ("source", path) :: now.frames, nesting := now.nesting + 1
          parameters := if given.isEmpty then now.parameters else given }
        let result ← (runText fuel {} (octets bytes) "").outcome
        modify fun now => { now with
          frames := shell.frames, nesting := shell.nesting
          parameters := if given.isEmpty then now.parameters else shell.parameters }
        match result with
        | .error .returned => return (← get).status
        | result => Sh.proceed result

end

end ScriptedShell.Local.Script
