/-
# Declaring

The commands of the extended language that say what holds of variables, give them values, show them
and take them away.
-/
import ScriptedShell.Local.Script.Builtin
import ScriptedShell.Local.Script.Refined
import ScriptedShell.Local.Script.Shown
import ScriptedShell.Local.Script.Usage

namespace ScriptedShell.Local.Script

open Files Text

namespace Declaring

/-! ## Items -/

/-- Give items to an array; items without keys get the numbers that follow. -/
def fill (name : String) (appends isNamed : Bool)
    (entries : List (Option String × String × Bool)) : Sh Unit := do
  let old := ((← get).vars.lookup name).getD {}
  if old.isReadonly then Sh.refuse (.readOnly name)
  let start : Items := if appends then old.asItems
    else { isNamed := isNamed || (old.items.any (·.isNamed)) }
  let start := { start with isNamed := start.isNamed || isNamed }
  Sh.putVariable name (old.withItems start)
  if start.isNamed && entries.any (·.1.isNone) then pairs start entries
  else
    let mut next : Nat := start.next
    for (key, value, adds) in entries do
      let key ← match key with
        | none => pure (toString next)
        | some text => Expansion.keyAt name text
      Sh.assignItem Sh.maxComputed name key value adds
      next := key.toNat?.getD next + 1
where
  /-- Items whose keys and values stand one after the other. -/
  pairs (start : Items) : List (Option String × String × Bool) → Sh Unit
    | (_, key, _) :: (_, value, _) :: rest => do
      Sh.assignItem Sh.maxComputed name key value false
      pairs start rest
    | [(_, key, _)] => Sh.assignItem Sh.maxComputed name key "" false
    | [] => return ()

/-! ## Showing -/

/-- A variable as a shell reads it back. -/
def shown (name : String) (v : Variable) : String :=
  let value := match v.items, v.value with
    | some items, _ => if items.entries.isEmpty then "=()" else "=" ++ items.shown
    | none, some value => "=" ++ String.ofList (doubleQuotes value.toList)
    | none, none => ""
  let letters := v.letters
  "declare -" ++ (if letters.isEmpty then "-" else letters) ++ " " ++ name ++ value ++ "\n"

/-- Variables in the order of their names. -/
def sorted (shell : Shell) : List (String × Variable) :=
  shell.vars.mergeSort fun a b => a.1 ≤ b.1

/-- Print the variables that satisfy `p` as a shell reads them back. -/
def showAll (p : Variable → Bool) : Sh Nat := do
  let all := (sorted (← get)).filter fun (_, v) => p v
  Builtin.printing (String.join (all.map fun (name, v) => shown name v))

/-- Print all variables with their values. -/
def listAll : Sh Nat := do
  let lines := (sorted (← get)).map fun (name, v) =>
    match v.items, v.value with
    | some items, _ => name ++ "=" ++ items.shown ++ "\n"
    | none, some value => name ++ "=" ++ String.ofList (quotedIfNeeded value.toList) ++ "\n"
    | none, none => ""
  let functions := (← get).functions.mergeSort fun a b => a.1 ≤ b.1
  Builtin.printing (String.join
    (lines ++ functions.map fun (name, body) => Shown.function name body))

/-- Print the variables with names as a shell reads them back. -/
def showNamed (names : List String) : Sh Nat := do
  let mut status := 0
  for name in names do
    match ← Sh.bindingOf? name with
    | some v => let _ ← Sh.print (shown name v)
    | none =>
      Sh.warn (name ++ ": not found")
      status := 1
  return status

/-! ## Declaring -/

/-- An argument of a declaration: the name, the index, whether the value is added, and the value. -/
structure Argument where
  name : String
  index : Option String := none
  appends : Bool := false
  value : Option String := none
  deriving Repr, DecidableEq

/-- The parts of an argument of a declaration. -/
def argument (text : String) : Argument :=
  let (front, value) := Builtin.splitAssignment text
  let appends := value.isSome && front.toList.getLast? = some '+'
  let front := if appends then front.toList.dropLast else front.toList
  match front.span (· != '[') with
  | (name, '[' :: index) =>
    if index.getLast? = some ']' then
      { name := String.ofList name, index := some (String.ofList index.dropLast), appends, value }
    else { name := String.ofList front, appends, value }
  | _ => { name := String.ofList front, appends, value }

/-- What options say about a variable. -/
def change (given : List Usage.Given) (v : Variable) : Variable :=
  given.foldl (fun (v : Variable) g =>
    match g.letter with
    | 'i' => { v with isInteger := g.isOn }
    | 'x' => { v with isExported := g.isOn }
    | 'u' => { v with casing := if g.isOn then some true else none }
    | 'l' => { v with casing := if g.isOn then some false else none }
    | 'a' => if v.items.isSome || !g.isOn then v else v.withItems v.asItems
    | 'A' =>
      match v.items with
      | some items =>
        if items.isNamed || !items.entries.isEmpty then v
        else v.withItems { isNamed := true }
      | none => v.withItems { isNamed := true }
    | _ => v) v

/-- Give the value of an argument, and the items that go with it, to a variable. -/
def give (a : Argument) (isNamed : Bool) : Sh Unit := do
  let shell ← get
  match shell.compounds.lookup a.name with
  | some entries =>
    set { shell with compounds := shell.compounds.filter (·.1 != a.name) }
    fill a.name a.appends isNamed entries
  | none =>
    match a.value, a.index with
    | none, _ => return ()
    | some value, some index =>
      let key ← Expansion.keyAt a.name index
      Sh.assignItem Sh.maxComputed a.name key value a.appends
    | some value, none =>
      let old := ((← get).vars.lookup a.name).getD {}
      if old.items.isSome then Sh.assignItem Sh.maxComputed a.name "0" value a.appends
      else if !a.appends then Sh.assign a.name value false
      else
        let here := old.value.getD ""
        Sh.assign a.name (here ++ (if old.isInteger then "+" else "") ++ value) false

/-- Declare one variable. -/
def declareOne (given : List Usage.Given) (isLocal : Bool) (text : String) : Sh Bool := do
  let a := argument text
  if !Sh.isVariableName a.name then
    Sh.warn ("`" ++ text ++ "': not a valid identifier")
    return false
  if isLocal then
    let isOwn := ((← get).saved.headD []).lookup a.name
    if isOwn.isNone then
      let isExported := ((← Sh.bindingOf? a.name).map (·.isExported)).getD false
      Sh.makeLocal a.name
      Sh.putVariable a.name { isExported }
      if a.name = "OPTIND" then
        modify fun shell => { shell with optionIndex := 1, optionLetter := 0 }
  let old := ((← get).vars.lookup a.name).getD {}
  if old.isReadonly && (a.value.isSome || given.any fun g => !g.isOn && g.letter = 'r') then
    Sh.refuse (.readOnly a.name)
  Sh.putVariable a.name (change given old)
  give a (Usage.has given 'A')
  if Usage.has given 'r' then
    let v := ((← get).vars.lookup a.name).getD {}
    Sh.putVariable a.name { v with isReadonly := true }
  return true

/-- Declare variables, one after the other. -/
def declareAll (given : List Usage.Given) (isLocal : Bool) (names : List String) : Sh Nat := do
  let mut status := 0
  for text in names do
    if !(← declareOne given isLocal text) then status := 1
  return status

/-- The options of declarations. -/
def allowed : String := "aAfFgiIlnprtux"

/-- Say what holds of variables. -/
def declare : Builtin := fun arguments => do
  let (given, names) ← Usage.options allowed true (arguments.length + 1) arguments
  if Usage.has given 'f' || Usage.has given 'F' then
    let mut status := 0
    for name in names do
      match (← get).functions.lookup name with
      | none => status := 1
      | some body =>
        let _ ← Sh.print (if Usage.has given 'F' then name ++ "\n" else Shown.function name body)
    if names.isEmpty then
      let all := (← get).functions.mergeSort fun a b => a.1 ≤ b.1
      for (name, body) in all do
        let _ ← Sh.print (if Usage.has given 'F' then "declare -f " ++ name ++ "\n"
          else Shown.function name body)
    return status
  if Usage.has given 'p' then
    if names.isEmpty then
      let wanted := given.filter fun g => g.letter != 'p'
      return ← showAll fun v => wanted.all fun g => v.letters.toList.elem g.letter
    return ← showNamed names
  if names.isEmpty then
    if given.isEmpty then return ← listAll
    return ← showAll fun v => given.all fun g => v.letters.toList.elem g.letter
  let shell ← get
  declareAll given (shell.isFunction && !Usage.has given 'g') names

/-- Let variables be the function's own. -/
def local' : Builtin := fun arguments => do
  if !(← get).isFunction then Sh.fail "can only be used in a function"
  let (given, names) ← Usage.options allowed true (arguments.length + 1) arguments
  declareAll given true names

/-- Let programs get variables. -/
def export' : Builtin := fun arguments => do
  let (given, names) ← Usage.split "fnp" arguments
  if names.isEmpty then return ← showAll (·.isExported)
  if Usage.has given 'f' then return 0
  declareAll [⟨!Usage.has given 'n', 'x', ""⟩] false names

/-- Let variables keep their values. -/
def readonly : Builtin := fun arguments => do
  let (given, names) ← Usage.split "aAfp" arguments
  if names.isEmpty then return ← showAll (·.isReadonly)
  let kinds := given.filter fun g => g.letter = 'a' || g.letter = 'A'
  declareAll (kinds ++ [⟨true, 'r', ""⟩]) false names

/-- Take variables, items or functions away. -/
def unset : Builtin := fun arguments => do
  let (given, names) ← Usage.split "fnv" arguments
  if Usage.has given 'f' && Usage.has given 'v' then
    Sh.fail "cannot simultaneously unset a function and a variable"
  let mut status := 0
  for text in names do
    let a := argument text
    let shell ← get
    let dropFunction : Sh Unit := modify fun shell =>
      { shell with functions := shell.functions.filter (·.1 != text) }
    if Usage.has given 'f' then dropFunction
    else if !Sh.isVariableName a.name || a.value.isSome then
      if Usage.has given 'v' then
        Sh.warn ("`" ++ text ++ "': not a valid identifier")
        status := 1
      else dropFunction
    else match shell.vars.lookup a.name with
      | none => if !Usage.has given 'v' then dropFunction
      | some v =>
        if v.isReadonly then
          Sh.warn (a.name ++ ": cannot unset: readonly variable")
          status := 1
        else match a.index with
          | none => Sh.unset a.name
          | some "@" | some "*" => Sh.unset a.name
          | some index =>
            let key ← Expansion.keyAt a.name index
            Sh.putVariable a.name (v.withItems (v.asItems.erase key))
  return status

end Declaring

end ScriptedShell.Local.Script
