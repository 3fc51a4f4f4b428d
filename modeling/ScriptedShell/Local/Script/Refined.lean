/-
# Refined parameters

What the extended language makes of parameters and of the items of arrays when words are expanded.
-/
import ScriptedShell.Local.Script.Parameter
import ScriptedShell.Local.Script.Reshaping

namespace ScriptedShell.Local.Script

open Files Text

/-- The letters of what holds of a variable. -/
def Variable.letters (v : Variable) : String :=
  let kind := match v.items with
    | some items => if items.isNamed then "A" else "a"
    | none => ""
  kind ++ (if v.isInteger then "i" else "") ++ (if v.isReadonly then "r" else "") ++
    (if v.isExported then "x" else "") ++
    (match v.casing with
      | some true => "u"
      | some false => "l"
      | none => "")

/-- Items as a shell reads them back. -/
def Items.shown (items : Items) : String :=
  let entries := items.entries.map fun (key, value) =>
    let key := if items.isNamed then String.ofList (keyText key.toList) else key
    "[" ++ key ++ "]=" ++ String.ofList (doubleQuotes value.toList)
  "(" ++ String.intercalate " " entries ++ (if items.isNamed && !entries.isEmpty then " )" else ")")
where
  /-- A key, in quotes if something in it means something. -/
  keyText (key : List Char) : List Char :=
    if key.any isControl then escapedQuotes key
    else if key.any fun c => hasMeaning c then doubleQuotes key
    else key

namespace Expansion

/-- The key that the text of an index names among the items of a variable. -/
def keyAt (name text : String) : Sh String := do
  let v := ((← Sh.bindingOf? name).getD {})
  let items := v.asItems
  if items.isNamed then return text
  else match items.key? (← Sh.compute Sh.maxComputed text) with
    | some key => return key
    | none => Sh.fail (name ++ ": bad array subscript")

/-- The subject that a name and the text of an index stand for. -/
def itemOf (name index : String) : Sh Subject := do
  let v := ((← Sh.bindingOf? name).getD {})
  let items := v.asItems
  if index = "@" || index = "*" then
    let texts := items.values
    let gap := joint (← get)
    let value := if texts.isEmpty then none else some (String.intercalate gap texts)
    return { name, value, texts := some texts, isEach := index = "@",
             give := fun _ => Sh.fail (name ++ "[" ++ index ++ "]: bad array subscript") }
  else
    let key ← keyAt name index
    return { name := name ++ "[" ++ index ++ "]", value := items.get? key,
             give := fun text => Sh.assignItem Sh.maxComputed name key text false }

/-- The subject that a text names: a parameter, or an item of an array. -/
def subjectNamed (text : String) : Sh Subject :=
  match text.toList.span (· != '[') with
  | (name, '[' :: index) =>
    if index.getLast? = some ']' then itemOf (String.ofList name) (String.ofList index.dropLast)
    else subjectOf text
  | _ => subjectOf text

/-- The stretch of a subject. -/
def stretchBits (m : Manner) (name : String) (index : Option Word) (p : Subject)
    (offset : Int) (length : Option Int) (lengthText : String) (quoted : Bool) :
    Sh (List Bit) := do
  let negative : Sh (List Bit) := Sh.fail (lengthText ++ ": substring expression < 0")
  let missing := fun (range : Option (Nat × Nat)) (all : List String) => do
    match range with
    | some range => return Reshaping.cut range all
    | none =>
      let _ ← negative
      return []
  match p.texts with
  | none =>
    p.demand
    let text := (p.value.getD "").toList
    match Reshaping.stretch? text.length offset length with
    | some range => return bitsOf quoted (Reshaping.cut range text)
    | none => negative
  | some texts =>
    if length.any (· < 0) then return ← negative
    let shell ← get
    let texts ← match index with
      | none =>
        let all := shell.name :: texts
        missing (Reshaping.stretch? all.length offset length) all
      | some _ =>
        let items := ((← Sh.bindingOf? name).getD {}).asItems
        let isNamed := items.isNamed
        let start : Int := if offset < 0 && !isNamed then offset + items.next else offset
        let from' := if isNamed then items.entries.drop (max 1 start - 1).toNat
          else if start < 0 then []
          else items.entries.filter fun p => start ≤ (p.1.toNat?.getD 0 : Nat)
        let from' := from'.map (·.2)
        pure (match length with
          | some n => from'.take n.toNat
          | none => from')
    listBits m p.isEach texts quoted

/-- What a letter makes of a text. -/
def transformedText (letter : Char) (text : List Char) : List Char :=
  match letter with
  | 'Q' => inQuotes text
  | 'U' => text.map Char.toUpper
  | 'L' => text.map Char.toLower
  | 'u' => Reshaping.recased true false [] text
  | 'E' => Reshaping.unescaped (text.length + 1) text
  | _ => text

/-- The bits that are put in for what the extended language makes of a parameter, where `inner` gives
the bits of words. -/
def refinedBits (inner : Manner → Word → Sh (List Bit)) (m : Manner) (name : String)
    (index : Option Word) (refinement : Refinement) (words : List Word) (quoted : Bool) :
    Sh (List Bit) := do
  let textOf := fun (word : Word) => do return bitText (← inner {} word)
  let indexText ← match index with
    | some index => some <$> textOf index
    | none => pure none
  let subject ← match refinement, indexText with
    | .names, _ | .keys, _ | .meaningless _, _ => subjectOf ""
    | _, some text => itemOf name text
    | _, none => subjectOf name
  let word := words.headD []
  match refinement with
  | .meaningless text => Sh.refuse (.meaningless text)
  | .usual use => usualBits inner m subject use word quoted
  | .indirect use =>
    match subject.value with
    | none => Sh.fail (name ++ ": invalid indirect expansion")
    | some target => usualBits inner m (← subjectNamed target) use word quoted
  | .keys =>
    let items := ((← Sh.bindingOf? name).getD {}).asItems
    listBits m (indexText = some "@") items.keys quoted
  | .names =>
    let all := ((← get).vars.filter fun p =>
      p.2.value.isSome && name.toList.isPrefixOf p.1.toList).map (·.1)
    listBits m indexText.isSome all.mergeSort quoted
  | .stretch =>
    let offset ← Sh.compute Sh.maxComputed (← textOf word)
    match words.drop 1 with
    | [] => stretchBits m name index subject offset none "" quoted
    | length :: _ =>
      let text ← textOf length
      let n ← Sh.compute Sh.maxComputed text
      stretchBits m name index subject offset (some n) text quoted
  | .replaced isAll atEnd =>
    subject.demand
    let marks ← marksOf (← inner { hasHome := true } word)
    let bits ← inner {} (words.getD 1 [])
    subject.bitsMade m quoted (Reshaping.replaced isAll atEnd marks bits)
  | .recased isUpper isAll =>
    subject.demand
    let marks ← marksOf (← inner {} word)
    subject.bitsMade m quoted (Reshaping.recased isUpper isAll marks)
  | .transformed letter =>
    let v ← Sh.bindingOf? name
    match letter with
    | 'a' => return bitsOf quoted ((v.map Variable.letters).getD "").toList
    | 'A' =>
      match v with
      | some { value := some value, items := none, .. } =>
        return bitsOf quoted
          ((name ++ "=").toList ++ inQuotes value.toList)
      | some { items := some items, .. } =>
        return bitsOf quoted ("declare -" ++ ((v.map Variable.letters).getD "") ++ " " ++ name ++
          "=" ++ items.shown).toList
      | _ => return []
    | letter =>
      subject.demand
      if subject.value.isNone then return if quoted then [] else [.border false]
      subject.bitsMade m quoted (transformedText letter)

end Expansion

end ScriptedShell.Local.Script
