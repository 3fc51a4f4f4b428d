/-
# Paths

Paths are texts whose segments are set apart by slashes.  A path that begins with a slash is
absolute; joining an absolute path to another one gives the absolute path.
-/
import ScriptedShell.Text.Blank
import ScriptedShell.Text.Lines
import ScriptedShell.Text.Utf8

namespace ScriptedShell.Files.Path

open Text

/-- Whether a path begins at the root. -/
def isAbsolute (path : String) : Bool := startsWith path "/"

/-- A path taken from a base directory. -/
def join (base path : String) : String :=
  if isAbsolute path || base.isEmpty then path
  else if base.toList.getLast? = some '/' then base ++ path
  else base ++ "/" ++ path

/-- The texts between the slashes of a path. -/
def segments (path : String) : List String :=
  (splitAtEach (· = '/') path.toList).map String.ofList

/-- Whether a segment stays where it is. -/
def isStill (segment : String) : Bool := segment.isEmpty || segment = "."

/-- The segments of a path up to the last one that names something. -/
def significant (path : String) : List String :=
  ((segments path).reverse.dropWhile isStill).reverse

/-- The last name of a path, unless the path ends by going up. -/
def name? (path : String) : Option String :=
  match (significant path).getLast? with
  | some ".." | none => none
  | some name => some name

/-- The stem and the extension of a name; a dot at its beginning begins no extension. -/
def splitName (name : String) : String × Option String :=
  match (name.toList.reverse.span (· != '.')) with
  | (ext, _ :: before@(_ :: _)) => (String.ofList before.reverse, some (String.ofList ext.reverse))
  | _ => (name, none)

/-- The extension of the last name of a path. -/
def extension? (path : String) : Option String := (name? path).bind fun name => (splitName name).2

/-- The path with a text put after a dot at the end of the stem of its last name; as it was if there
is no last name. -/
def extendStem (path ext : String) : String :=
  match name? path with
  | none => path
  | some name =>
    let kept := (significant path).dropLast ++ [(splitName name).1 ++ "." ++ ext]
    String.intercalate "/" kept

/-- The path without as many bytes at its end as its extension has. -/
def dropExtension (path : String) : String :=
  let bytes := path.toUTF8.toList
  let size := ((extension? path).getD "").utf8ByteSize
  String.ofList (decodeLossy (bytes.take (bytes.length - size)))

/-- The path with another extension on its last name.  What is left of the path without its
extension must have a last name: a name of two dots is none. -/
def withExtension (path ext : String) : String := extendStem (dropExtension path) ext

/-- The directory that the last name of a path is in, if the path has a last segment. -/
def parent? (path : String) : Option String :=
  match significant path with
  | [] => if isAbsolute path then none else if path.isEmpty then none else some ""
  | names =>
    let kept := (names.dropLast.reverse.dropWhile isStill).reverse
    some (if kept.isEmpty then if isAbsolute path then "/" else "" else String.intercalate "/" kept)

end ScriptedShell.Files.Path
