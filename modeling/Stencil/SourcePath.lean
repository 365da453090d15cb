import Stencil.Bindings

/-!
# Source paths

What is derived from the path of a source: its file name, the name's stem and extension, the path
up to the stem, and the language that the extension stands for.

The file name is the last component of the path. Slashes at the end and components `.` after the
name do not count. A path has no file name when nothing is left or when the last component is `..`.
-/

namespace Stencil.SourcePath

/-- A path in reverse without the slashes and the components `.` at its end. -/
def trimEnd : List Char → List Char
  | '/' :: cs => trimEnd cs
  | '.' :: '/' :: cs => trimEnd cs
  | ['.'] => []
  | cs => cs

/-- The directory part of a path, with its slash, and the file name. -/
def split? (path : String) : Option (List Char × List Char) :=
  let kept := trimEnd path.toList.reverse
  let name := (kept.takeWhile (· != '/')).reverse
  if name = [] ∨ name = ['.', '.'] then none
  else some ((kept.dropWhile (· != '/')).reverse, name)

/-- The stem of a file name, and its extension if it has one: the name is cut at its last dot,
unless that is its first character. -/
def stemAndExtension (name : List Char) : List Char × Option (List Char) :=
  let extension := (name.reverse.takeWhile (· != '.')).reverse
  let stem := ((name.reverse.dropWhile (· != '.')).drop 1).reverse
  if stem = [] then (name, none) else (stem, some extension)

/-- Whether a path starts at the root. -/
def isAbsolute (path : String) : Bool :=
  path.toList.head? == some '/'

/-- The language of a file extension, with or without dots before it. -/
def language? (extension : String) : Option String :=
  match String.ofList (extension.toList.dropWhile (· == '.')) with
  | "py" => some "Python"
  | "r" => some "R"
  | "scala" => some "Scala"
  | "sql" => some "SQL"
  | _ => none

/-- The language of any other extension. -/
def unknownLanguage : String := "???"

/-- A path without its extension. As many characters as the extension has are taken off the end of
the path, and then all that follows the stem of what is left; nothing more is taken off where that
has no file name, as with `..py`. -/
def withoutExtension (path : String) : String :=
  let extension := ((split? path).bind fun p => (stemAndExtension p.2).2).getD []
  let kept := String.ofList (path.toList.take (path.toList.length - extension.length))
  match split? kept with
  | some (directory, name) => String.ofList (directory ++ (stemAndExtension name).1)
  | none => kept

/-- The variables derived from a path, in order. A path from the root has no
`source_path_no_ext`, and the language is left out unless it is asked for. -/
def builtins (path : String) (withLanguage : Bool) : List (String × String) :=
  let name := ((split? path).map (·.2)).getD []
  let (stem, extension?) := stemAndExtension name
  let extension := String.ofList (extension?.getD [])
  [("basename", String.ofList stem), ("extension", extension), ("filename", String.ofList name)] ++
    (if isAbsolute path then [] else [("source_path_no_ext", withoutExtension path)]) ++
    (if withLanguage then [("lang", (language? extension).getD unknownLanguage)] else [])

end Stencil.SourcePath
