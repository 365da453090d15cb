/-!
# Files

Text that is read from files by path, and what can go wrong in doing so. Besides the files of the
system there are `Files` that are only listed: names with contents, seen from a directory that holds
nothing else.
-/

namespace Stencil

/-- Why a file cannot be read as text. -/
inductive ReadFault
  | missing
  | isDirectory
  | notDirectory
  | nameTooLong
  | notText
  | other (text : String)
  deriving DecidableEq, Repr

/-- The wording of a fault. -/
def ReadFault.text : ReadFault → String
  | .missing => "No such file or directory (os error 2)"
  | .isDirectory => "Is a directory (os error 21)"
  | .notDirectory => "Not a directory (os error 20)"
  | .nameTooLong => "File name too long (os error 36)"
  | .notText => "stream did not contain valid UTF-8"
  | .other text => text

/-- A way to read files. -/
abbrev ReadFile := String → Except ReadFault String

/-- Reads bytes as text. -/
def decodeText (bytes : ByteArray) : Except ReadFault String :=
  match String.fromUTF8? bytes with
  | some text => .ok text
  | none => .error .notText

/-- Files by their paths, which are lists of names. -/
structure Files where
  entries : List (List String × ByteArray)

namespace Files

/-- The greatest number of bytes in a name. -/
def longestName : Nat := 255

/-- The greatest number of bytes in a path. -/
def longestPath : Nat := 4095

/-- Files by their paths as texts. -/
def ofList (entries : List (String × ByteArray)) : Files :=
  ⟨entries.map fun e => (e.1.splitOn "/", e.2)⟩

/-- Whether some file is below a directory. -/
def hasDirectory (fs : Files) (path : List String) : Bool :=
  fs.entries.any fun e => path.length < e.1.length && e.1.take path.length == path

/-- Follows a path from a directory, `none` being any directory around the listed ones. -/
def follow (fs : Files) : Option (List String) → List String → Except ReadFault ByteArray
  | _, [] => .error .isDirectory
  | directory, name :: rest =>
    if longestName < name.utf8ByteSize then .error .nameTooLong
    else if name = "" ∨ name = "." then fs.follow directory rest
    else
      match directory with
      | none => if name = ".." then fs.follow none rest else .error .missing
      | some d =>
        if name = ".." then fs.follow (if d.isEmpty then none else some d.dropLast) rest
        else
          let path := d ++ [name]
          match fs.entries.lookup path with
          | some bytes => if rest.isEmpty then .ok bytes else .error .notDirectory
          | none => if fs.hasDirectory path then fs.follow (some path) rest else .error .missing

/-- Reads a file as text. -/
def read (fs : Files) : ReadFile := fun path =>
  if longestPath < path.utf8ByteSize then .error .nameTooLong
  else
    let names := path.splitOn "/"
    let start := if path.startsWith "/" then none else some []
    match if path = "" then .error .missing else fs.follow start names with
    | .ok bytes => decodeText bytes
    | .error fault => .error fault

end Files

end Stencil
