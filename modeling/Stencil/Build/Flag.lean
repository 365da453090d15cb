import Stencil.Build.Error
import Stencil.Environment

/-!
# Flags

Texts that stand for a truth value. Case does not matter, as far as ASCII letters are concerned.
-/

namespace Stencil

/-- Reads a flag. -/
def flag? (text : String) : Option Bool :=
  let word := String.ofList (text.toList.map Char.toLower)
  if ["t", "true", "1", "yes"].contains word then some true
  else if ["f", "false", "0", "no"].contains word then some false
  else none

/-- Reads a flag, or says that it is none. -/
def readFlag (text : String) : Except BuildError Bool :=
  match flag? text with
  | some b => .ok b
  | none => .error (.badFlag text)

/-- Reads a variable as a flag: a missing or an empty one is off. -/
def Environment.flag (env : Environment) (name : String) : Except BuildError Bool :=
  match env.presence name with
  | .empty => .ok false
  | .nonEmpty text => readFlag text

end Stencil
