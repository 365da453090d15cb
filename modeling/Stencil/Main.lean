import Stencil.CommandLine.Run
import Stencil.Standalone

/-!
# The program

Reads the files that a command names, runs it, and prints what it says.
-/

namespace Stencil.CommandLine

/-- The positive form of an error code, which may be given as the negative number. -/
def errorCode (code : UInt32) : UInt32 :=
  if code < 0x80000000 then code else 0 - code

/-- The fault that an error of the system stands for. -/
def faultOf : IO.Error → ReadFault
  | .noFileOrDirectory _ _ _ => .missing
  | .inappropriateType _ code details =>
    if errorCode code = 21 then .isDirectory
    else if errorCode code = 20 then .notDirectory
    else .other details
  | .permissionDenied _ _ _ => .other "Permission denied (os error 13)"
  | .resourceExhausted _ code details =>
    if errorCode code = 36 then .nameTooLong else .other details
  | .invalidArgument _ code details =>
    if errorCode code = 36 then .nameTooLong else .other details
  | e => .other (toString e)

/-- Reads a file of the system. -/
def readFile (path : String) : IO (Except ReadFault String) := do
  try
    return decodeText (← IO.FS.readBinFile path)
  catch e =>
    return .error (faultOf e)

/-- Reads the files that a command names. -/
def readFiles (paths : List String) : IO ReadFile := do
  let read ← paths.mapM fun path => do return (path, ← readFile path)
  return fun path => (read.lookup path).getD (.error .missing)

end Stencil.CommandLine

open Stencil.CommandLine in
def main (arguments : List String) : IO UInt32 := do
  let paths := ((Command.ofArguments? false arguments).map Command.paths).getD []
  let outcome := run (← readFiles paths) arguments
  IO.print outcome.output
  IO.eprint outcome.errors
  return outcome.code
