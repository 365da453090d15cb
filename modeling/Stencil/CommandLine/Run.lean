import Stencil.Build.Destination
import Stencil.Build.Load
import Stencil.CommandLine.Arguments
import Stencil.CommandLine.Error
import Stencil.Template.Occurrence

/-!
# Running commands

What each command prints, and the code that it ends with: `0` when it succeeds, `1` when it fails,
`2` for arguments that stand for no command, and `101` when it crashes.
-/

namespace Stencil.CommandLine

/-- What a run prints, and its exit code. Among the errors are neither the lines of the log, which
are for whoever watches the program, nor what the system says about a crash. -/
structure Outcome where
  code : UInt32
  output : String
  errors : String
  deriving DecidableEq, Repr

/-- The program's name and version. -/
def versionText : String := "bdc 0.1.0\n"

/-- Splits an assignment at its first equals sign. -/
def assignment (text : String) : Except Failure (String × String) :=
  match text.toList.dropWhile (· != '=') with
  | [] => .error (.notAssignment text)
  | _ :: value =>
    let name := String.ofList (text.toList.takeWhile (· != '='))
    if isName name then .ok (name, String.ofList value) else .error (.invalidName name)

/-- Reads a file as a build. -/
def readBuild [Yaml.Loader] (read : ReadFile) (path : String) : Except BuildError Build :=
  match read path with
  | .ok text => Build.ofText text
  | .error fault => .error (.unreadable path fault.text)

/-- Reads a file as a template. -/
def readTemplate [Pattern.Engine] (read : ReadFile) (path : String) :
    Except TemplateError Template :=
  match read path with
  | .ok text => Template.compile text
  | .error fault => .error (.unreadable fault.text)

namespace Expansion

/-- The template to expand: an argument or a file, but not both. -/
def load [Pattern.Engine] (e : Expansion) (read : ReadFile) : Except Failure Template :=
  match e.template, e.file with
  | some text, none => (Template.compile text).mapError .template
  | none, some path => (readTemplate read path).mapError (.templateFile path)
  | some _, some _ => .error .twoTemplates
  | none, none => .error .noTemplate

/-- The built-ins: what the source's path says, and then the given ones. -/
def builtinBindings (e : Expansion) : Except Failure (Bindings String) := do
  let given ← e.builtins.mapM assignment
  let derived :=
    match e.source with
    | some path => SourcePath.builtins path true
    | none => []
  pure ((Bindings.ofList derived).insertAll given)

/-- The globals of the build file. -/
def buildGlobals [Yaml.Loader] (e : Expansion) (read : ReadFile) :
    Except Failure (Bindings String) :=
  match e.buildFile with
  | some path => ((readBuild read path).map (·.globals)).mapError (.buildFile path)
  | none => .ok .empty

/-- The variables to expand the template with. -/
def environment [Yaml.Loader] (e : Expansion) (read : ReadFile) :
    Except Failure Environment := do
  let builtins ← e.builtinBindings
  let globals ← e.buildGlobals read
  let given ← e.definitions.mapM assignment
  let env := Environment.ofBuiltins builtins.entries
  pure ((env.extendGlobals globals.entries).extendGlobals given)

/-- The expanded template. -/
def run [Pattern.Engine] [Yaml.Loader] (e : Expansion) (read : ReadFile) :
    Except Failure String := do
  let t ← e.load read
  let env ← e.environment read
  if e.safe then pure (t.safeSubstitute env) else (t.substitute env).mapError .template

end Expansion

/-- What is said about a notebook whose destination cannot be used. -/
def problemText (n : Notebook) (e : TemplateError) : String :=
  n.source ++ ":\n" ++ e.report

/-- The outcome of a command that prints a text or fails. -/
def Outcome.ofResult : Except Failure String → Outcome
  | .ok text => ⟨0, text, ""⟩
  | .error f => ⟨1, "", f.text⟩

/-- The outcome of checking a build. -/
def checkOutcome [Pattern.Engine] (b : Build) : Outcome :=
  match b.check with
  | [] => ⟨0, "", ""⟩
  | problems =>
    let texts := problems.map fun p => problemText p.1 p.2
    let failure : Failure := .destinations problems.length b.notebooks.length
    ⟨1, "", String.join texts ++ failure.text⟩

/-- Where a template refers to a variable last. -/
def describeReference (name template : String) : Option Occurrence.Split → Except Failure String
  | some s =>
    .ok ("before:    " ++ String.ofList s.before ++ "\nreference: " ++ String.ofList s.reference ++
      "\nafter:     " ++ String.ofList s.after ++ "\n")
  | none => .error (.noReference name template)

/-- The outcome of looking for a reference. The search crashes when one of its patterns is
refused. -/
def referenceOutcome [Pattern.Engine] (name template : String) : Outcome :=
  match Occurrence.search name template with
  | .ok found => .ofResult (describeReference name template found)
  | .error _ => ⟨101, "", ""⟩

section

variable [Pattern.Engine] [Yaml.Loader] [Manual]

/-- Runs the command that some arguments stand for. -/
def Command.run (read : ReadFile) (arguments : List String) : Command → Outcome
  | .version => ⟨0, versionText, ""⟩
  | .help => ⟨0, Manual.help arguments, ""⟩
  | .expand e => .ofResult ((e.run read).map (· ++ "\n"))
  | .check path =>
    match readBuild read path with
    | .ok b => checkOutcome b
    | .error e => ⟨1, "", (Failure.build path e).text⟩
  | .refs name template => referenceOutcome name template

/-- Runs the program. -/
def run (read : ReadFile) (arguments : List String) : Outcome :=
  match Command.ofArguments? false arguments with
  | some c => c.run read arguments
  | none => ⟨2, "", Manual.usage arguments⟩

end

/-- The files that a command may read. -/
def Command.paths : Command → List String
  | .expand e => e.file.toList ++ e.buildFile.toList
  | .check path => [path]
  | _ => []

end Stencil.CommandLine
