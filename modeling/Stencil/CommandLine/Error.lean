import Stencil.Build.Error
import Stencil.Files
import Stencil.Template.Report

/-!
# Failures of commands

Why a command fails, and what it says then: a fault in a template is shown as its report, and
everything else as one line.
-/

namespace Stencil.CommandLine

/-- Why a command fails. -/
inductive Failure
  | twoTemplates
  | noTemplate
  | notAssignment (text : String)
  | invalidName (name : String)
  | template (error : TemplateError)
  | templateFile (path : String) (error : TemplateError)
  | buildFile (path : String) (error : BuildError)
  | build (path : String) (error : BuildError)
  | destinations (failing all : Nat)
  | noReference (name source : String)
  deriving DecidableEq, Repr

/-- The message of a template's error with its cause. -/
def templateMessage (e : TemplateError) : String :=
  match e with
  | .unreadable cause => e.message ++ ": " ++ cause
  | _ => e.message

/-- The message of a build's error with its cause. -/
def buildMessage (e : BuildError) : String :=
  match e with
  | .unreadable _ cause => e.message ++ ": " ++ cause
  | .malformed cause => e.message ++ ": " ++ cause
  | .template e => templateMessage e
  | _ => e.message

namespace Failure

/-- The message of a failure. -/
def message : Failure → String
  | .twoTemplates => "Give either a TEMPLATE argument or --file, not both"
  | .noTemplate => "No template given; pass TEMPLATE or --file"
  | .notAssignment text => "Expected NAME=VALUE, got \"" ++ text ++ "\""
  | .invalidName name => "Invalid variable name \"" ++ name ++ "\"" ++ nameRule
  | .template error => templateMessage error
  | .templateFile path e => "Failed to load template " ++ path ++ ": " ++ templateMessage e
  | .buildFile path e => "Failed to load variables from " ++ path ++ ": " ++ buildMessage e
  | .build path e => "Failed to load " ++ path ++ ": " ++ buildMessage e
  | .destinations failing all =>
    toString failing ++ " of " ++ toString all ++ " notebook destination(s) failed to compile"
  | .noReference name source => "No reference to \"" ++ name ++ "\" in \"" ++ source ++ "\""

/-- The error of a template behind a failure. -/
def templateError? : Failure → Option TemplateError
  | .template e => some e
  | .templateFile _ e => some e
  | .buildFile _ (.template e) => some e
  | .build _ (.template e) => some e
  | _ => none

/-- What a failure prints. -/
def text (f : Failure) : String :=
  match f.templateError? with
  | some (.parse source fault) => (TemplateError.parse source fault).report
  | _ => "Error: " ++ f.message ++ "\n"

end Failure

end Stencil.CommandLine
