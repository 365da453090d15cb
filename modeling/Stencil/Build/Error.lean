import Stencil.Template.Error

/-!
# Errors of builds

Why a build file cannot be loaded, or one of its values cannot be used, and the wording of each
case.
-/

namespace Stencil

/-- A place in a build file where variables are declared. -/
inductive Declarations
  | globals
  | defaults
  | notebook (source : String)
  deriving DecidableEq, Repr

/-- The name of a place. -/
def Declarations.text : Declarations → String
  | .globals => "variables"
  | .defaults => "notebook_defaults"
  | .notebook source => "notebook \"" ++ source ++ "\""

/-- What is wrong with a build. -/
inductive BuildError
  | unreadable (path cause : String)
  | malformed (cause : String)
  | invalidName (name : String) (place : Declarations)
  | notScalar (name : String) (place : Declarations)
  | missingDestination (source : String)
  | badFlag (text : String)
  | template (error : TemplateError)
  deriving DecidableEq, Repr

/-- How names are described where one is refused. -/
def nameRule : String :=
  "; names may contain only letters, digits and underscores"

/-- The message of an error. -/
def BuildError.message : BuildError → String
  | .unreadable path cause => "Cannot read \"" ++ path ++ "\": " ++ cause
  | .malformed cause => "Invalid build file: " ++ cause
  | .invalidName name place =>
    "Invalid variable name \"" ++ name ++ "\" in " ++ place.text ++ nameRule
  | .notScalar name place =>
    "Variable \"" ++ name ++ "\" in " ++ place.text ++ " must have a scalar value"
  | .missingDestination source =>
    "Notebook \"" ++ source ++
      "\": missing \"dest\", and no default \"dest\" in notebook_defaults"
  | .badFlag text => "Bad boolean value: \"" ++ text ++ "\""
  | .template error => error.message

end Stencil
