import Stencil.Build.Basic
import Stencil.Build.Error
import Stencil.SourcePath
import Stencil.Template.Deferral

/-!
# Destinations

A destination is a template for the path that a notebook is written to. The character `@` is kept
for other purposes and must not stand in one. When a build is loaded, destinations are expanded up
to the variables that are known only later.
-/

namespace Stencil

/-- Refuses a destination with `@` in it. -/
def validateDestination (destination : String) : Except TemplateError Unit :=
  if '@' ∈ destination.toList then .error (.invalidDestination destination) else .ok ()

/-- The template that a destination is. -/
def compileDestination [Pattern.Engine] (destination : String) : Except TemplateError Template :=
  match validateDestination destination with
  | .ok () => Template.compile destination
  | .error e => .error e

/-- The variables that get their values after loading. -/
def lateVariables : List String :=
  ["target_lang", "target_extension", "notebook_type", "output_dir", "profile"]

namespace Build

/-- The variables that every template of the build sees. -/
def environment (b : Build) (builtins : Bindings String) : Environment :=
  (Environment.ofBuiltins builtins.entries).extendGlobals b.globals.entries

/-- The variables that a notebook's templates see: what its path says comes over the given
built-ins, and its own variables come over the defaults. -/
def notebookEnvironment (b : Build) (builtins : Bindings String) (n : Notebook) : Environment :=
  let env := (b.environment builtins).setBuiltins (SourcePath.builtins n.source true)
  (env.extendLocals b.defaults.locals.entries).extendLocals n.locals.entries

/-- A notebook's destination as far as it can be expanded before the late variables are known. -/
def expandDestination [Pattern.Engine] (b : Build) (builtins : Bindings String) (n : Notebook) :
    Except TemplateError String := do
  validateDestination n.destination
  let t ← Template.compile n.destination
  pure (t.partialSubstitute (b.notebookEnvironment builtins n) lateVariables)

/-- The notebooks whose destinations cannot be used, in order, with the reasons. -/
def check [Pattern.Engine] (b : Build) : List (Notebook × TemplateError) :=
  b.notebooks.filterMap fun n =>
    match compileDestination n.destination with
    | .ok _ => none
    | .error e => some (n, e)

end Build

end Stencil
