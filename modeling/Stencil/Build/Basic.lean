import Stencil.Bindings

/-!
# Builds

What a build file declares: variables for everything, defaults for its notebooks, and the notebooks
themselves, each with a source, a destination and variables of its own.
-/

namespace Stencil

/-- What holds for every notebook that does not say otherwise. -/
structure NotebookDefaults where
  destination : Option String
  locals : Bindings String

/-- A notebook. Its destination is a template. -/
structure Notebook where
  source : String
  destination : String
  locals : Bindings String
  skip : Bool

/-- A build: its variables, and its notebooks in order. -/
structure Build where
  globals : Bindings String
  defaults : NotebookDefaults
  notebooks : List Notebook

instance : Inhabited Build := ⟨⟨.empty, ⟨none, .empty⟩, []⟩⟩

end Stencil
