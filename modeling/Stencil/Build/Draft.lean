import Stencil.Bindings
import Stencil.Unicode.Property
import Stencil.Yaml.Access

/-!
# Drafts of builds

A build file as it was written, before its names and values are checked. Sections and fields that
the build does not know are passed over.
-/

namespace Stencil

/-- The defaults as they were written. -/
structure DefaultsDraft where
  destination : Option String
  locals : Bindings Yaml.Value

/-- A notebook as it was written. -/
structure NotebookDraft where
  source : String
  destination : Option String
  locals : Bindings Yaml.Value
  skip : Option Yaml.Value

/-- A build file as it was written. -/
structure Draft where
  globals : Bindings Yaml.Value
  defaults : DefaultsDraft
  notebooks : List NotebookDraft

/-- The draft of a build file that says nothing. -/
def Draft.empty : Draft := ⟨.empty, ⟨none, .empty⟩, []⟩

instance : Inhabited Draft := ⟨.empty⟩

namespace Draft

open Yaml.Access (text value record field? optionalField pairs items refuse)

/-- Reads a mapping of variables: of a name that is given again, the last value counts. -/
def variablesOf (depth : Nat) (n : Yaml.Node) : Yaml.Access (Bindings Yaml.Value) :=
  pairs depth (fun depth ps =>
    ps.foldlM (fun b p => do
      let name ← text p.1
      let v ← value depth p.2
      pure (b.insert name v)) .empty) n

/-- Reads the field that declares variables. -/
def variablesIn (depth : Nat) (fields : List (String × Yaml.Node)) :
    Yaml.Access (Bindings Yaml.Value) := do
  let found ← optionalField "variables" (variablesOf depth) fields
  pure (found.getD .empty)

/-- Reads the defaults. -/
def defaultsOf (depth : Nat) (n : Yaml.Node) : Yaml.Access DefaultsDraft :=
  pairs depth (fun depth ps => do
    let fields ← record ps
    let destination ← optionalField "dest" text fields
    let locals ← variablesIn depth fields
    pure ⟨destination, locals⟩) n

/-- Reads a notebook, which must have a source. -/
def notebookOf (depth : Nat) (n : Yaml.Node) : Yaml.Access NotebookDraft :=
  pairs depth (fun depth ps => do
    let fields ← record ps
    match ← field? "src" text fields with
    | none => refuse
    | some source =>
      let destination ← optionalField "dest" text fields
      let locals ← variablesIn depth fields
      let skip ← optionalField "skip" (value depth) fields
      pure ⟨source, destination, locals, skip⟩) n

/-- Reads the root of a build file. -/
def ofNode (depth : Nat) (n : Yaml.Node) : Yaml.Access Draft :=
  pairs depth (fun depth ps => do
    let fields ← record ps
    let globals ← variablesIn depth fields
    let defaults ← optionalField "notebook_defaults" (defaultsOf depth) fields
    let notebooks ← optionalField "notebooks" (items depth notebookOf) fields
    pure ⟨globals, defaults.getD ⟨none, .empty⟩, notebooks.getD []⟩) n

/-- Whether a text is blank. -/
def isBlank (text : String) : Bool :=
  text.toList.all Unicode.Property.whiteSpace.contains

/-- Reads the text of a build file; `none` where it is malformed. A blank one says nothing. -/
def ofText? (text : String) : Option Draft :=
  if isBlank text then some empty else (Yaml.read? ofNode text).map (·.getD empty)

end Draft

end Stencil
