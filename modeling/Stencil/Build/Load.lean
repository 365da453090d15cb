import Stencil.Build.Basic
import Stencil.Build.Draft
import Stencil.Build.Flag
import Stencil.External
import Stencil.Yaml.Description

/-!
# Loading builds

A draft becomes a build when its names are names, its variables have scalar values, each notebook
has a destination and each flag is one. Otherwise the first offence is reported: of the globals,
then of the defaults, then of one notebook after the other its destination, its flag and its
variables.
-/

namespace Stencil

/-- The text of a scalar, whatever tags are on it. -/
def Yaml.Value.scalarText? : Yaml.Value → Option String
  | .null => some ""
  | .bool b => some (toString b)
  | .number n => some n.text
  | .string s => some s
  | .tagged _ v => v.scalarText?
  | .sequence _ => none
  | .mapping _ => none

/-- A value as a flag: whole numbers below `2 ^ 63` are on when they are not zero. -/
def Yaml.Value.flag : Yaml.Value → Except BuildError Bool
  | .bool b => .ok b
  | .number (.integer i) =>
    if i < 2 ^ 63 then .ok (i != 0) else .error (.badFlag (Yaml.Number.integer i).text)
  | .number n => .error (.badFlag n.text)
  | .string s => readFlag s
  | .tagged _ v => v.flag
  | v => .error (.badFlag (Yaml.Description.value v))

/-- Checks one variable: first its name, then its value. -/
def checkVariable (place : Declarations) (name : String) (value : Yaml.Value) :
    Except BuildError String :=
  if isName name then
    match value.scalarText? with
    | some text => .ok text
    | none => .error (.notScalar name place)
  else .error (.invalidName name place)

/-- Checks variables in order. -/
def checkVariables (place : Declarations) (declared : Bindings Yaml.Value) :
    Except BuildError (Bindings String) :=
  declared.entries.foldlM (fun b e => do
    let text ← checkVariable place e.1 e.2
    pure (b.insert e.1 text)) .empty

/-- Checks a notebook. -/
def NotebookDraft.check (defaultDestination : Option String) (n : NotebookDraft) :
    Except BuildError Notebook :=
  match n.destination.or defaultDestination with
  | none => .error (.missingDestination n.source)
  | some destination => do
    let skip ←
      match n.skip with
      | some value => value.flag
      | none => pure false
    let locals ← checkVariables (.notebook n.source) n.locals
    pure ⟨n.source, destination, locals, skip⟩

/-- Checks a draft. -/
def Draft.check (d : Draft) : Except BuildError Build := do
  let globals ← checkVariables .globals d.globals
  let locals ← checkVariables .defaults d.defaults.locals
  let notebooks ← d.notebooks.mapM (NotebookDraft.check d.defaults.destination)
  pure ⟨globals, ⟨d.defaults.destination, locals⟩, notebooks⟩

/-- Loads the text of a build file. -/
def Build.ofText [Yaml.Loader] (text : String) : Except BuildError Build :=
  match Draft.ofText? text with
  | some d => d.check
  | none => .error (.malformed (Yaml.Loader.explain text))

end Stencil
