import Stencil.Template.Compile

/-!
# Expanding templates

Expansion goes through the nodes from left to right and looks names up as it meets them. It is
written once, for any way of looking up: a strict look-up fails on the first name without a value,
and a lenient one takes the empty text for it and remembers the name. Of a ternary only the chosen
branch is looked at. Values are put in as they are, whatever characters they hold.
-/

namespace Stencil

section Evaluation

variable {m : Type → Type} [Monad m] (find : String → m String)

def VariableRef.expand (v : VariableRef) : m String := do
  let value ← find v.name
  match v.subscript with
  | some s => pure (s.apply value)
  | none => pure value

def expandSegments : List (Chunk VariableRef) → m String
  | [] => pure ""
  | .text s :: rest => do
    let later ← expandSegments rest
    pure (s ++ later)
  | .token v :: rest => do
    let value ← v.expand find
    let later ← expandSegments rest
    pure (value ++ later)

def Quoted.expand (q : Quoted) : m String :=
  expandSegments find q.segments

def Comparison.holds (a b : String) : Comparison → Bool
  | .equal => a == b
  | .notEqual => a != b

/-- The text of the branch that the comparison chooses. -/
def Ternary.expand (t : Ternary) : m String := do
  let value ← t.lhs.expand find
  let comparand ← t.comparand.expand find
  if t.comparison.holds value comparand then t.ifTrue.expand find else t.ifFalse.expand find

/-- A replacement with its references filled in. -/
def expandFillers : List (Chunk Filler) → m (List Pattern.Part)
  | [] => pure []
  | .text s :: rest => do
    let later ← expandFillers rest
    pure (.text s :: later)
  | .token (.group n) :: rest => do
    let later ← expandFillers rest
    pure (.group n :: later)
  | .token (.variable v) :: rest => do
    let value ← v.expand find
    let later ← expandFillers rest
    pure (.text value :: later)

/-- The value of the subject after the edit. -/
def Edit.apply (e : Edit) (subject : String) (parts : List Pattern.Part) : String :=
  match Pattern.read? e.ignoreCase e.pattern with
  | some p => p.replace e.replaceAll parts subject
  | none => subject

def Edit.expand (e : Edit) : m String := do
  let subject ← e.subject.expand find
  let parts ← expandFillers find e.replacement
  pure (e.apply subject parts)

def Node.expand : Node → m String
  | .literal text _ => pure text
  | .variable v => v.expand find
  | .ternary t => t.expand find
  | .edit e => e.expand find

def expandNodes : List Node → m String
  | [] => pure ""
  | n :: ns => do
    let text ← n.expand find
    let later ← expandNodes ns
    pure (text ++ later)

end Evaluation

/-- Looks a name up, or fails. -/
def strictFind (env : Environment) (template : String) (name : String) :
    Except TemplateError String :=
  match env.get? name with
  | some value => .ok value
  | none => .error (.undefinedVariable name template)

/-- Looks a name up; without a value it is the empty text, and the name is remembered once. -/
def lenientFind (env : Environment) (name : String) : StateM (List String) String := fun seen =>
  match env.get? name with
  | some value => (value, seen)
  | none => ("", if name ∈ seen then seen else seen ++ [name])

/-- Looks a name up by the strict or by the lenient rule. The names remembered so far are kept
beside the outcome, also when it is an error. -/
def contextFind (env : Environment) (template : String) (strict : Bool) (name : String) :
    ExceptT TemplateError (StateM (List String)) String := fun seen =>
  match env.get? name with
  | some value => (.ok value, seen)
  | none =>
    if strict then (.error (.undefinedVariable name template), seen)
    else (.ok "", if name ∈ seen then seen else seen ++ [name])

/-- Expands some nodes by one of the two rules: the outcome, and the names remembered. -/
def evaluate (env : Environment) (template : String) (strict : Bool) (nodes : List Node) :
    Except TemplateError String × List String :=
  (expandNodes (contextFind env template strict) nodes).run.run []

/-- The text of some nodes, or the first name without a value. -/
def expandStrict (env : Environment) (template : String) (nodes : List Node) :
    Except TemplateError String :=
  expandNodes (strictFind env template) nodes

/-- The text of some nodes, with the names without a value in the order of first use. -/
def expandLenient (env : Environment) (nodes : List Node) : String × List String :=
  (expandNodes (lenientFind env) nodes).run []

namespace Template

/-- Expands a template in which every name that is met must have a value. -/
def substitute (t : Template) (env : Environment) : Except TemplateError String :=
  expandStrict env t.source t.nodes

/-- Expands a template, with the empty text for names without a value. -/
def safeSubstitute (t : Template) (env : Environment) : String :=
  (expandLenient env t.nodes).1

/-- The names that a lenient expansion finds without a value. -/
def undefined (t : Template) (env : Environment) : List String :=
  (expandLenient env t.nodes).2

end Template

/-- The environment of built-ins and globals. -/
def Environment.ofVariables (globals builtins : Bindings String) : Environment :=
  (Environment.ofBuiltins builtins.entries).extendGlobals globals.entries

/-- Compiles and expands a source; every name must have a value. -/
def expand [Pattern.Engine] (source : String) (globals builtins : Bindings String) :
    Except TemplateError String :=
  match Template.compile source with
  | .ok t => t.substitute (.ofVariables globals builtins)
  | .error e => .error e

/-- Compiles and expands a source, with the empty text for names without a value. -/
def expandSafe [Pattern.Engine] (source : String) (globals builtins : Bindings String) :
    Except TemplateError String :=
  match Template.compile source with
  | .ok t => .ok (t.safeSubstitute (.ofVariables globals builtins))
  | .error e => .error e

end Stencil
