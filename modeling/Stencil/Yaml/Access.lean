import Stencil.Yaml.Value

/-!
# Access to documents

How the parts of a document are taken as what a reader expects of them: a text, a list, a record or
any value. Aliases are followed, though not without end: the number of steps is limited by the size
of the document, and so is the depth of collections inside one another.
-/

namespace Stencil.Yaml

/-- The nodes that aliases stand for, and how many aliases may be followed. -/
structure Anchors where
  nodes : List (Nat × Node)
  limit : Nat

/-- Of two nodes with the same anchor the later one counts. -/
def Anchors.ofRoot (root : Node) : Anchors :=
  ⟨root.anchored.reverse, 100 * root.events⟩

/-- A part of the reading; the state is the number of aliases followed so far. -/
abbrev Access := ReaderT Anchors (StateT Nat Option)

namespace Access

/-- Collections are at most so deep inside one another. -/
def greatestDepth : Nat := 128

/-- Fails. -/
def refuse {α : Type} : Access α := fun _ _ => none

/-- Follows an alias. -/
def resolve (n : Node) : Access Node :=
  match n with
  | .alias a => fun anchors followed =>
    if followed < anchors.limit then
      (anchors.nodes.lookup a).map fun target => (target, followed + 1)
    else none
  | n => pure n

/-- Takes one level of a depth. -/
def below {α : Type} (depth : Nat) (f : Nat → Access α) : Access α :=
  match depth with
  | 0 => refuse
  | d + 1 => f d

/-- Reads a node as a text: the text of a scalar as it is written. -/
def text (n : Node) : Access String := do
  match ← resolve n with
  | .scalar _ t _ => pure t
  | _ => refuse

/-- Whether a node stands for nothing; a tag that says so must be right. -/
def isNothing : Node → Access Bool
  | .scalar mark t true =>
    match mark.tag with
    | some tag =>
      if tag = Value.coreTag ++ "null" then if Value.isNull t then pure true else refuse
      else pure false
    | none => pure (t.isEmpty || Value.isNull t)
  | _ => pure false

/-- Reads a node that may stand for nothing. -/
def optional {α : Type} (f : Node → Access α) (n : Node) : Access (Option α) := do
  let n ← resolve n
  if ← isNothing n then pure none else some <$> f n

/-- Reads a node as a list; an empty scalar is an empty list. -/
def items (depth : Nat) (f : Nat → Node → Access α) (n : Node) : Access (List α) := do
  match ← resolve n with
  | .sequence _ ns => below depth fun d => ns.mapM (f d)
  | .scalar _ "" true => pure []
  | _ => refuse

/-- Reads a node as a mapping; an empty scalar is an empty mapping. -/
def pairs (depth : Nat) (f : Nat → List (Node × Node) → Access α) (n : Node) : Access α := do
  match ← resolve n with
  | .mapping _ ps => below depth fun d => f d ps
  | .scalar _ "" true => f depth []
  | _ => refuse

/-- The pairs of a record, by the text of their keys. -/
def record (ps : List (Node × Node)) : Access (List (String × Node)) :=
  ps.mapM fun p => do
    let k ← text p.1
    pure (k, p.2)

/-- Reads a field of a record, which may be missing but must not be there twice. -/
def field? {α : Type} (name : String) (f : Node → Access α) (fields : List (String × Node)) :
    Access (Option α) :=
  match fields.filter (·.1 == name) with
  | [] => pure none
  | [p] => some <$> f p.2
  | _ => refuse

/-- Reads a field that may be missing or stand for nothing. -/
def optionalField {α : Type} (name : String) (f : Node → Access α)
    (fields : List (String × Node)) : Access (Option α) :=
  Option.join <$> field? name (optional f) fields

/-- Adds a pair to a mapping, unless the key is there. -/
def addPair (ps : List (Value × Value)) (p : Value × Value) : Access (List (Value × Value)) :=
  if ps.any (fun q => q.1.same p.1) then refuse else pure (p :: ps)

/-- Reads a node as a value. -/
def value (depth : Nat) (n : Node) : Access Value := do
  let n ← resolve n
  let wrap (tag : Option String) (v : Value) : Value :=
    match Value.localTag? tag with
    | some t => .tagged t v
    | none => v
  match n, depth with
  | .scalar mark t plain, _ =>
    let tag := if (Value.localTag? mark.tag).isSome then none else mark.tag
    match Value.ofScalar? tag t plain with
    | some v => pure (wrap mark.tag v)
    | none => refuse
  | .sequence mark ns, d + 1 => do
    let vs ← ns.mapM (value d)
    pure (wrap mark.tag (.sequence vs))
  | .mapping mark ps, d + 1 => do
    let vs ← ps.foldlM (fun vs p => do
      let k ← value d p.1
      let v ← value d p.2
      addPair vs (k, v)) []
    pure (wrap mark.tag (.mapping vs.reverse))
  | _, _ => refuse

end Access

/-- Reads a text as a document, with `f` on its root; `none` where there is no root. The outer
`none` is a document that is malformed or of another shape. -/
def read? {α : Type} (f : Nat → Node → Access α) (text : String) : Option (Option α) := do
  match (← document? text).root with
  | none => pure none
  | some root =>
    let (a, _) ← (Access.optional (f Access.greatestDepth) root).run (.ofRoot root) |>.run 0
    pure a

end Stencil.Yaml
