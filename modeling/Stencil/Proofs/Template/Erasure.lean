import Stencil.Template.Expansion
import Stencil.Proofs.Template.Chunk

/-!
# Nodes without their places

`Node.erase` forgets where a node and its parts stand and whether references have braces. What is
left decides what a node expands to and which names it mentions: `Node.expand_erase` and
`Node.names_erase`.
-/

namespace Stencil

/-- The span that stands for none. -/
def Span.zero : Span := ⟨0, 0⟩

def VariableRef.erase (v : VariableRef) : VariableRef :=
  ⟨v.name, v.subscript, true, .zero⟩

def Quoted.erase (q : Quoted) : Quoted :=
  ⟨q.segments.map (Chunk.map VariableRef.erase), .zero⟩

def Filler.erase : Filler → Filler
  | .group n => .group n
  | .variable v => .variable v.erase

def Ternary.erase (t : Ternary) : Ternary :=
  ⟨t.lhs.erase, t.comparison, t.comparand.erase, t.ifTrue.erase, t.ifFalse.erase, .zero⟩

def Edit.erase (e : Edit) : Edit :=
  ⟨e.subject.erase, e.delimiter, e.pattern, e.replacement.map (Chunk.map Filler.erase),
    e.ignoreCase, e.replaceAll, .zero⟩

/-- A node without its spans, and with all its references in braces. -/
def Node.erase : Node → Node
  | .literal text _ => .literal text .zero
  | .variable v => .variable v.erase
  | .ternary t => .ternary t.erase
  | .edit e => .edit e.erase

/-! ## Names -/

theorem Quoted.names_erase (q : Quoted) : q.erase.names = q.names := by
  unfold Quoted.names Quoted.erase
  rw [List.filterMap_map]
  congr 1
  funext x
  cases x <;> rfl

theorem Filler.names_erase (parts : List (Chunk Filler)) :
    Filler.names (parts.map (Chunk.map Filler.erase)) = Filler.names parts := by
  unfold Filler.names
  rw [List.filterMap_map]
  congr 1
  funext x
  rcases x with s | g | v <;> rfl

@[simp] theorem Node.names_erase (n : Node) : n.erase.names = n.names := by
  rcases n with ⟨text, span⟩ | v | t | e
  · rfl
  · rfl
  · simp only [Node.erase, Node.names, Ternary.erase, Quoted.names_erase]
    rfl
  · simp only [Node.erase, Node.names, Edit.erase, Filler.names_erase]
    rfl

/-! ## Expansion -/

section

variable {m : Type → Type} [Monad m] (find : String → m String)

theorem expandSegments_erase (segments : List (Chunk VariableRef)) :
    expandSegments find (segments.map (Chunk.map VariableRef.erase)) =
      expandSegments find segments := by
  induction segments with
  | nil => rfl
  | cons x segments ih =>
    cases x with
    | text s => simp only [List.map_cons, Chunk.map, expandSegments, ih]
    | token v =>
      simp only [List.map_cons, Chunk.map, expandSegments, ih]
      rfl

theorem Quoted.expand_erase (q : Quoted) : q.erase.expand find = q.expand find :=
  expandSegments_erase find q.segments

theorem expandFillers_erase (parts : List (Chunk Filler)) :
    expandFillers find (parts.map (Chunk.map Filler.erase)) = expandFillers find parts := by
  induction parts with
  | nil => rfl
  | cons x parts ih =>
    rcases x with s | g | v
    · simp only [List.map_cons, Chunk.map, expandFillers, ih]
    · simp only [List.map_cons, Chunk.map, Filler.erase, expandFillers, ih]
    · simp only [List.map_cons, Chunk.map, Filler.erase, expandFillers, ih]
      rfl

@[simp] theorem Node.expand_erase (n : Node) : n.erase.expand find = n.expand find := by
  rcases n with ⟨text, span⟩ | v | t | e
  · rfl
  · rfl
  · simp only [Node.erase, Node.expand, Ternary.expand, Ternary.erase, Quoted.expand_erase]
    rfl
  · simp only [Node.erase, Node.expand, Edit.expand, Edit.erase, expandFillers_erase]
    rfl

theorem expandNodes_erase (ns : List Node) :
    expandNodes find (ns.map Node.erase) = expandNodes find ns := by
  induction ns with
  | nil => rfl
  | cons n ns ih => simp only [List.map_cons, expandNodes, Node.expand_erase, ih]

/-- Nodes that differ in their places alone expand to the same. -/
theorem expandNodes_congr {ns ms : List Node} (h : ns.map Node.erase = ms.map Node.erase) :
    expandNodes find ns = expandNodes find ms := by
  rw [← expandNodes_erase find ns, h, expandNodes_erase]

end

end Stencil
