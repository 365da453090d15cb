import Stencil.Proofs.Template.Erasure

/-!
# Moving spans

`Node.mapSpans` changes every span in a node, the nested ones too. A shift to another place is one
such change (`Span.shift`), and forgetting the places is another (`Node.unplaced`). Neither names
nor expansions depend on spans: `Node.names_mapSpans` and `expandNodes_mapSpans`.
-/

namespace Stencil

/-- The span `k` bytes further on. -/
def Span.shift (k : Nat) (s : Span) : Span :=
  ⟨k + s.start, k + s.stop⟩

section

variable (f : Span → Span)

def VariableRef.mapSpans (v : VariableRef) : VariableRef :=
  { v with span := f v.span }

def Quoted.mapSpans (q : Quoted) : Quoted :=
  ⟨q.segments.map (Chunk.map (VariableRef.mapSpans f)), f q.span⟩

def Filler.mapSpans : Filler → Filler
  | .group n => .group n
  | .variable v => .variable (v.mapSpans f)

def Ternary.mapSpans (t : Ternary) : Ternary :=
  ⟨t.lhs.mapSpans f, t.comparison, t.comparand.mapSpans f, t.ifTrue.mapSpans f,
    t.ifFalse.mapSpans f, f t.span⟩

def Edit.mapSpans (e : Edit) : Edit :=
  ⟨e.subject.mapSpans f, e.delimiter, e.pattern, e.replacement.map (Chunk.map (Filler.mapSpans f)),
    e.ignoreCase, e.replaceAll, f e.span⟩

/-- The node with every span in it changed. -/
def Node.mapSpans : Node → Node
  | .literal text span => .literal text (f span)
  | .variable v => .variable (v.mapSpans f)
  | .ternary t => .ternary (t.mapSpans f)
  | .edit e => .edit (e.mapSpans f)

end

/-- The node `k` bytes further on. -/
def Node.shift (k : Nat) : Node → Node :=
  mapSpans (Span.shift k)

/-- The node without its places. -/
def Node.unplaced : Node → Node :=
  mapSpans fun _ => .zero

/-! ## One change after another -/

section

variable (f g : Span → Span)

theorem Quoted.mapSpans_mapSpans (q : Quoted) :
    (q.mapSpans f).mapSpans g = q.mapSpans (g ∘ f) := by
  simp only [mapSpans, List.map_map]
  congr 2
  funext x
  exact x.map_map _ _

theorem Node.mapSpans_mapSpans (n : Node) : (n.mapSpans f).mapSpans g = n.mapSpans (g ∘ f) := by
  rcases n with ⟨text, span⟩ | v | t | e
  · rfl
  · rfl
  · simp only [mapSpans, Ternary.mapSpans, Quoted.mapSpans_mapSpans]
    rfl
  · have hparts : Chunk.map (Filler.mapSpans g) ∘ Chunk.map (Filler.mapSpans f) =
        Chunk.map (Filler.mapSpans (g ∘ f)) := by
      funext x
      rcases x with s | n | v <;> rfl
    simp only [mapSpans, Edit.mapSpans, List.map_map, hparts]
    rfl

@[simp] theorem Node.unplaced_mapSpans (n : Node) : (n.mapSpans f).unplaced = n.unplaced :=
  n.mapSpans_mapSpans f _

end

/-! ## What does not depend on spans -/

section

variable (f : Span → Span)

theorem Quoted.erase_mapSpans (q : Quoted) : (q.mapSpans f).erase = q.erase := by
  simp only [mapSpans, erase, List.map_map]
  congr 2
  funext x
  exact x.map_map _ _

theorem Node.erase_mapSpans (n : Node) : (n.mapSpans f).erase = n.erase := by
  rcases n with ⟨text, span⟩ | v | t | e
  · rfl
  · rfl
  · simp only [mapSpans, erase, Ternary.mapSpans, Ternary.erase, Quoted.erase_mapSpans]
    rfl
  · have hparts : Chunk.map Filler.erase ∘ Chunk.map (Filler.mapSpans f) =
        Chunk.map Filler.erase := by
      funext x
      rcases x with s | n | v <;> rfl
    simp only [mapSpans, erase, Edit.mapSpans, Edit.erase, List.map_map, hparts]
    rfl

@[simp] theorem Node.names_mapSpans (n : Node) : (n.mapSpans f).names = n.names := by
  rw [← Node.names_erase, n.erase_mapSpans, Node.names_erase]

theorem expandNodes_mapSpans {m : Type → Type} [Monad m] (find : String → m String)
    (ns : List Node) : expandNodes find (ns.map (Node.mapSpans f)) = expandNodes find ns := by
  refine expandNodes_congr find ?_
  rw [List.map_map]
  exact List.map_congr_left fun n _ => n.erase_mapSpans f

end

end Stencil
