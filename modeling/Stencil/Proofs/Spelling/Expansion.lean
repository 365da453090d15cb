import Stencil.Proofs.Spelling.Segments
import Stencil.Proofs.Spelling.Canonical

/-!
# What pieces expand to

Neither the place of a token nor the way running text is written matters to what they expand to. So
a template expands as its pieces do, one by one (`expandNodes_values`).
-/

namespace Stencil

namespace Spelling

section

variable {m : Type → Type} [Monad m] (find : String → m String)

theorem Token.expand_node (o : Nat) (t : Token) :
    (t.node o).expand find = (t.node 0).expand find := by
  rw [← Node.expand_erase, t.erase_node o 0, Node.expand_erase]

/-- The text of several pieces. -/
def expandPieces : List (Piece Token) → m String
  | [] => pure ""
  | .glyph g :: ps => do
    let later ← expandPieces ps
    pure (String.ofList [g.char] ++ later)
  | .token t :: ps => do
    let text ← (t.node 0).expand find
    let later ← expandPieces ps
    pure (text ++ later)

variable [LawfulMonad m]

theorem expandPieces_append (ps qs : List (Piece Token)) :
    expandPieces find (ps ++ qs) =
      expandPieces find ps >>= fun text =>
        expandPieces find qs >>= fun later => pure (text ++ later) := by
  induction ps with
  | nil => simp only [List.nil_append, expandPieces, pure_bind, String.empty_append, bind_pure]
  | cons p ps ih =>
    cases p <;> simp only [List.cons_append, expandPieces, ih, bind_assoc, pure_bind,
      String.append_assoc]

theorem expandPieces_glyphs (gs : List Glyph) :
    expandPieces find (gs.map .glyph) = pure (String.ofList (gs.map Glyph.char)) := by
  induction gs with
  | nil => rfl
  | cons g gs ih =>
    rw [List.map_cons, expandPieces, ih, pure_bind, ← String.ofList_append]
    rfl

theorem expandPieces_segment [Pattern.Engine] (o : Nat) (s : Segment) :
    expandPieces find s.pieces = (s.node o).expand find := by
  cases s with
  | running g gs => exact expandPieces_glyphs find (g :: gs)
  | token t => simp [Segment.pieces, expandPieces, Segment.node, t.expand_node find o]

/-- Nodes expand as the pieces they are written in. -/
theorem expandNodes_values [Pattern.Engine] (o : Nat) (ss : List Segment) :
    expandNodes find (segmentWriting.values o ss) =
      expandPieces find (ss.flatMap Segment.pieces) := by
  induction ss generalizing o with
  | nil => rfl
  | cons s ss ih =>
    rw [List.flatMap_cons, expandPieces_append, expandPieces_segment find o, ← ih]
    rfl

end

end Spelling

end Stencil
