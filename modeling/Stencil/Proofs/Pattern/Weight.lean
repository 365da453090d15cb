import Mathlib.Algebra.Ring.Nat
import Mathlib.Tactic.Common
import Stencil.Standalone
import Stencil.Text.Cursor

/-!
# The estimated size of expressions

A sequence takes the room of its parts (`weightFrom_sequence`), and characters take 32 times the
bytes that they are written in (`sum_weightFrom_chars`). So the engine that stands alone has room
for a text with a name in it when it has room for the rest and for the name.
-/

namespace Stencil.Pattern

/-- The room that is taken already counts once. -/
theorem Expr.weightFrom_eq (e : Expr) (n : Nat) : e.weightFrom n = n + e.weightFrom 0 := by
  induction e generalizing n with
  | empty | char | set | look => simp [weightFrom]
  | group number e ih => rw [weightFrom, weightFrom, ih (n + 64), ih (0 + 64)]; omega
  | seq a b iha ihb =>
    rw [weightFrom, weightFrom, ihb, ihb (a.weightFrom 0), iha]
    omega
  | alt a b iha ihb =>
    rw [weightFrom, weightFrom, ihb, ihb (a.weightFrom (0 + 40)), iha, iha (0 + 40)]
    omega
  | rounds least most greedy e ih => cases most <;> simp [weightFrom]

theorem Expr.weightFrom_sequence {es : List Expr} (h : es ≠ []) :
    (sequence es).weightFrom 0 = (es.map (·.weightFrom 0)).sum := by
  induction es with
  | nil => exact absurd rfl h
  | cons e es ih =>
    cases es with
    | nil => simp
    | cons f es =>
      rw [sequence_cons_cons, weightFrom, (sequence (f :: es)).weightFrom_eq,
        ih (List.cons_ne_nil f es)]
      rfl

theorem Expr.sum_weightFrom_chars (w : List Char) :
    (w.map fun c => (Expr.char c).weightFrom 0).sum = 32 * byteWidth w := by
  induction w with
  | nil => rfl
  | cons c cs ih =>
    rw [List.map_cons, List.sum_cons, ih, byteWidth_cons, weightFrom]
    omega

end Stencil.Pattern
