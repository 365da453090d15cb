import Stencil.External

/-!
# Standing alone

An engine, a loader and a reader of arguments that run. The engine has room for an expression when
the estimated size of its instructions, with every repetition written out, is at most ten mebibytes.
None of the three explains anything.
-/

namespace Stencil

namespace Pattern

/-- An estimate, in bytes, of the room that an expression takes, added to the room `n` that is taken
already. The last part is counted last, so that long sequences need no stack. -/
def Expr.weightFrom (n : Nat) : Expr → Nat
  | .empty => n + 32
  | .char c => n + 32 * c.utf8Size
  | .set s => n + (32 + 60 * s.size)
  | .look _ => n + 32
  | .group _ e => e.weightFrom (n + 64)
  | .seq a b => b.weightFrom (a.weightFrom n)
  | .alt a b => b.weightFrom (a.weightFrom (n + 40))
  | .rounds least none _ e => n + (80 + max least 1 * e.weightFrom 0)
  | .rounds least (some most) _ e =>
    n + (32 + least * e.weightFrom 0 + (most - least) * (40 + e.weightFrom 0))

/-- The most room that a pattern may take. -/
def maxWeight : Nat := 10485760

instance : Engine where
  fits e := e.weightFrom 0 ≤ maxWeight
  explain _ _ := ""

end Pattern

instance : Yaml.Loader where
  explain _ := ""

instance : CommandLine.Manual where
  usage _ := "Usage: bdc [--verbose] <expand|check|refs> [arguments]\n"
  help _ := "Usage: bdc [--verbose] <expand|check|refs> [arguments]\n"

end Stencil
