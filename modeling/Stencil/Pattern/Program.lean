import Stencil.Pattern.Expr

/-!
# Programs

A pattern expression is laid out as a list of instructions. A fragment is laid out from an address
`base` on, is entered there, and goes on to the address `next` when it is done. The main statement
`Fragment.length_code` says that every fragment takes up exactly the room it announces.
-/

namespace Stencil.Pattern

/-- One instruction; the numbers are the addresses it goes on to, the preferred one first. -/
inductive Instr
  | char (c : Char) (next : Nat)
  | set (s : CharSet) (next : Nat)
  | look (l : Look) (next : Nat)
  | save (slot : Nat) (next : Nat)
  | jump (next : Nat)
  | split (first second : Nat)
  | accept

/-- Instructions that can be laid out anywhere. -/
structure Fragment where
  size : Nat
  code : (base next : Nat) → List Instr
  length_code : ∀ base next, (code base next).length = size

namespace Fragment

/-- A fragment of one instruction. -/
def single (instr : Nat → Instr) : Fragment where
  size := 1
  code _ next := [instr next]
  length_code _ _ := rfl

/-- One fragment after the other. -/
def seq (a b : Fragment) : Fragment where
  size := a.size + b.size
  code base next := a.code base (base + a.size) ++ b.code (base + a.size) next
  length_code base next := by simp [a.length_code, b.length_code]

/-- A fork to two addresses, in the order of preference. -/
def fork (greedy : Bool) (inside outside : Nat) : Instr :=
  if greedy then .split inside outside else .split outside inside

/-- The first fragment, or else the second one. -/
def alt (a b : Fragment) : Fragment where
  size := 1 + a.size + b.size
  code base next :=
    .split (base + 1) (base + 1 + a.size) ::
      (a.code (base + 1) next ++ b.code (base + 1 + a.size) next)
  length_code base next := by simp [a.length_code, b.length_code]; omega

/-- The fragment or nothing. -/
def optional (greedy : Bool) (a : Fragment) : Fragment where
  size := 1 + a.size
  code base next := fork greedy (base + 1) next :: a.code (base + 1) next
  length_code base next := by simp [a.length_code]; omega

/-- The fragment, once or more. -/
def plus (greedy : Bool) (a : Fragment) : Fragment where
  size := a.size + 1
  code base next := a.code base (base + a.size) ++ [fork greedy base next]
  length_code base next := by simp [a.length_code]

/-- The fragment, any number of times; it must not match the empty text. -/
def star (greedy : Bool) (a : Fragment) : Fragment where
  size := 1 + a.size
  code base next := fork greedy (base + 1) next :: a.code (base + 1) base
  length_code base next := by simp [a.length_code]; omega

/-- The fragment `n` times, and then `last`. -/
def copies (a : Fragment) (last : Fragment) : Nat → Fragment
  | 0 => last
  | n + 1 => a.seq (copies a last n)

/-- The fragment up to `n + 1` times, each round inside the one before. -/
def upTo (greedy : Bool) (a : Fragment) : Nat → Fragment
  | 0 => optional greedy a
  | n + 1 => optional greedy (a.seq (upTo greedy a n))

end Fragment

open Fragment in
/-- The instructions of an expression. Any number of rounds of an expression that can match the
empty text is laid out as one round or more, or nothing: only then is the order of preference
kept. -/
def Expr.fragment : Expr → Fragment
  | .empty => single .jump
  | .char c => single (.char c)
  | .set s => single (.set s)
  | .look l => single (.look l)
  | .group none e => e.fragment
  | .group (some n) e =>
    (single (.save (2 * n))).seq (e.fragment.seq (single (.save (2 * n + 1))))
  | .seq a b => a.fragment.seq b.fragment
  | .alt a b => a.fragment.alt b.fragment
  | .rounds 0 none greedy e =>
    if e.nullable then optional greedy (plus greedy e.fragment) else star greedy e.fragment
  | .rounds (n + 1) none greedy e => copies e.fragment (plus greedy e.fragment) n
  | .rounds least (some most) greedy e =>
    match most - least with
    | 0 =>
      match least with
      | 0 => single .jump
      | n + 1 => copies e.fragment e.fragment n
    | k + 1 => copies e.fragment (upTo greedy e.fragment k) least

/-- The whole program of an expression, entered at address zero. -/
def Expr.program (e : Expr) : Array Instr :=
  (e.fragment.code 0 e.fragment.size ++ [Instr.accept]).toArray

end Stencil.Pattern
