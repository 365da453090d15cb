import Stencil.Pattern.CharSet

/-!
# Pattern expressions

What a pattern says: characters and sets of them, conditions on the place between two characters,
groups, sequence, choice and repetition. In a choice the earlier branch is preferred, and a
repetition prefers more rounds when it is greedy and fewer when it is not.
-/

namespace Stencil.Pattern

/-- How the characters on both sides of a place meet at a word. -/
inductive WordLook
  | boundary
  | notBoundary
  | start
  | stop
  | startHalf
  | stopHalf
  deriving DecidableEq, Repr

/-- A condition on a place in a text. -/
inductive Look
  | textStart
  | textEnd
  | lineStart (crlf : Bool)
  | lineEnd (crlf : Bool)
  | word (kind : WordLook) (unicode : Bool)
  deriving DecidableEq, Repr

/-- Whether a condition holds between two characters, where `none` is the end of the text. -/
def Look.holds (before after : Option Char) : Look → Bool
  | .textStart => before == none
  | .textEnd => after == none
  | .lineStart false => before == none || before == some '\n'
  | .lineEnd false => after == none || after == some '\n'
  | .lineStart true =>
    before == none || before == some '\n' || (before == some '\r' && after != some '\n')
  | .lineEnd true =>
    after == none || after == some '\r' || (after == some '\n' && before != some '\r')
  | .word kind unicode =>
    let b := before.any (isWordChar unicode)
    let a := after.any (isWordChar unicode)
    match kind with
    | .boundary => b != a
    | .notBoundary => b == a
    | .start => !b && a
    | .stop => b && !a
    | .startHalf => !b
    | .stopHalf => !a

/-- A pattern expression. A group has a number when it captures what it matches. -/
inductive Expr
  | empty
  | char (c : Char)
  | set (s : CharSet)
  | look (l : Look)
  | group (number : Option Nat) (e : Expr)
  | seq (a b : Expr)
  | alt (a b : Expr)
  | rounds (least : Nat) (most : Option Nat) (greedy : Bool) (e : Expr)

namespace Expr

/-- The expressions one after the other. A long sequence is put together from its end. -/
def sequence (es : List Expr) : Expr :=
  match es.reverse with
  | [] => .empty
  | e :: earlier => earlier.foldl (fun later e => .seq e later) e

@[simp] theorem sequence_nil : sequence [] = .empty := rfl

@[simp] theorem sequence_singleton (e : Expr) : sequence [e] = e := rfl

@[simp] theorem sequence_cons_cons (e f : Expr) (es : List Expr) :
    sequence (e :: f :: es) = .seq e (sequence (f :: es)) := by
  obtain ⟨g, gs, hreverse⟩ := List.exists_cons_of_ne_nil
    (show (f :: es).reverse ≠ [] by simp)
  simp [sequence, hreverse, List.reverse_cons (a := e)]

/-- The first of the expressions that fits. -/
def choice : List Expr → Expr
  | [] => .empty
  | [e] => e
  | e :: es => .alt e (choice es)

/-- Whether the expression can match the empty text. -/
def nullable : Expr → Bool
  | .empty => true
  | .char _ => false
  | .set _ => false
  | .look _ => true
  | .group _ e => e.nullable
  | .seq a b => a.nullable && b.nullable
  | .alt a b => a.nullable || b.nullable
  | .rounds least _ _ e => least == 0 || e.nullable

/-- Whether the expression can match nothing but the empty text. -/
def onlyEmpty : Expr → Bool
  | .empty => true
  | .char _ => false
  | .set _ => false
  | .look _ => true
  | .group _ e => e.onlyEmpty
  | .seq a b => a.onlyEmpty && b.onlyEmpty
  | .alt a b => a.onlyEmpty && b.onlyEmpty
  | .rounds _ most _ e => most == some 0 || e.onlyEmpty

/-- A repetition. No rounds at all are the empty expression, so that a group in it is forgotten; of
an expression that matches only the empty text one round is as good as many. -/
def repeated (least : Nat) (most : Option Nat) (greedy : Bool) (e : Expr) : Expr :=
  let least' := if e.onlyEmpty then min least 1 else least
  let most' := if e.onlyEmpty then some (min (most.getD 1) 1) else most
  if most' == some 0 then .empty
  else if least' == 1 && most' == some 1 then e
  else .rounds least' most' greedy e

/-- The largest group number, or zero. -/
def groups : Expr → Nat
  | .empty => 0
  | .char _ => 0
  | .set _ => 0
  | .look _ => 0
  | .group number e => max (number.getD 0) e.groups
  | .seq a b => max a.groups b.groups
  | .alt a b => max a.groups b.groups
  | .rounds _ _ _ e => e.groups

end Expr

end Stencil.Pattern
