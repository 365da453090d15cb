import Stencil.Pattern.Parser

/-!
# Replacing matches

A text with some of its matches replaced. A replacement is a list of parts: text that is put in as
it is, and groups of the match. A group that took no part in the match is empty.
-/

namespace Stencil.Pattern

/-- A part of a replacement. -/
inductive Part
  | text (s : String)
  | group (n : Nat)
  deriving DecidableEq, Repr

/-- The characters from one position up to another. -/
def between (subject : List Char) (start stop : Nat) : List Char :=
  (subject.take stop).drop start

/-- What a part stands for in the replacement of a match. `rest` is the subject from `position` on,
and the match lies in it. -/
def Part.fill (rest : List Char) (position : Nat) (m : Match) : Part → List Char
  | .text s => s.toList
  | .group n =>
    match m.group? n with
    | some (start, stop) => between rest (start - position) (stop - position)
    | none => []

/-- The rest of a subject from a position on, with the given matches replaced. -/
def splice (parts : List Part) (position : Nat) (rest : List Char) : List Match → List Char
  | [] => rest
  | m :: ms =>
    rest.take (m.start - position) ++
      (parts.flatMap (Part.fill rest position m) ++
        splice parts m.stop (rest.drop (m.stop - position)) ms)

/-- The subject with its first match replaced, or with every match replaced. -/
def replace (p : Pattern) (everywhere : Bool) (parts : List Part) (subject : String) : String :=
  let found := p.findAll subject.toList
  let chosen := if everywhere then found else found.take 1
  String.ofList (splice parts 0 subject.toList chosen)

end Stencil.Pattern
