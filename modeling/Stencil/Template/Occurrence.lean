import Stencil.Pattern.Splice

/-!
# Finding a reference to a name

A raw text is searched for a reference to one name. There are five forms of it, each with a pattern
that says the whole text: what stands before the reference, the reference itself and what follows
it, as three groups. The forms are tried one after the other, and the first pattern that matches
gives the cut. All patterns are made ready before any is tried, so a search crashes when the engine
refuses one of them.
-/

namespace Stencil

/-- Whether a character means something else than itself somewhere in a pattern. -/
def Pattern.isMeta (c : Char) : Bool :=
  ['\\', '.', '+', '*', '?', '(', ')', '|', '[', ']', '{', '}', '^', '$', '#', '&', '-',
    '~'].contains c

/-- A pattern that matches some characters as they stand. -/
def Pattern.escape (cs : List Char) : List Char :=
  cs.flatMap fun c => if isMeta c then ['\\', c] else [c]

namespace Occurrence

/-- The forms of a reference. -/
inductive Form
  | braced
  | subscripted
  | bare
  | bareAtEnd
  | ternary
  deriving DecidableEq, Repr

/-- The forms in the order in which they are tried. -/
def Form.all : List Form := [.braced, .subscripted, .bare, .bareAtEnd, .ternary]

/-- The pattern of a form. -/
def Form.pattern (name : String) (form : Form) : String :=
  let n := String.ofList (Pattern.escape name.toList)
  match form with
  | .braced => "(?s)^(.*)(\\$\\\x7b" ++ n ++ "\\\x7d)(.*)$"
  | .subscripted => "(?s)^(.*)(\\$\\\x7b" ++ n ++ "\\[-?\\d*:?-?\\d*\\]\\\x7d)(.*)$"
  | .bare => "(?s)^(.*)(\\$" ++ n ++ ")([^A-Za-z0-9_].*)$"
  | .bareAtEnd => "(?s)^(.*)(\\$" ++ n ++ ")()$"
  | .ternary =>
    "(?s)^(.*)(\\$\\\x7b" ++ n ++
      "\\s*[=!]=\\s*\"[^\x7d?:]*\"\\s*\\?\\s*\"[^\x7d?:]*\"\\s*:\\s*\"[^\x7d?:]*\"\\s*\\\x7d)(.*)$"

/-- A text cut at a reference. -/
structure Split where
  before : List Char
  reference : List Char
  after : List Char
  deriving DecidableEq, Repr

/-- The text of a group of a match; a group that took no part is empty. -/
def groupText (text : List Char) (m : Pattern.Match) (n : Nat) : List Char :=
  match m.group? n with
  | some (start, stop) => Pattern.between text start stop
  | none => []

/-- The cut that a pattern makes, if it matches. -/
def cutBy? (p : Pattern) (text : List Char) : Option Split :=
  (p.find? text).map fun m => ⟨groupText text m 1, groupText text m 2, groupText text m 3⟩

/-- The pattern of a form, or the form where the engine refuses it. -/
def Form.compile [Pattern.Engine] (name : String) (form : Form) : Except Form Pattern :=
  match Pattern.ofText? false (form.pattern name) with
  | some p => .ok p
  | none => .error form

/-- The cut at a reference to a name, if there is one. The search crashes on the first form whose
pattern is refused. -/
def search [Pattern.Engine] (name text : String) : Except Form (Option Split) := do
  let patterns ← Form.all.mapM (Form.compile name)
  pure (patterns.findSome? fun p => cutBy? p text.toList)

end Occurrence

end Stencil
