import Stencil.Template.Error
import Stencil.Unicode.Width

/-!
# Reports

A fault of a template shown in a box: the reason, the place by line and column, the line it is on,
and under the faulty character an arrow with the reason again. At the end of the source, where there
is no character to mark, the arrow stands after the last one.
-/

namespace Stencil.Report

/-- The characters that end a line. -/
def isLineEnd (c : Char) : Bool :=
  ['\n', '\r', '\x0b', '\x0c', '\x85', '\u2028', '\u2029'].contains c

/-- The lines of a text, each with the character that ends it; a carriage return and a line feed end
a line together. `line` holds the characters of the current line, in reverse. -/
def splitLines (line : List Char) : List Char → List (List Char)
  | [] => if line.isEmpty then [] else [line.reverse]
  | '\r' :: '\n' :: cs => ('\n' :: '\r' :: line).reverse :: splitLines [] cs
  | c :: cs =>
    if isLineEnd c then (c :: line).reverse :: splitLines [] cs else splitLines (c :: line) cs

/-- The line that a character stands on: its number from zero, its text, and the column from zero.
The place after the last character belongs to the last line. -/
def locate (number position : Nat) : List (List Char) → Nat × List Char × Nat
  | [] => (number, [], position)
  | [line] => (number, line, position)
  | line :: rest =>
    if position < line.length then (number, line, position)
    else locate (number + 1) (position - line.length) rest

/-- The columns from one tab stop to the next. -/
def tabWidth : Nat := 4

/-- How a character in a given column is drawn, and the columns it takes. -/
def cell (c : Char) (column : Nat) : Char × Nat :=
  if c = '\t' then (' ', (column / tabWidth + 1) * tabWidth - column)
  else if Unicode.Property.whiteSpace.contains c then (' ', 1)
  else (c, Unicode.width c)

/-- A character repeated. -/
def rep (c : Char) (n : Nat) : List Char :=
  List.replicate n c

/-- A line as it is drawn. -/
def drawLine (line : List Char) : List Char :=
  line.zipIdx.flatMap fun (c, column) =>
    let (d, n) := cell c column
    if d = ' ' then rep ' ' n else [d]

/-- A row of marks under a line. `mark` gives for a column the mark and what fills the columns that
its character takes beyond the first. -/
def drawRow (line : List Char) (length : Nat) (mark : Nat → Char × Char) : List Char :=
  let cells := ((line.map some) ++ List.replicate length none).take length
  cells.zipIdx.flatMap fun (c, column) =>
    let n := (c.map fun c => (cell c column).2).getD 1
    let (head, tail) := mark column
    if n = 0 then [] else head :: rep tail (n - 1)

/-- A text without the white space at its end. -/
def trimEnd (cs : List Char) : List Char :=
  (cs.reverse.dropWhile fun c => Unicode.Property.whiteSpace.contains c).reverse

/-- The box that shows a fault. -/
def render (template : String) (fault : Fault) : String :=
  let position := (takeBytes fault.position template.toList).length
  let atEnd := position ≥ template.toList.length
  let (number, whole, column) := locate 1 position (splitLines [] template.toList)
  let line := trimEnd whole
  let reason := fault.reason.message
  let gutter := (toString number).length + 2
  let length := column + (if atEnd then 2 else 3)
  let side := rep ' ' gutter ++ ['│']
  let upper := fun k =>
    if k = column then (if atEnd then ('│', ' ') else ('┬', '─')) else (' ', ' ')
  let lower := fun k =>
    if k = column then ('╰', '─') else if k > column then ('─', '─') else (' ', ' ')
  let place := "<template>:" ++ toString number ++ ":" ++ toString (column + 1)
  let rows : List (List Char) := [
    ("Error: Failed to parse template: " ++ reason).toList,
    rep ' ' gutter ++ ("╭─[" ++ place ++ "]").toList,
    side,
    (" " ++ toString number ++ " │ ").toList ++ drawLine line,
    side ++ ' ' :: drawRow line length upper,
    side ++ ' ' :: drawRow line length lower ++ ' ' :: reason.toList,
    rep '─' gutter ++ ['╯']]
  String.ofList (rows.flatMap fun row => row ++ ['\n'])

/-- The box that shows a fault, if the fault is reported between two characters. -/
def render? (template : String) (fault : Fault) : Option String :=
  let before := takeBytes fault.position template.toList
  if byteWidth before = min fault.position (byteWidth template.toList) then
    some (render template fault)
  else none

end Stencil.Report

namespace Stencil

/-- The report of an error: a box for a fault of a template, and the message for all others and
where there is no box. -/
def TemplateError.report (e : TemplateError) : String :=
  match e with
  | .parse template fault => (Report.render? template fault).getD e.message
  | _ => e.message

end Stencil
