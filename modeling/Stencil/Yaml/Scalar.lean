import Stencil.Yaml.Token
import Stencil.Unicode.Ranges

/-!
# Reading scalars

The text of a scalar in each of its styles: plain, in single or double quotes, and as a block. Line
breaks inside plain and quoted scalars are folded: one alone is a space, and of several the first
one is dropped.

Each reader takes a place and gives the text and the place after it, or `none` where the scalar is
malformed.
-/

namespace Stencil.Yaml

/-- Blanks and line breaks between two words of a scalar: the blanks before the first break, the
first break, and the breaks after it. -/
structure Gap where
  blanks : List Char
  broken : Bool
  first : List Char
  more : List Char

namespace Gap

/-- No gap. -/
def empty : Gap := ⟨[], false, [], []⟩

/-- What a gap stands for. -/
def fold (g : Gap) : List Char :=
  if g.broken then
    if g.first.head? == some '\n' then (if g.more.isEmpty then [' '] else g.more)
    else g.first ++ g.more
  else g.blanks

/-- Reads a gap. In a line after the first, a tab must not stand left of the column `limit`. -/
def read? (limit : Nat) : (fuel : Nat) → Gap → Place → Option (Gap × Place)
  | 0, g, p => some (g, p)
  | fuel + 1, g, p =>
    match p.peek? with
    | none => some (g, p)
    | some c =>
      if isBlank c then
        if g.broken then
          if c == '\t' && p.column < limit then none else read? limit fuel g p.next
        else read? limit fuel { g with blanks := g.blanks ++ [c] } p.next
      else if isBreak c then
        let b := breakChar c
        if g.broken then read? limit fuel { g with more := g.more ++ [b] } p.nextLine
        else read? limit fuel ⟨[], true, [b], []⟩ p.nextLine
      else some (g, p)

end Gap

/-- Whether `---` or `...` stands at the start of a line, with a blank or the end after it. -/
def isDocumentMark (p : Place) : Bool :=
  p.column == 0 &&
    match p.rest with
    | '-' :: '-' :: '-' :: cs => isBlankOrEnd cs.head?
    | '.' :: '.' :: '.' :: cs => isBlankOrEnd cs.head?
    | _ => false

/-! ## Plain scalars -/

/-- Whether a plain scalar ends before the next character. -/
def endsPlain (inFlow : Bool) (p : Place) : Bool :=
  match p.peek? with
  | none => true
  | some ':' => isBlankOrEnd p.second?
  | some c => inFlow && (c == ',' || c == '[' || c == ']' || c == '{' || c == '}')

/-- Whether a colon stands where it may not, before an indicator in a flow collection. -/
def isStrayColon (inFlow : Bool) (p : Place) : Bool :=
  inFlow && p.peek? == some ':' &&
    p.second?.any fun c => [',', '?', '[', ']', '{', '}'].contains c

/-- Reads one word of a plain scalar. The characters are collected in reverse. -/
def plainWord? (inFlow : Bool) : (fuel : Nat) → List Char → Place → Option (List Char × Place)
  | 0, text, p => some (text, p)
  | fuel + 1, text, p =>
    if isBlankOrEnd p.peek? then some (text, p)
    else if isStrayColon inFlow p then none
    else if endsPlain inFlow p then some (text, p)
    else plainWord? inFlow fuel ((p.peek?.getD ' ') :: text) p.next

/-- Reads the words of a plain scalar. `gap` is what stands before the next word, and `column` the
column that continuation lines reach at least. Gives the last gap also. -/
def plainWords? (inFlow : Bool) (column : Nat) :
    (fuel : Nat) → Gap → List Char → Place → Option (List Char × Gap × Place)
  | 0, gap, text, p => some (text, gap, p)
  | fuel + 1, gap, text, p =>
    if isDocumentMark p || p.peek? == some '#' then some (text, gap, p)
    else do
      let (word, q) ← plainWord? inFlow p.rest.length [] p
      let text := if word.isEmpty then text else word ++ (gap.fold.reverse ++ text)
      let gap := if word.isEmpty then gap else Gap.empty
      if q.peek?.any fun c => isBlank c || isBreak c then
        let (gap, q) ← Gap.read? column q.rest.length gap q
        if !inFlow && q.column < column then pure (text, gap, q)
        else plainWords? inFlow column fuel gap text q
      else pure (text, gap, q)

/-- Reads a plain scalar; tells also whether a line break came after its last word. -/
def plainScalar? (inFlow : Bool) (column : Nat) (p : Place) : Option (String × Bool × Place) := do
  let (text, gap, p) ← plainWords? inFlow column (p.rest.length + 1) .empty [] p
  pure (String.ofList text.reverse, gap.broken, p)

/-! ## Quoted scalars -/

/-- What a character after a backslash stands for, when it stands for one character. -/
def simpleEscape? (c : Char) : Option Char :=
  match c with
  | '0' => some '\x00'
  | 'a' => some '\x07'
  | 'b' => some '\x08'
  | 't' => some '\t'
  | '\t' => some '\t'
  | 'n' => some '\n'
  | 'v' => some '\x0b'
  | 'f' => some '\x0c'
  | 'r' => some '\r'
  | 'e' => some '\x1b'
  | ' ' => some ' '
  | '"' => some '"'
  | '/' => some '/'
  | '\\' => some '\\'
  | 'N' => some '\x85'
  | '_' => some '\xa0'
  | 'L' => some '\u2028'
  | 'P' => some '\u2029'
  | _ => none

/-- The number of hexadecimal digits that follow a letter after a backslash. -/
def escapeDigits? (c : Char) : Option Nat :=
  match c with
  | 'x' => some 2
  | 'u' => some 4
  | 'U' => some 8
  | _ => none

/-- The character that hexadecimal digits stand for. -/
def hexChar? (ds : List Char) : Option Char := do
  let n ← ds.foldlM (fun n d => (Unicode.Ranges.hexDigit? d).map (16 * n + ·)) 0
  if n.isValidChar then pure (Char.ofNat n) else none

/-- Reads an escape at its backslash. -/
def escape? (p : Place) : Option (Char × Place) := do
  let c ← p.second?
  match simpleEscape? c with
  | some d => pure (d, p.skip 2)
  | none =>
    let n ← escapeDigits? c
    let ds := (p.rest.drop 2).take n
    guard (ds.length = n)
    let d ← hexChar? ds
    pure (d, p.skip (2 + n))

/-- Reads one word of a quoted scalar; tells also whether it ends in an escaped line break. -/
def quotedWord? (quote : Char) :
    (fuel : Nat) → List Char → Place → Option (List Char × Bool × Place)
  | 0, text, p => some (text, false, p)
  | fuel + 1, text, p =>
    if isBlankOrEnd p.peek? then some (text, false, p)
    else
      match p.peek? with
      | none => some (text, false, p)
      | some c =>
        if c == quote then
          if quote == '\'' && p.second? == some '\'' then
            quotedWord? quote fuel ('\'' :: text) (p.skip 2)
          else some (text, false, p)
        else if quote == '"' && c == '\\' then
          if p.second?.any isBreak then some (text, true, p.next.nextLine)
          else
            match escape? p with
            | some (d, p) => quotedWord? quote fuel (d :: text) p
            | none => none
        else quotedWord? quote fuel (c :: text) p.next

/-- Reads the words of a quoted scalar up to its closing quote. -/
def quotedWords? (quote : Char) : (fuel : Nat) → List Char → Place → Option (List Char × Place)
  | 0, _, _ => none
  | fuel + 1, text, p =>
    if isDocumentMark p || p.rest.isEmpty then none
    else do
      let (text, escaped, p) ← quotedWord? quote p.rest.length text p
      if p.peek? == some quote then pure (text, p.next)
      else
        let start : Gap := if escaped then ⟨[], true, [], []⟩ else .empty
        let (gap, p) ← Gap.read? 0 p.rest.length start p
        quotedWords? quote fuel (gap.fold.reverse ++ text) p

/-- Reads a quoted scalar at its opening quote. -/
def quotedScalar? (quote : Char) (p : Place) : Option (String × Place) := do
  let (text, p) ← quotedWords? quote (p.rest.length + 1) [] p.next
  pure (String.ofList text.reverse, p)

/-! ## Block scalars -/

/-- Skips blanks. -/
def skipBlanks (p : Place) : Place :=
  p.skip (p.rest.takeWhile isBlank).length

/-- Skips a comment. -/
def skipComment (p : Place) : Place :=
  if p.peek? == some '#' then p.skip (p.rest.takeWhile fun c => !isBreak c).length else p

/-- What is done with the line breaks at the end of a block scalar. -/
inductive Chomping
  | strip
  | clip
  | keep
  deriving DecidableEq

/-- A sign of a block scalar's head. -/
def chomping? (c : Char) : Option Chomping :=
  match c with
  | '+' => some .keep
  | '-' => some .strip
  | _ => none

/-- Reads what stands after the indicator of a block scalar: a sign and a number of columns, in any
order. -/
def blockHead? (p : Place) : Option (Chomping × Option Nat × Place) :=
  let digit? (c : Char) : Option Nat := if c.isDigit then some (c.toNat - '0'.toNat) else none
  let first := p.peek?
  let second := p.second?
  match first.bind chomping? with
  | some chomp =>
    match second.bind digit? with
    | some 0 => none
    | some n => some (chomp, some n, p.skip 2)
    | none => some (chomp, none, p.skip 1)
  | none =>
    match first.bind digit? with
    | some 0 => none
    | some n =>
      match second.bind chomping? with
      | some chomp => some (chomp, some n, p.skip 2)
      | none => some (.clip, some n, p.skip 1)
    | none => some (.clip, none, p)

/-- Skips the indentation and the empty lines before a line of a block scalar. `indent` is the
column of its text, as far as it is known; gives the line breaks and the deepest column met. -/
def blockBreaks? (indent : Option Nat) :
    (fuel : Nat) → (deepest : Nat) → List Char → Place → Option (Nat × List Char × Place)
  | 0, deepest, breaks, p => some (deepest, breaks, p)
  | fuel + 1, deepest, breaks, p =>
    let inside := indent.all (p.column < ·)
    match p.peek? with
    | some ' ' =>
      if inside then blockBreaks? indent fuel (max deepest (p.column + 1)) breaks p.next
      else some (deepest, breaks, p)
    | some '\t' => if inside then none else some (deepest, breaks, p)
    | some c =>
      if isBreak c then blockBreaks? indent fuel deepest (breaks ++ [breakChar c]) p.nextLine
      else some (deepest, breaks, p)
    | none => some (deepest, breaks, p)

/-- The text of a block scalar so far: its characters in reverse, the break after the last line, the
breaks of empty lines after that, and whether the last line began with a blank. -/
structure BlockText where
  text : List Char
  lineBreak : List Char
  breaks : List Char
  blankBefore : Bool

/-- Reads the lines of a block scalar. -/
def blockLines? (literal : Bool) (indent : Nat) :
    (fuel : Nat) → BlockText → Place → Option (BlockText × Place)
  | 0, b, p => some (b, p)
  | fuel + 1, b, p =>
    if p.column == indent && !p.rest.isEmpty then do
      let blank := p.peek?.any isBlank
      let joins := !literal && b.lineBreak.head? == some '\n' && !b.blankBefore && !blank
      let between :=
        if joins then (if b.breaks.isEmpty then [' '] else b.breaks) else b.lineBreak ++ b.breaks
      let line := p.rest.takeWhile fun c => !isBreak c
      let p := p.skip line.length
      let text := line.reverse ++ (between.reverse ++ b.text)
      let (lineBreak, p) :=
        match p.peek? with
        | some c => ([breakChar c], p.nextLine)
        | none => ([], p)
      let (_, breaks, p) ← blockBreaks? (some indent) (p.rest.length + 1) 0 [] p
      blockLines? literal indent fuel ⟨text, lineBreak, breaks, blank⟩ p
    else some (b, p)

/-- Reads a block scalar at its indicator. `parent` is the column of the collection around it, and
`-1` where there is none. -/
def blockScalar? (literal : Bool) (parent : Int) (p : Place) : Option (String × Place) := do
  let (chomp, increment, p) ← blockHead? p.next
  let p := skipComment (skipBlanks p)
  guard (isBreakOrEnd p.peek?)
  let p := if p.rest.isEmpty then p else p.nextLine
  let known := increment.map fun n => (max parent 0).toNat + n
  let (deepest, breaks, p) ← blockBreaks? known (p.rest.length + 1) 0 [] p
  let indent := known.getD (max deepest (max (parent + 1) 1).toNat)
  let (b, p) ← blockLines? literal indent (p.rest.length + 1) ⟨[], [], breaks, false⟩ p
  let tail :=
    match chomp with
    | .strip => []
    | .clip => b.lineBreak
    | .keep => b.lineBreak ++ b.breaks
  pure (String.ofList (b.text.reverse ++ tail), p)

end Stencil.Yaml
