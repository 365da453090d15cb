import Stencil.External
import Stencil.Pattern.Matching
import Stencil.Unicode.PropertyName

/-!
# Draft patterns

A pattern is read from left to right. Groups that are still open wait on a stack, and the flags in
force decide what each piece means, so the expression is built as it is read. A text that is no
pattern gives `none`.

In verbose mode, white space and comments may stand between the pieces.
-/

namespace Stencil.Pattern

/-- The settings in force at a place of a pattern. -/
structure Flags where
  ignoreCase : Bool := false
  multiLine : Bool := false
  dotAll : Bool := false
  swapGreed : Bool := false
  unicode : Bool := true
  crlf : Bool := false
  verbose : Bool := false

namespace Flags

/-- Switches the flag of a letter on or off. -/
def set? (f : Flags) (letter : Char) (on : Bool) : Option Flags :=
  match letter with
  | 'i' => some { f with ignoreCase := on }
  | 'm' => some { f with multiLine := on }
  | 's' => some { f with dotAll := on }
  | 'U' => some { f with swapGreed := on }
  | 'u' => some { f with unicode := on }
  | 'R' => some { f with crlf := on }
  | 'x' => some { f with verbose := on }
  | _ => none

/-- A set together with the case variants that the flags add. -/
def close (f : Flags) (s : CharSet) : CharSet :=
  if f.ignoreCase then (if f.unicode then .foldCase s else .foldAscii s) else s

/-- A set or its complement. The complement holds characters outside ASCII, so it exists only in
Unicode mode. -/
def sign? (f : Flags) (negated : Bool) (s : CharSet) : Option CharSet :=
  if negated then (if f.unicode then some (.compl s) else none) else some s

end Flags

/-! ## Small pieces -/

/-- Whether a character is white space. -/
def isSpace (c : Char) : Bool :=
  Unicode.Property.whiteSpace.contains c

/-- Skips white space and comments, in verbose mode. -/
def skipSpace (verbose : Bool) (cs : List Char) : List Char :=
  if verbose then go false cs else cs
where
  /-- A comment reaches to the end of its line. -/
  go (inComment : Bool) : List Char → List Char
    | [] => []
    | c :: cs =>
      if inComment then go (c != '\n') cs
      else if isSpace c then go false cs
      else if c == '#' then go true cs
      else c :: cs

/-- The longest run of characters in a class, at most `limit` of them, skipping the space that
verbose mode allows after each. -/
def collect (verbose : Bool) (p : Char → Bool) : (limit : Nat) → List Char → List Char × List Char
  | 0, cs => ([], cs)
  | _ + 1, [] => ([], [])
  | limit + 1, c :: cs =>
    if p c then
      let found := collect verbose p limit (skipSpace verbose cs)
      (c :: found.1, found.2)
    else ([], c :: cs)

/-- The number that hexadecimal digits stand for. -/
def hexValue (ds : List Char) : Nat :=
  ds.foldl (fun n d => 16 * n + (Unicode.Ranges.hexDigit? d).getD 0) 0

/-- The number that decimal digits stand for. -/
def decimalValue (ds : List Char) : Nat :=
  ds.foldl (fun n d => 10 * n + (d.toNat - '0'.toNat)) 0

/-- The character that hexadecimal digits stand for. -/
def hexChar? (ds : List Char) : Option Char :=
  let n := hexValue ds
  if ds.isEmpty then none
  else if n.isValidChar then some (Char.ofNat n)
  else none

/-- What a piece without parts stands for. -/
inductive Primitive
  | literal (c : Char)
  | set (s : CharSet)
  | look (l : Look)

/-- A class of words, digits or blanks by its letter, in upper case for the complement. -/
def perlClass? (f : Flags) (letter : Char) : Option CharSet :=
  let pick (wide : Unicode.Property) (narrow : CharSet) : CharSet :=
    if f.unicode then .property wide else narrow
  match letter with
  | 'd' => some (pick .digit .asciiDigit)
  | 's' => some (pick .whiteSpace .asciiSpace)
  | 'w' => some (pick .word .asciiWord)
  | 'D' => f.sign? true (pick .digit .asciiDigit)
  | 'S' => f.sign? true (pick .whiteSpace .asciiSpace)
  | 'W' => f.sign? true (pick .word .asciiWord)
  | _ => none

/-- Splits a property query at its operator: `!=`, else `:`, else `=`. The engine takes all three
for an equality. -/
def splitQuery (query : List Char) : Option (List Char × List Char) :=
  let at? (c : Char) : Option (List Char × List Char) :=
    if c ∈ query then some (query.takeWhile (· != c), (query.dropWhile (· != c)).drop 1) else none
  (cutAt query).or ((at? ':').or (at? '='))
where
  /-- Cuts at the first `!=`. -/
  cutAt : List Char → Option (List Char × List Char)
    | '!' :: '=' :: rest => some ([], rest)
    | c :: rest => (cutAt rest).map fun p => (c :: p.1, p.2)
    | [] => none

/-- The property after `\p` or `\P`, with its case variants. -/
def propertyClass? (f : Flags) (negated : Bool) (cs : List Char) :
    Option (CharSet × List Char) := do
  guard f.unicode
  let (property, rest) ←
    match skipSpace f.verbose cs with
    | '{' :: inner =>
      let (query, rest) :=
        collect f.verbose (· != '}') inner.length (skipSpace f.verbose inner)
      match rest with
      | '}' :: rest =>
        match splitQuery query with
        | some (name, value) => do
          let p ← Unicode.Property.valued? name value
          pure (p, rest)
        | none => do
          let p ← Unicode.Property.named? query
          pure (p, rest)
      | _ => none
    | '\\' :: _ => none
    | c :: rest => do
      let p ← Unicode.Property.named? [c]
      pure (p, rest)
    | [] => none
  let s ← f.sign? negated (f.close (.property property))
  pure (s, rest)

/-- The character after `\x`, `\u` or `\U`: a given number of digits, or any number in braces. -/
def hexEscape? (f : Flags) (digits : Nat) (cs : List Char) : Option (Char × List Char) := do
  let isHex := fun c => (Unicode.Ranges.hexDigit? c).isSome
  match skipSpace f.verbose cs with
  | '{' :: inner =>
    let (ds, rest) := collect f.verbose isHex inner.length (skipSpace f.verbose inner)
    match rest with
    | '}' :: rest =>
      let c ← hexChar? ds
      pure (c, rest)
    | _ => none
  | cs =>
    let (ds, rest) := collect f.verbose isHex digits cs
    guard (ds.length = digits)
    let c ← hexChar? ds
    guard (f.unicode || digits != 2 || c.toNat < 128)
    pure (c, rest)

/-- What follows `\b`: a kind of boundary in braces, or nothing. -/
def wordLook? (f : Flags) (cs : List Char) : Option (WordLook × List Char) :=
  let isPart := fun (c : Char) => c.isAlpha || c == '-'
  match cs with
  | '{' :: inner =>
    match skipSpace f.verbose inner with
    | [] => none
    | c :: inner =>
      if isPart c then
        let (name, rest) := collect f.verbose isPart (c :: inner).length (c :: inner)
        match rest with
        | '}' :: rest =>
          match String.ofList name with
          | "start" => some (.start, rest)
          | "end" => some (.stop, rest)
          | "start-half" => some (.startHalf, rest)
          | "end-half" => some (.stopHalf, rest)
          | _ => none
        | _ => none
      else some (.boundary, cs)
  | _ => some (.boundary, cs)

/-- Whether a character other than a letter, a digit and an angle may be escaped. -/
def isEscapable (c : Char) : Bool :=
  c.toNat < 128 && !c.isAlphanum && c != '<' && c != '>'

/-- What an escape stands for; `cs` is what follows the backslash. -/
def escape? (f : Flags) : List Char → Option (Primitive × List Char)
  | [] => none
  | c :: cs =>
    let literal (d : Char) : Option (Primitive × List Char) := some (.literal d, cs)
    let look (l : Look) : Option (Primitive × List Char) := some (.look l, cs)
    let hex (n : Nat) : Option (Primitive × List Char) :=
      (hexEscape? f n cs).map fun p => (.literal p.1, p.2)
    let property (negated : Bool) : Option (Primitive × List Char) :=
      (propertyClass? f negated cs).map fun p => (.set p.1, p.2)
    match c with
    | 'x' => hex 2
    | 'u' => hex 4
    | 'U' => hex 8
    | 'p' => property false
    | 'P' => property true
    | 'a' => literal '\x07'
    | 'f' => literal '\x0c'
    | 't' => literal '\t'
    | 'n' => literal '\n'
    | 'r' => literal '\r'
    | 'v' => literal '\x0b'
    | 'A' => look .textStart
    | 'z' => look .textEnd
    | 'b' => (wordLook? f cs).map fun p => (.look (.word p.1 f.unicode), p.2)
    | 'B' => look (.word .notBoundary f.unicode)
    | '<' => look (.word .start f.unicode)
    | '>' => look (.word .stop f.unicode)
    | c =>
      if isEscapable c then literal c
      else (perlClass? f c).map fun s => (.set s, cs)

/-! ## Bracketed sets -/

/-- The operators between sets. -/
inductive SetOp
  | inter
  | diff
  | symmDiff

/-- What waits while a part of a set is read: an enclosing set with what it holds so far, or the
left side of an operator. -/
inductive SetFrame
  | opened (negated : Bool) (outer : CharSet)
  | operator (op : SetOp) (left : CharSet)

/-- Puts an operator between two sets, closed under the case variants that the flags add. -/
def SetOp.apply (f : Flags) (op : SetOp) (a b : CharSet) : CharSet :=
  match op with
  | .inter => .inter (f.close a) (f.close b)
  | .diff => .diff (f.close a) (f.close b)
  | .symmDiff => .symmDiff (f.close a) (f.close b)

/-- Ends the right side of an operator, if one is waiting. -/
def endOperand (f : Flags) (right : CharSet) : List SetFrame → CharSet × List SetFrame
  | .operator op left :: stack => (op.apply f left right, stack)
  | stack => (right, stack)

/-- What stands after an opening bracket: a sign, and characters that are plain only there. -/
def setStart (f : Flags) (cs : List Char) : Bool × CharSet × List Char :=
  let cs := skipSpace f.verbose cs
  let (negated, cs) :=
    match cs with
    | '^' :: rest => (true, skipSpace f.verbose rest)
    | _ => (false, cs)
  let (dashes, cs) := collect f.verbose (· == '-') cs.length cs
  match dashes, cs with
  | [], ']' :: rest => (negated, .single ']', rest)
  | [], _ => (negated, .none, cs)
  | _, _ => (negated, .single '-', cs)

/-- A named class such as `[:alpha:]`; `cs` is what follows its bracket. -/
def posixClass? (f : Flags) (cs : List Char) : Option (Option CharSet × List Char) :=
  match cs with
  | ':' :: cs =>
    let (negated, cs) :=
      match cs with
      | '^' :: rest => (true, rest)
      | _ => (false, cs)
    match cs.dropWhile (· != ':') with
    | ':' :: ']' :: rest =>
      (CharSet.posix? (cs.takeWhile (· != ':'))).map fun s => (f.sign? negated (f.close s), rest)
    | _ => none
  | _ => none

/-- One member of a set: an escape, or the character itself. -/
def setMember? (f : Flags) : List Char → Option (Primitive × List Char)
  | [] => none
  | '\\' :: cs => escape? f cs
  | c :: cs => some (.literal c, cs)

/-- Whether a character can be a member of a set: all can in Unicode mode. -/
def isMember (f : Flags) (c : Char) : Bool :=
  f.unicode || c.toNat < 128

/-- A member of a set, or a range between two of them. -/
def setRange? (f : Flags) (cs : List Char) : Option (CharSet × List Char) := do
  let (first, rest) ← setMember? f cs
  let rest := skipSpace f.verbose rest
  let lone : Option (CharSet × List Char) :=
    match first with
    | .literal c => if isMember f c then some (.single c, rest) else none
    | .set s => some (s, rest)
    | .look _ => none
  match rest with
  | [] => none
  | '-' :: after =>
    let after := skipSpace f.verbose after
    match after with
    | ']' :: _ => lone
    | '-' :: _ => lone
    | _ =>
      let (last, rest) ← setMember? f after
      match first, last with
      | .literal a, .literal b =>
        guard (isMember f a && isMember f b && a ≤ b)
        pure (.range a b, rest)
      | _, _ => none
  | _ => lone

/-- Reads the rest of a set. `stack` holds what waits, `members` what the set holds so far and
`depth` the greatest number of frames that waited at once. -/
def setRest? (f : Flags) : (fuel : Nat) → (stack : List SetFrame) → (members : CharSet) →
    (depth : Nat) → List Char → Option (CharSet × Nat × List Char)
  | 0, _, _, _, _ => none
  | fuel + 1, stack, members, depth, cs =>
    let depth := max depth stack.length
    let operator (op : SetOp) (rest : List Char) :=
      let (left, stack) := endOperand f members stack
      setRest? f fuel (.operator op left :: stack) .none depth rest
    match skipSpace f.verbose cs with
    | [] => none
    | '[' :: rest =>
      match posixClass? f rest with
      | some (some s, rest) => setRest? f fuel stack (.union members s) depth rest
      | some (none, _) => none
      | none =>
        let (negated, start, rest) := setStart f rest
        setRest? f fuel (.opened negated members :: stack) start depth rest
    | ']' :: rest =>
      match endOperand f members stack with
      | (s, .opened negated outer :: stack) => do
        let s ← f.sign? negated (f.close s)
        if stack.isEmpty then pure (s, depth, rest)
        else setRest? f fuel stack (.union outer s) depth rest
      | _ => none
    | '&' :: '&' :: rest => operator .inter rest
    | '-' :: '-' :: rest => operator .diff rest
    | '~' :: '~' :: rest => operator .symmDiff rest
    | cs => do
      let (s, rest) ← setRange? f cs
      setRest? f fuel stack (.union members s) depth rest

/-- Reads a set; `cs` is what follows its bracket. -/
def set? (f : Flags) (cs : List Char) : Option (CharSet × Nat × List Char) :=
  let (negated, start, rest) := setStart f cs
  setRest? f (rest.length + 1) [.opened negated .none] start 1 rest

/-! ## Expressions -/

/-- A piece of a sequence, with the depth of its nesting; a setting of flags is no expression. -/
structure Item where
  expr? : Option Expr
  depth : Nat

/-- The group that is being read: the branches before the last bar and the pieces after it, both in
reverse. -/
structure Level where
  number : Option Nat
  outerFlags : Flags
  branches : List Item
  items : List Item

/-- A pattern that is being read: the innermost open group, those around it, the number of groups
so far and the names they have. -/
structure Draft where
  flags : Flags
  level : Level
  stack : List Level
  groups : Nat
  names : List (List Char)

/-- The deepest of several pieces. -/
def deepest (items : List Item) : Nat :=
  items.foldl (fun d i => max d i.depth) 0

/-- The pieces of a sequence as one. -/
def Item.sequence (items : List Item) : Item :=
  match items with
  | [] => ⟨some .empty, 0⟩
  | [i] => ⟨some (i.expr?.getD .empty), i.depth⟩
  | items => ⟨some (Expr.sequence (items.filterMap (·.expr?))), 1 + deepest items⟩

/-- The branches of a choice as one piece. -/
def Item.choice (items : List Item) : Item :=
  match items with
  | [i] => i
  | items => ⟨some (Expr.choice (items.filterMap (·.expr?))), 1 + deepest items⟩

/-- What has been read of a group. -/
def Level.finish (l : Level) : Item :=
  Item.choice (Item.sequence l.items.reverse :: l.branches).reverse

namespace Draft

/-- Adds a piece to the innermost group. -/
def push (r : Draft) (i : Item) : Draft :=
  { r with level := { r.level with items := i :: r.level.items } }

/-- Adds an expression without parts. -/
def pushExpr (r : Draft) (e : Expr) : Draft :=
  r.push ⟨some e, 0⟩

/-- Adds a character, with its case variants where the flags ask for them. -/
def pushLiteral (r : Draft) (c : Char) : Draft :=
  if r.flags.ignoreCase then
    let all := if r.flags.unicode then Unicode.variants c else CharSet.asciiVariants c
    if all.all (· == c) then r.pushExpr (.char c)
    else r.pushExpr (.set (.ofChars all))
  else r.pushExpr (.char c)

/-- Opens a group. -/
def openGroup (r : Draft) (number : Option Nat) (inner : Flags) : Draft :=
  { r with
    flags := inner
    level := ⟨number, r.flags, [], []⟩
    stack := r.level :: r.stack }

/-- Opens a capturing group. -/
def openCapture (r : Draft) (names : List (List Char)) : Draft :=
  let r := { r with groups := r.groups + 1, names := names }
  r.openGroup (some r.groups) r.flags

/-- Closes the innermost group, and has the flags around it in force again. -/
def closeGroup? (r : Draft) : Option Draft :=
  match r.stack with
  | [] => none
  | outer :: stack =>
    let inner := r.level.finish
    let group := Expr.group r.level.number (inner.expr?.getD .empty)
    let r := { r with flags := r.level.outerFlags, level := outer, stack := stack }
    some (r.push ⟨some group, 1 + inner.depth⟩)

/-- Ends a branch. -/
def bar (r : Draft) : Draft :=
  { r with
    level := { r.level with
      branches := Item.sequence r.level.items.reverse :: r.level.branches
      items := [] } }

/-- Repeats the last piece. -/
def rep? (r : Draft) (least : Nat) (most : Option Nat) (greedy : Bool) : Option Draft :=
  match r.level.items with
  | ⟨some e, depth⟩ :: items =>
    let e := Expr.repeated least most (greedy != r.flags.swapGreed) e
    some { r with level := { r.level with items := ⟨some e, 1 + depth⟩ :: items } }
  | _ => none

end Draft

/-- Whether a character can stand in the name of a group. -/
def isGroupNameChar (first : Bool) (c : Char) : Bool :=
  c == '_' || Unicode.Property.alphabetic.contains c ||
    (!first && (c == '.' || c == '[' || c == ']' || Unicode.Property.number.contains c))

/-- Whether the characters are a name of a group. -/
def isGroupName : List Char → Bool
  | [] => false
  | c :: cs => isGroupNameChar true c && cs.all (isGroupNameChar false)

/-- Reads flags up to the character that ends them. `on` tells whether they are switched on, and
`met` holds the characters met before, in reverse. -/
def flags? (f : Flags) (on : Bool) (met : List Char) :
    List Char → Option (Flags × List Char × List Char)
  | [] => none
  | c :: cs =>
    if c == ':' || c == ')' then
      if met.head? == some '-' then none else some (f, met, c :: cs)
    else if c ∈ met then none
    else if c == '-' then flags? f false ('-' :: met) cs
    else
      match f.set? c on with
      | some f => flags? f on (c :: met) cs
      | none => none

/-- Opens a group or sets flags; `cs` is what follows the parenthesis. -/
def group? (r : Draft) (cs : List Char) : Option (Draft × List Char) :=
  let named (cs : List Char) : Option (Draft × List Char) :=
    let name := cs.takeWhile (· != '>')
    match cs.dropWhile (· != '>') with
    | '>' :: rest =>
      if isGroupName name && !r.names.contains name then
        some (r.openCapture (name :: r.names), rest)
      else none
    | _ => none
  match skipSpace r.flags.verbose cs with
  | '?' :: 'P' :: '<' :: rest => named rest
  | '?' :: '=' :: _ => none
  | '?' :: '!' :: _ => none
  | '?' :: '<' :: '=' :: _ => none
  | '?' :: '<' :: '!' :: _ => none
  | '?' :: '<' :: rest => named rest
  | '?' :: rest =>
    match flags? r.flags true [] rest with
    | some (f, met, ')' :: rest) =>
      if met.isEmpty then none else some ({ r with flags := f }.push ⟨none, 0⟩, rest)
    | some (f, _, ':' :: rest) => some (r.openGroup none f, rest)
    | _ => none
  | cs => some (r.openCapture r.names, cs)

/-- A number of rounds, with blanks around it. -/
def count? (verbose : Bool) (cs : List Char) : Option (Nat × List Char) :=
  let cs := cs.dropWhile isSpace
  let (ds, rest) := collect verbose Char.isDigit cs.length cs
  let n := decimalValue ds
  if ds.isEmpty || n ≥ Nat.pow 2 32 then none
  else some (n, skipSpace verbose (rest.dropWhile isSpace))

/-- A question mark makes a repetition prefer fewer rounds. -/
def greed (cs : List Char) : Bool × List Char :=
  match cs with
  | '?' :: rest => (false, rest)
  | _ => (true, cs)

/-- Reads the bounds of a repetition; `cs` is what follows the brace. -/
def bounds? (verbose : Bool) (cs : List Char) : Option (Nat × Option Nat × List Char) := do
  let (least, rest) ← count? verbose (skipSpace verbose cs)
  match rest with
  | '}' :: rest => pure (least, some least, rest)
  | ',' :: rest =>
    match skipSpace verbose rest with
    | '}' :: rest => pure (least, none, rest)
    | rest =>
      let (most, rest) ← count? verbose rest
      match rest with
      | '}' :: rest =>
        guard (least ≤ most)
        pure (least, some most, rest)
      | _ => none
  | _ => none

/-- Adds a piece without parts. -/
def Draft.pushPrimitive (r : Draft) : Primitive → Draft
  | .literal c => r.pushLiteral c
  | .set s => r.pushExpr (.set s)
  | .look l => r.pushExpr (.look l)

/-- The characters that a dot stands for. -/
def Flags.dot? (f : Flags) : Option CharSet :=
  if !f.unicode then none
  else if f.dotAll then some (.compl .none)
  else if f.crlf then some (.compl (.union (.single '\n') (.single '\r')))
  else some (.compl (.single '\n'))

/-- Reads one piece of a pattern. -/
def piece? (r : Draft) : List Char → Option (Draft × List Char)
  | [] => none
  | c :: cs =>
    let f := r.flags
    let rounds (least : Nat) (most : Option Nat) : Option (Draft × List Char) :=
      let (greedy, rest) := greed cs
      (r.rep? least most greedy).map fun r => (r, rest)
    match c with
    | '(' => group? r cs
    | ')' => r.closeGroup?.map fun r => (r, cs)
    | '|' => some (r.bar, cs)
    | '[' => (set? f cs).map fun (s, depth, rest) => (r.push ⟨some (.set s), depth⟩, rest)
    | '?' => rounds 0 (some 1)
    | '*' => rounds 0 none
    | '+' => rounds 1 none
    | '{' => do
      let (least, most, rest) ← bounds? f.verbose cs
      let (greedy, rest) := greed (skipSpace f.verbose rest)
      let r ← r.rep? least most greedy
      pure (r, rest)
    | '\\' => (escape? f cs).map fun (p, rest) => (r.pushPrimitive p, rest)
    | '.' => f.dot?.map fun s => (r.pushExpr (.set s), cs)
    | '^' => some (r.pushExpr (.look (if f.multiLine then .lineStart f.crlf else .textStart)), cs)
    | '$' => some (r.pushExpr (.look (if f.multiLine then .lineEnd f.crlf else .textEnd)), cs)
    | c => some (r.pushLiteral c, cs)

/-- Reads the rest of a pattern. Every piece takes a character, so the length of the text is enough
`fuel`. -/
def pieces? : (fuel : Nat) → Draft → List Char → Option Draft
  | 0, r, cs => if (skipSpace r.flags.verbose cs).isEmpty then some r else none
  | fuel + 1, r, cs =>
    match skipSpace r.flags.verbose cs with
    | [] => some r
    | cs =>
      match piece? r cs with
      | some (r, rest) => pieces? fuel r rest
      | none => none

/-- The deepest nesting of a pattern. -/
def maxDepth : Nat := 250

/-- The expression that a text says, of any size. -/
def Expr.read? (ignoreCase : Bool) (text : List Char) : Option Expr := do
  let f : Flags := { ignoreCase := ignoreCase }
  let start : Draft := ⟨f, ⟨none, f, [], []⟩, [], 0, []⟩
  let r ← pieces? text.length start text
  guard r.stack.isEmpty
  let whole := r.level.finish
  guard (whole.depth ≤ maxDepth)
  pure (whole.expr?.getD .empty)

/-- The expression that a text says, if the engine has room for it. -/
def Expr.ofText? [Engine] (ignoreCase : Bool) (text : List Char) : Option Expr :=
  (Expr.read? ignoreCase text).filter Engine.fits

/-- The pattern of an expression. -/
def ofExpr (e : Expr) : Pattern :=
  ⟨e.program, e.groups⟩

end Pattern

/-- The pattern that a text says, of any size. -/
def Pattern.read? (ignoreCase : Bool) (text : String) : Option Pattern :=
  (Pattern.Expr.read? ignoreCase text.toList).map Pattern.ofExpr

/-- The pattern that a text says, if it says one and the engine has room for it. -/
def Pattern.ofText? [Pattern.Engine] (ignoreCase : Bool) (text : String) : Option Pattern :=
  (Pattern.Expr.ofText? ignoreCase text.toList).map Pattern.ofExpr

/-- What an engine accepts is read. -/
theorem Pattern.read?_of_ofText? [Pattern.Engine] {ignoreCase : Bool} {text : String} {p : Pattern}
    (h : Pattern.ofText? ignoreCase text = some p) : Pattern.read? ignoreCase text = some p := by
  obtain ⟨e, he, rfl⟩ := Option.map_eq_some_iff.1 h
  exact Option.map_eq_some_iff.2 ⟨e, (Option.filter_eq_some_iff.1 he).1, rfl⟩

end Stencil
