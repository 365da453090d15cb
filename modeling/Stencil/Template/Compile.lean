import Stencil.Template.Reference
import Stencil.Pattern.Splice

/-!
# Compiling templates

A template is read from left to right. At the top level it is running text, with escapes, bare
references and tokens in braces. The character after the name tells what kind of token it is: a
closing brace a reference, a delimiter an edit, and a blank, `=` or `!` a ternary.

`Template.compile` either gives the nodes of the whole source or the first fault in it.
-/

namespace Stencil

/-! ## Quoted strings -/

/-- Reads a character, an escape or a reference of a quoted string. -/
def readQuotedPiece (c : Cursor) : Reading (Char ⊕ VariableRef) :=
  match c.rest with
  | '\\' :: d :: _ =>
    if d = '"' ∨ d = '$' ∨ d = '\\' then .ok (.inl d, c.skip 2) else .ok (.inl '\\', c.skip 1)
  | '$' :: _ => readNested id c
  | d :: _ => .ok (.inl d, c.skip 1)
  | [] => fault c .unterminatedString

theorem reaches_readQuotedPiece {c c' : Cursor} {p : Char ⊕ VariableRef}
    (h : readQuotedPiece c = .ok (p, c')) : c.Reaches 1 c' := by
  simp only [readQuotedPiece, fault] at h
  split at h
  · split at h <;> simp only [Except.ok.injEq, Prod.mk.injEq] at h
    · exact h.2 ▸ (Cursor.Reaches.skip 2 c).weaken (by omega)
    · exact h.2 ▸ .skip 1 c
  · exact reaches_readNested h
  · simp only [Except.ok.injEq, Prod.mk.injEq] at h
    exact h.2 ▸ .skip 1 c
  · simp at h

/-- The pieces of a quoted string. -/
def quotedPiece : Step (Char ⊕ VariableRef) := ⟨readQuotedPiece, reaches_readQuotedPiece⟩

/-- Reads a quoted string at its opening quote. -/
def readQuoted (c : Cursor) : Reading Quoted :=
  match c.peek? with
  | some '"' =>
    match quotedPiece.upTo '"' ⟨c.offset, .unterminatedString⟩ (c.skip 1) with
    | .error f => .error f
    | .ok (pieces, d) => .ok (⟨Chunk.ofPieces pieces, ⟨c.offset, d.offset⟩⟩, d)
  | some '\'' => fault c .singleQuotes
  | _ => fault c .missingString

/-! ## Ternaries -/

/-- The blanks that may stand between the parts of a ternary. -/
def isGap (c : Char) : Bool :=
  c == ' ' || c == '\t' || c == '\n' || c == '\r'

/-- The place after the blanks. -/
def Cursor.skipGap (c : Cursor) : Cursor :=
  c.skipWhile isGap

/-- Reads `==` or `!=`. -/
def readComparison (c : Cursor) : Reading Comparison :=
  match c.rest with
  | '=' :: '=' :: _ => .ok (.equal, c.skip 2)
  | '!' :: '=' :: _ => .ok (.notEqual, c.skip 2)
  | _ => fault c .missingComparison

/-- Reads a character that has to stand here. -/
def expect (d : Char) (reason : Reason) (c : Cursor) : Except Fault Cursor :=
  if c.peek? = some d then .ok (c.skip 1) else fault c reason

/-- Reads the rest of a ternary, from after its left side on; `start` is where the token starts. -/
def readTernary (start : Nat) (lhs : VariableRef) (c : Cursor) :
    Except Fault (Ternary × Cursor) := do
  let (comparison, c) ← readComparison c.skipGap
  let (comparand, c) ← readQuoted c.skipGap
  let c ← expect '?' .missingQuestionMark c.skipGap
  let (ifTrue, c) ← readQuoted c.skipGap
  let c ← expect ':' .missingColon c.skipGap
  let (ifFalse, c) ← readQuoted c.skipGap
  let c := c.skipGap
  match c.peek? with
  | some '}' =>
    .ok (⟨lhs, comparison, comparand, ifTrue, ifFalse, ⟨start, (c.skip 1).offset⟩⟩, c.skip 1)
  | some _ => fault c .missingBrace
  | none => .error ⟨start, .unterminated⟩

/-! ## Edits -/

/-- Reads a unit of a pattern: a backslash with the character after it, or one other character. An
escaped delimiter stands for the delimiter. -/
def readPatternUnit (start : Nat) (delimiter : Char) (c : Cursor) : Reading (List Char) :=
  match c.rest with
  | '\\' :: d :: _ => .ok (if d = delimiter then [d] else ['\\', d], c.skip 2)
  | ['\\'] => .error ⟨start, .unterminated⟩
  | d :: _ => .ok ([d], c.skip 1)
  | [] => .error ⟨start, .unterminated⟩

theorem reaches_readPatternUnit {start : Nat} {delimiter : Char} {c c' : Cursor} {u : List Char}
    (h : readPatternUnit start delimiter c = .ok (u, c')) : c.Reaches 1 c' := by
  simp only [readPatternUnit] at h
  split at h <;> simp only [reduceCtorEq, Except.ok.injEq, Prod.mk.injEq] at h
  · exact h.2 ▸ (Cursor.Reaches.skip 2 c).weaken (by omega)
  · exact h.2 ▸ .skip 1 c

/-- The units of a pattern. -/
def patternUnit (start : Nat) (delimiter : Char) : Step (List Char) :=
  ⟨readPatternUnit start delimiter, reaches_readPatternUnit⟩

/-- Reads a character, an escape, a group or a reference of a replacement. -/
def readReplacementPiece (delimiter : Char) (c : Cursor) : Reading (Char ⊕ Filler) :=
  match c.rest with
  | '\\' :: d :: _ =>
    if d = delimiter ∨ d = '$' ∨ d = '\\' then .ok (.inl d, c.skip 2)
    else .ok (.inl '\\', c.skip 1)
  | '$' :: d :: _ =>
    if d.isDigit then .ok (.inr (.group (d.toNat - '0'.toNat)), c.skip 2)
    else readNested .variable c
  | d :: _ => .ok (.inl d, c.skip 1)
  | [] => fault c .unterminated

theorem reaches_readReplacementPiece {delimiter : Char} {c c' : Cursor} {p : Char ⊕ Filler}
    (h : readReplacementPiece delimiter c = .ok (p, c')) : c.Reaches 1 c' := by
  simp only [readReplacementPiece, fault] at h
  split at h
  · split at h <;> simp only [Except.ok.injEq, Prod.mk.injEq] at h
    · exact h.2 ▸ (Cursor.Reaches.skip 2 c).weaken (by omega)
    · exact h.2 ▸ .skip 1 c
  · split at h
    · simp only [Except.ok.injEq, Prod.mk.injEq] at h
      exact h.2 ▸ (Cursor.Reaches.skip 2 c).weaken (by omega)
    · exact reaches_readNested h
  · simp only [Except.ok.injEq, Prod.mk.injEq] at h
    exact h.2 ▸ .skip 1 c
  · simp at h

/-- The pieces of a replacement. -/
def replacementPiece (delimiter : Char) : Step (Char ⊕ Filler) :=
  ⟨readReplacementPiece delimiter, reaches_readReplacementPiece⟩

/-- The flags of an edit: whether case is ignored, and whether every match is replaced. -/
structure EditFlags where
  ignoreCase : Bool
  replaceAll : Bool
  deriving DecidableEq, Repr

/-- Reads the flags and the closing brace. -/
def readFlags (start : Nat) (c : Cursor) : Reading EditFlags :=
  let isFlag := fun d => d == 'i' || d == 'g'
  let letters := c.run isFlag
  let d := c.skipWhile isFlag
  match d.peek? with
  | some '}' => .ok (⟨letters.contains 'i', letters.contains 'g'⟩, d.skip 1)
  | some f => fault d (.unknownFlag f)
  | none => .error ⟨start, .unterminated⟩

/-- The largest group that a replacement refers to. -/
def largestGroup (parts : List (Chunk Filler)) : Nat :=
  parts.foldl (fun n p => match p with | .token (.group g) => max n g | _ => n) 0

/-- Reads the rest of an edit at its first delimiter; `start` is where the token starts. -/
def readEdit [Pattern.Engine] (start : Nat) (subject : VariableRef) (delimiter : Delimiter)
    (c : Cursor) : Except Fault (Edit × Cursor) := do
  let d := delimiter.toChar
  let unterminated : Fault := ⟨start, .unterminated⟩
  let patternStart := c.skip 1
  let (units, c) ← (patternUnit start d).upTo d unterminated patternStart
  let pattern := String.ofList units.flatten
  if units.isEmpty then fault patternStart .emptyPattern
  else
    let replacementStart := c
    let (pieces, c) ← (replacementPiece d).upTo d unterminated c
    let (flags, c) ← readFlags start c
    let replacement := Chunk.ofPieces pieces
    match Pattern.ofText? flags.ignoreCase pattern with
    | none =>
      fault patternStart (.badPattern pattern (Pattern.Engine.explain flags.ignoreCase pattern))
    | some p =>
      if largestGroup replacement ≤ p.groups then
        .ok (⟨subject, delimiter, pattern, replacement, flags.ignoreCase, flags.replaceAll,
          ⟨start, c.offset⟩⟩, c)
      else
        fault replacementStart (.missingGroup (largestGroup replacement) pattern p.groups)

/-! ## Tokens in braces -/

/-- Reads a token in braces at its dollar sign. -/
def readBraced [Pattern.Engine] (c : Cursor) : Except Fault (Node × Cursor) :=
  if '}' ∈ c.rest then do
    let (name, d) := readName (c.skip 2)
    if name = "" then fault (c.skip 2) .missingName
    else
      let (s, d) ← readSubscript? d
      let inner : VariableRef := ⟨name, s, true, ⟨(c.skip 2).offset, d.offset⟩⟩
      match d.peek? with
      | some '}' =>
        .ok (.variable ⟨name, s, true, ⟨c.offset, (d.skip 1).offset⟩⟩, d.skip 1)
      | some '/' =>
        if s.isSome then fault d .editOfSubscript
        else do
          let (e, d) ← readEdit c.offset inner .slash d
          .ok (.edit e, d)
      | some '|' =>
        if s.isSome then fault d .editOfSubscript
        else do
          let (e, d) ← readEdit c.offset inner .bar d
          .ok (.edit e, d)
      | some e =>
        if e = ' ' ∨ e = '\t' ∨ e = '=' ∨ e = '!' then do
          let (t, d) ← readTernary c.offset inner d
          .ok (.ternary t, d)
        else fault d (.unexpectedCharacter e)
      | none => .error ⟨c.offset, .unterminated⟩
  else fault c .unterminated

/-! ## Readers move forward -/

theorem reaches_readQuoted {c c' : Cursor} {q : Quoted} (h : readQuoted c = .ok (q, c')) :
    c.Reaches 2 c' := by
  simp only [readQuoted, fault] at h
  split at h
  · split at h
    · simp at h
    · rename_i pieces d hd
      simp only [Except.ok.injEq, Prod.mk.injEq] at h
      exact h.2 ▸ (Cursor.Reaches.skip 1 c).trans (quotedPiece.reaches_upTo _ _ hd)
  · simp at h
  · simp at h

theorem reaches_readComparison {c c' : Cursor} {o : Comparison}
    (h : readComparison c = .ok (o, c')) : c.Reaches 2 c' := by
  simp only [readComparison, fault] at h
  split at h <;> simp only [reduceCtorEq, Except.ok.injEq, Prod.mk.injEq] at h
  all_goals exact h.2 ▸ .skip 2 c

theorem reaches_expect {d : Char} {reason : Reason} {c c' : Cursor}
    (h : expect d reason c = .ok c') : c.Reaches 1 c' := by
  simp only [expect, fault] at h
  split at h <;> simp only [reduceCtorEq, Except.ok.injEq] at h
  exact h ▸ .skip 1 c

theorem reaches_skipGap (c : Cursor) : c.Reaches 0 c.skipGap :=
  .skipWhile _ _

theorem reaches_readTernary {start : Nat} {lhs : VariableRef} {c c' : Cursor} {t : Ternary}
    (h : readTernary start lhs c = .ok (t, c')) : c.Reaches 1 c' := by
  simp only [readTernary, bind, Except.bind] at h
  split at h
  · simp at h
  rename_i o ho
  split at h
  · simp at h
  rename_i q₁ hq₁
  split at h
  · simp at h
  rename_i c₁ hc₁
  split at h
  · simp at h
  rename_i q₂ hq₂
  split at h
  · simp at h
  rename_i c₂ hc₂
  split at h
  · simp at h
  rename_i q₃ hq₃
  have r := (reaches_skipGap _).trans <| (reaches_readComparison ho).trans <|
    (reaches_skipGap _).trans <| (reaches_readQuoted hq₁).trans <|
    (reaches_skipGap _).trans <| (reaches_expect hc₁).trans <|
    (reaches_skipGap _).trans <| (reaches_readQuoted hq₂).trans <|
    (reaches_skipGap _).trans <| (reaches_expect hc₂).trans <|
    (reaches_skipGap _).trans <| (reaches_readQuoted hq₃).trans (reaches_skipGap _)
  split at h <;> simp only [fault, reduceCtorEq, Except.ok.injEq, Prod.mk.injEq] at h
  exact h.2 ▸ (r.trans (.skip 1 _)).weaken (by omega)

theorem reaches_readFlags {start : Nat} {c c' : Cursor} {f : EditFlags}
    (h : readFlags start c = .ok (f, c')) : c.Reaches 1 c' := by
  simp only [readFlags, fault] at h
  split at h <;> simp only [reduceCtorEq, Except.ok.injEq, Prod.mk.injEq] at h
  exact h.2 ▸ (Cursor.Reaches.skipWhile _ c).trans (.skip 1 _)

theorem reaches_readEdit [Pattern.Engine] {start : Nat} {subject : VariableRef}
    {delimiter : Delimiter} {c c' : Cursor} {e : Edit}
    (h : readEdit start subject delimiter c = .ok (e, c')) : c.Reaches 1 c' := by
  simp only [readEdit, bind, Except.bind, fault] at h
  split at h
  · simp at h
  rename_i units hunits
  split at h
  · simp at h
  split at h
  · simp at h
  rename_i pieces hpieces
  split at h
  · simp at h
  rename_i flags hflags
  have r := (Cursor.Reaches.skip 1 c).trans <| (Step.reaches_upTo _ _ _ hunits).trans <|
    (Step.reaches_upTo _ _ _ hpieces).trans (reaches_readFlags hflags)
  split at h
  · simp at h
  · split at h <;> simp only [reduceCtorEq, Except.ok.injEq, Prod.mk.injEq] at h
    exact h.2 ▸ r.weaken (by omega)

theorem reaches_readBraced [Pattern.Engine] {c c' : Cursor} {n : Node}
    (h : readBraced c = .ok (n, c')) : c.Reaches 1 c' := by
  simp only [readBraced, bind, Except.bind, fault] at h
  split at h
  · split at h
    · simp at h
    · split at h
      · simp at h
      · rename_i s hs
        have r := (Cursor.Reaches.skip 2 c).trans <| (reaches_readName _).trans
          (reaches_readSubscript? hs)
        split at h
        · simp only [Except.ok.injEq, Prod.mk.injEq] at h
          exact h.2 ▸ (r.trans (.skip 1 _)).weaken (by omega)
        · split at h
          · simp at h
          · split at h
            · simp at h
            · rename_i e he
              simp only [Except.ok.injEq, Prod.mk.injEq] at h
              exact h.2 ▸ (r.trans (reaches_readEdit he)).weaken (by omega)
        · split at h
          · simp at h
          · split at h
            · simp at h
            · rename_i e he
              simp only [Except.ok.injEq, Prod.mk.injEq] at h
              exact h.2 ▸ (r.trans (reaches_readEdit he)).weaken (by omega)
        · split at h
          · split at h
            · simp at h
            · rename_i t ht
              simp only [Except.ok.injEq, Prod.mk.injEq] at h
              exact h.2 ▸ (r.trans (reaches_readTernary ht)).weaken (by omega)
          · simp at h
        · simp at h
  · simp at h

/-! ## The top level -/

/-- What is read at the top level: a character of running text with the bytes it was written in, or
a token. -/
inductive Lexeme
  | char (c : Char) (span : Span)
  | token (n : Node)
  deriving DecidableEq, Repr

/-- Takes the next `n` characters for the character `d`. -/
def Cursor.lexeme (c : Cursor) (d : Char) (n : Nat) : Lexeme × Cursor :=
  (.char d ⟨c.offset, (c.skip n).offset⟩, c.skip n)

/-- Reads a character, an escape or a token at the top level. -/
def readLexeme [Pattern.Engine] (c : Cursor) : Reading Lexeme :=
  match c.rest with
  | '\\' :: d :: _ =>
    if d = '$' ∨ d = '\\' then .ok (c.lexeme d 2) else .ok (c.lexeme '\\' 1)
  | '$' :: '$' :: _ => .ok (c.lexeme '$' 2)
  | '$' :: '{' :: _ =>
    match readBraced c with
    | .error f => .error f
    | .ok (n, d) => .ok (.token n, d)
  | '$' :: d :: _ =>
    if isNameChar d then .ok (.token (.variable (readBare c).1), (readBare c).2)
    else .ok (c.lexeme '$' 1)
  | d :: _ => .ok (c.lexeme d 1)
  | [] => fault c .unterminated

theorem reaches_readLexeme [Pattern.Engine] {c c' : Cursor} {l : Lexeme}
    (h : readLexeme c = .ok (l, c')) : c.Reaches 1 c' := by
  simp only [readLexeme, Cursor.lexeme, fault] at h
  split at h
  · split at h <;> simp only [Except.ok.injEq, Prod.mk.injEq] at h
    · exact h.2 ▸ (Cursor.Reaches.skip 2 c).weaken (by omega)
    · exact h.2 ▸ .skip 1 c
  · simp only [Except.ok.injEq, Prod.mk.injEq] at h
    exact h.2 ▸ (Cursor.Reaches.skip 2 c).weaken (by omega)
  · split at h
    · simp at h
    · rename_i n d hd
      simp only [Except.ok.injEq, Prod.mk.injEq] at h
      exact h.2 ▸ reaches_readBraced hd
  · split at h <;> simp only [Except.ok.injEq, Prod.mk.injEq] at h
    · exact h.2 ▸ reaches_readBare c
    · exact h.2 ▸ .skip 1 c
  · simp only [Except.ok.injEq, Prod.mk.injEq] at h
    exact h.2 ▸ .skip 1 c
  · simp at h

/-- The lexemes of a source. -/
def lexeme [Pattern.Engine] : Step Lexeme := ⟨readLexeme, reaches_readLexeme⟩

namespace Node

/-- The literal of a run of characters, if there are any. -/
def flush (run : List Char) (span : Span) (nodes : List Node) : List Node :=
  match run with
  | [] => nodes
  | c :: cs => .literal (String.ofList (c :: cs).reverse) span :: nodes

/-- Joins running characters into literals. `run` holds the characters since the last token, in
reverse, and `span` the bytes they were written in. -/
def gather (run : List Char) (span : Span) : List Lexeme → List Node
  | [] => flush run span []
  | .token n :: ls => flush run span (n :: gather [] span ls)
  | .char c s :: ls =>
    gather (c :: run) (if run.isEmpty then s else ⟨span.start, s.stop⟩) ls

/-- The nodes of a sequence of lexemes: no literal is empty and no two are adjacent. -/
def ofLexemes (ls : List Lexeme) : List Node :=
  gather [] ⟨0, 0⟩ ls

end Node

/-- The nodes of a source, or its first fault. -/
def Template.read [Pattern.Engine] (source : String) : Except Fault (List Node) :=
  (lexeme.all (.ofText source)).map Node.ofLexemes

/-- Compiles a source. -/
def Template.compile [Pattern.Engine] (source : String) : Except TemplateError Template :=
  match Template.read source with
  | .ok nodes => .ok ⟨source, nodes⟩
  | .error f => .error (.parse source f)

end Stencil
