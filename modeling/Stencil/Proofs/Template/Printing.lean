import Stencil.Proofs.Spelling.Closed
import Stencil.Proofs.Template.Expansion
import Stencil.Standalone

/-!
# Printing templates

`printNodes` writes nodes as a source again. What it writes for a compiled template is the canonical
spelling of the source (`Token.print_node`), so it compiles, and to the same nodes up to their
places and to the braces of their references: `compile_printNodes`.
-/

namespace Stencil

open Spelling

/-! ## The printer -/

def printNumber (i : Int) : List Char :=
  if i < 0 then '-' :: Nat.toDigits 10 i.natAbs else Nat.toDigits 10 i.natAbs

def printBound : Option Int → List Char
  | none => []
  | some i => printNumber i

def Subscript.print : Subscript → List Char
  | .index i => '[' :: (printNumber i ++ [']'])
  | .slice start stop => '[' :: (printBound start ++ ':' :: (printBound stop ++ [']']))

/-- A name with its subscript, as it stands in braces. -/
def VariableRef.printInner (v : VariableRef) : List Char :=
  v.name.toList ++ (v.subscript.map Subscript.print).getD []

def VariableRef.print (v : VariableRef) : List Char :=
  '$' :: '{' :: (v.printInner ++ ['}'])

/-- Chunks with a backslash before the characters of the class `p` in their texts. -/
def printChunks {α : Type} (p : Char → Bool) (token : α → List Char) (chunks : List (Chunk α)) :
    List Char :=
  chunks.flatMap fun
    | .text s => s.toList.flatMap fun c => if p c then ['\\', c] else [c]
    | .token a => token a

def Quoted.print (q : Quoted) : List Char :=
  '"' :: (printChunks (fun c => c == '"' || c == '$' || c == '\\') VariableRef.print q.segments ++
    ['"'])

def Ternary.print (t : Ternary) : List Char :=
  '$' :: '{' :: (t.lhs.printInner ++ ' ' :: (comparisonText t.comparison ++ ' ' ::
    (t.comparand.print ++ ' ' :: '?' :: ' ' :: (t.ifTrue.print ++ ' ' :: ':' :: ' ' ::
      (t.ifFalse.print ++ ['}'])))))

/-- A pattern, read in units, with a backslash before every unit that is the delimiter `d`. -/
def printPattern (d : Char) : List Char → List Char
  | [] => []
  | '\\' :: c :: cs => '\\' :: c :: printPattern d cs
  | c :: cs => if c = d then '\\' :: c :: printPattern d cs else c :: printPattern d cs

def Filler.print : Filler → List Char
  | .group n => '$' :: Nat.toDigits 10 n
  | .variable v => v.print

def Edit.print (e : Edit) : List Char :=
  let d := e.delimiter.toChar
  '$' :: '{' :: (e.subject.name.toList ++ d :: (printPattern d e.pattern.toList ++ d ::
    (printChunks (fun c => c == d || c == '$' || c == '\\') Filler.print e.replacement ++ d ::
      ((if e.ignoreCase then ['i'] else []) ++ (if e.replaceAll then ['g'] else []) ++ ['}']))))

def Node.print : Node → List Char
  | .literal text _ => (escapeText text).toList
  | .variable v => v.print
  | .ternary t => t.print
  | .edit e => e.print

/-- Nodes written as a source. -/
def printNodes (ns : List Node) : String :=
  String.ofList (ns.flatMap Node.print)

/-! ## References -/

theorem printNumber_eq (i : Int) : printNumber i = (Numeral.ofInt i).text := by
  unfold printNumber Numeral.text Numeral.ofInt
  by_cases h : i < 0 <;> simp [h]

theorem Spelling.Brackets.print_value (b : Brackets) : b.value.print = b.canon.text := by
  have hbound : ∀ a : Bound, printBound a.value = Bound.text (a.map Numeral.canon) := by
    intro a
    cases a with
    | none => rfl
    | some n => exact printNumber_eq n.value
  cases b with
  | index n =>
    rw [value, Subscript.print, printNumber_eq]
    rfl
  | range start stop =>
    rw [value, Subscript.print, hbound, hbound]
    rfl

theorem Spelling.Subject.print_ref (s : Subject) (span : Span) :
    (s.ref span).printInner = s.canon.text := by
  obtain ⟨name, brackets⟩ := s
  unfold VariableRef.printInner ref
  rw [String.toList_ofList]
  cases brackets with
  | none => rfl
  | some b => exact congrArg (name ++ ·) b.print_value

theorem Spelling.Reference.print_ref (o : Nat) (r : Reference) :
    (r.ref o).print = r.canon.text := by
  cases r with
  | bare name =>
    show '$' :: '{' :: (((⟨name, none⟩ : Subject).ref .zero).printInner ++ ['}']) = _
    rw [Subject.print_ref]
    rfl
  | braced s =>
    show '$' :: '{' :: ((s.ref _).printInner ++ ['}']) = _
    rw [Subject.print_ref]
    rfl

/-! ## Running text -/

/-- Chunks are printed piece by piece. -/
theorem printChunks_ofPieces {α : Type} (p : Char → Bool) (token : α → List Char)
    (pieces : List (Char ⊕ α)) :
    printChunks p token (Chunk.ofPieces pieces) =
      pieces.flatMap (Sum.elim (fun c => if p c then ['\\', c] else [c]) token) := by
  have hunpack : ∀ chunks : List (Chunk α), printChunks p token chunks =
      (Chunk.unpack chunks).flatMap
        (Sum.elim (fun c => if p c then ['\\', c] else [c]) token) := by
    intro chunks
    induction chunks with
    | nil => rfl
    | cons x chunks ih =>
      unfold printChunks at ih ⊢
      cases x with
      | text s =>
        rw [List.flatMap_cons, ih, Chunk.unpack, List.flatMap_append, List.flatMap_map]
        rfl
      | token a =>
        rw [List.flatMap_cons, ih, Chunk.unpack, List.flatMap_cons]
        rfl
  rw [hunpack, Chunk.unpack_ofPieces]

/-- What is printed for pieces is their canonical spelling. -/
theorem Spelling.Discipline.texts_canon {τ α : Type} {D : Discipline τ} {glyph : Char → Glyph}
    {token : τ → τ} {char : Char → Span → α} {ofToken : Nat → τ → α} {f : α → List Char}
    (hchar : ∀ c span, f (char c span) = (glyph c).text) {ps : List (Piece τ)}
    (htoken : ∀ o t, .token t ∈ ps → f (ofToken o t) = D.tokenText (token t)) (o : Nat) :
    ((D.writing char ofToken).values o ps).flatMap f =
      (D.writing char ofToken).texts (ps.map (Piece.canon glyph token)) := by
  induction ps generalizing o with
  | nil => rfl
  | cons p ps ih =>
    have hrest := ih fun o t ht => htoken o t (List.mem_cons_of_mem p ht)
    rw [Writing.values, List.flatMap_cons, List.map_cons, Writing.texts_cons, hrest]
    congr 1
    cases p with
    | glyph g => exact hchar _ _
    | token t => exact htoken o t List.mem_cons_self

theorem Spelling.Discipline.text_escape {τ : Type} (D : Discipline τ) (c : Char) :
    (D.escape c).text = if D.escapes c then ['\\', c] else [c] := by
  unfold escape
  split_ifs <;> rfl

theorem print_quotedValue (o : Nat) (ps : List (Piece Reference)) :
    (quotedValue o ps).print = quotedText (canonQuoted ps) := by
  unfold Quoted.print quotedText
  rw [quotedValue, printChunks_ofPieces]
  refine congrArg (fun w => '"' :: (w ++ ['"'])) (Discipline.texts_canon ?_ ?_ (o + 1))
  · exact fun c _ => (inQuotes.text_escape c).symm
  · exact fun o r _ => r.print_ref o

/-! ## Tokens -/

theorem Spelling.Choice.print_ternary (x : Choice) (start : Nat) (lhs : VariableRef) (o : Nat) :
    (x.ternary start lhs o).print = '$' :: '{' :: (lhs.printInner ++ x.canon.text) := by
  simp only [Ternary.print, ternary, print_quotedValue]
  simp [text, canon]

/-- A character other than a backslash is a unit of its own. -/
theorem printPattern_cons (d : Char) {c : Char} (hc : c ≠ '\\') (cs : List Char) :
    printPattern d (c :: cs) =
      if c = d then '\\' :: c :: printPattern d cs else c :: printPattern d cs := by
  rw [printPattern]
  exact fun _ _ hback => absurd hback hc

/-- Printing a pattern puts back the backslashes that reading it has taken away. -/
theorem printPattern_flatMap {d : Char} (hd : d ≠ '\\') {us : List PatternUnit}
    (hus : ∀ u ∈ us, u.Sound d) :
    printPattern d (us.flatMap (PatternUnit.value d)) = (patternWriting d).texts us := by
  induction us with
  | nil => rfl
  | cons u us ih =>
    have hrest := ih fun v hv => hus v (List.mem_cons_of_mem u hv)
    rw [List.flatMap_cons, Writing.texts_cons, ← hrest]
    cases u with
    | pair c =>
      show printPattern d ((if c = d then [c] else ['\\', c]) ++ _) = '\\' :: c :: _
      by_cases hc : c = d
      · -- the delimiter stands alone in the pattern
        subst hc
        rw [if_pos rfl, List.singleton_append, printPattern_cons c hd, if_pos rfl]
        rfl
      · rw [if_neg hc]
        rfl
    | single c =>
      obtain ⟨hback, hc⟩ : c ≠ '\\' ∧ c ≠ d := hus _ List.mem_cons_self
      show printPattern d (c :: _) = c :: _
      rw [printPattern_cons d hback, if_neg hc]
      rfl

theorem toDigits_digit {a : Char} (ha : a.isDigit) :
    Nat.toDigits 10 (a.toNat - '0'.toNat) = [a] := by
  have hbounds : 48 ≤ a.toNat ∧ a.toNat ≤ 57 := by
    simp only [Char.isDigit, Bool.and_eq_true, decide_eq_true_eq] at ha
    exact ha
  have hzero : '0'.toNat = 48 := rfl
  rw [hzero, Nat.toDigits_of_lt_base (by omega)]
  refine congrArg (fun c => [c]) (Char.toNat_inj.1 ?_)
  rw [Nat.toNat_digitChar_of_lt_ten (by omega)]
  omega

theorem Spelling.Filling.print_filler {t : Filling} (ht : t.Sound) (o : Nat) :
    (t.filler o).print = t.canon.text := by
  cases t with
  | group a => exact congrArg ('$' :: ·) (toDigits_digit ht)
  | ref r => exact r.print_ref o

theorem Spelling.Rewrite.print_edit [Pattern.Engine] {x : Rewrite} (hx : x.Sound) (start : Nat)
    (name : List Char) (span : Span) (o : Nat) :
    (x.edit start ((⟨name, none⟩ : Subject).ref span) o).print =
      '$' :: '{' :: (name ++ x.canon.text) := by
  have hback := delimiter_ne_backslash x.delimiter
  have hpattern : printPattern x.delimiter.toChar x.patternText.toList =
      (patternWriting x.delimiter.toChar).texts x.pattern := by
    rw [patternText, String.toList_ofList, printPattern_flatMap hback hx.pattern]
  have hreplacement : ∀ o, printChunks
      (fun c => c == x.delimiter.toChar || c == '$' || c == '\\') Filler.print
      (Chunk.ofPieces ((replacementWriting x.delimiter.toChar).values o x.replacement)) =
        (replacementWriting x.delimiter.toChar).texts
          (canonReplacement x.delimiter x.replacement) := by
    intro o
    rw [printChunks_ofPieces]
    refine Discipline.texts_canon (fun c _ => ?_) (fun o t ht => ?_) o
    · exact ((inReplacement x.delimiter.toChar).text_escape c).symm
    · obtain ⟨rest, hsound, -⟩ := Discipline.tokenFits_of_fit hx.replacement ht
      exact Filling.print_filler hsound o
  have hname : ((⟨name, none⟩ : Subject).ref span).name.toList = name := String.toList_ofList
  simp only [Edit.print, edit, hpattern, hreplacement, hname]
  simp [text, canon, canonFlags]
  rfl

/-- A token is printed in its canonical spelling. -/
theorem Spelling.Token.print_node [Pattern.Engine] {t : Token} (ht : t.Sound) (o : Nat) :
    (t.node o).print = t.canon.text := by
  rcases t with r | ⟨s, x⟩ | ⟨name, x⟩
  · exact r.print_ref o
  · show (x.ternary o _ _).print = _
    rw [Choice.print_ternary, Subject.print_ref]
    rfl
  · show (x.edit o _ _).print = _
    rw [Rewrite.print_edit ht.2]
    rfl

/-! ## Sources -/

namespace Spelling

def canonPieces (ps : List (Piece Token)) : List (Piece Token) :=
  ps.map (Piece.canon Glyph.ofChar Token.canon)

theorem fit_canonPieces [Pattern.Engine] {ps : List (Piece Token)} (h : sourceWriting.Fit ps []) :
    sourceWriting.Fit (canonPieces ps) [] :=
  Discipline.fit_canon Glyph.fits_ofChar (fun _ _ rest' ht => Token.fits_canon ht.1 rest') h []

/-- The canonical spelling of a segment. -/
def Segment.canon : Segment → Segment
  | running g gs => running (.ofChar g.char) (gs.map fun h => .ofChar h.char)
  | token t => token t.canon

theorem segments_canonPieces (ps : List (Piece Token)) :
    segments (canonPieces ps) = (segments ps).map Segment.canon := by
  induction ps with
  | nil => rfl
  | cons p ps ih =>
    cases p with
    | glyph g =>
      show addGlyph _ (segments (canonPieces ps)) = (addGlyph g (segments ps)).map Segment.canon
      rw [ih]
      rcases segments ps with _ | ⟨⟨h, hs⟩ | t, ss⟩ <;> rfl
    | token t =>
      show .token t.canon :: segments (canonPieces ps) = _
      rw [ih]
      rfl

variable [Pattern.Engine]

theorem Segment.erase_canon (o o' : Nat) (s : Segment) :
    (s.canon.node o).erase = (s.node o').erase := by
  cases s with
  | running g gs =>
    have hchars : ((g :: gs).map fun h => Glyph.ofChar h.char).map Glyph.char =
        (g :: gs).map Glyph.char := by
      rw [List.map_map]
      exact List.map_congr_left fun h _ => Glyph.char_ofChar h.char
    show Node.literal (String.ofList (((g :: gs).map fun h => Glyph.ofChar h.char).map _)) _ = _
    rw [hchars]
    rfl
  | token t => exact t.erase_canon o o'

theorem erase_canonSegments (o o' : Nat) (ss : List Segment) :
    (segmentWriting.values o (ss.map Segment.canon)).map Node.erase =
      (segmentWriting.values o' ss).map Node.erase := by
  induction ss generalizing o o' with
  | nil => rfl
  | cons s ss ih =>
    rw [List.map_cons, Writing.values, Writing.values, List.map_cons, List.map_cons, ih]
    exact congrArg (· :: _) (s.erase_canon o o')

/-- A segment is printed in its canonical spelling. -/
theorem Segment.print_node {s : Segment} (hs : ∀ t, .token t ∈ s.pieces → t.Sound) (o : Nat) :
    (s.node o).print = sourceWriting.texts (canonPieces s.pieces) := by
  cases s with
  | running g gs =>
    have hpieces : canonPieces ((g :: gs).map .glyph) =
        valuePieces (String.ofList ((g :: gs).map Glyph.char)) := by
      rw [valuePieces, String.toList_ofList, canonPieces, List.map_map, List.map_map, List.map_map]
      rfl
    show (escapeText (String.ofList ((g :: gs).map Glyph.char))).toList = _
    rw [← texts_valuePieces, String.toList_ofList, Segment.pieces, hpieces]
  | token t =>
    rw [node, Token.print_node (hs t List.mem_cons_self)]
    exact (List.append_nil _).symm

theorem print_values {ss : List Segment}
    (hss : ∀ t, .token t ∈ ss.flatMap Segment.pieces → t.Sound) (o : Nat) :
    (segmentWriting.values o ss).flatMap Node.print =
      sourceWriting.texts (canonPieces (ss.flatMap Segment.pieces)) := by
  induction ss generalizing o with
  | nil => rfl
  | cons s ss ih =>
    rw [List.flatMap_cons] at hss
    have hs : ∀ t, .token t ∈ s.pieces → t.Sound := fun t ht => hss t (List.mem_append_left _ ht)
    have hrest := ih fun t ht => hss t (List.mem_append_right _ ht)
    rw [Writing.values, List.flatMap_cons, List.flatMap_cons, canonPieces, List.map_append,
      Writing.texts_append, hrest]
    exact congrArg (· ++ _) (Segment.print_node hs o)

end Spelling

/-- **Printing and compiling restore the nodes**, up to their places and to the braces of their
references, and so the expansions. -/
theorem compile_printNodes [Pattern.Engine] {source : String} {t : Template}
    (h : Template.compile source = .ok t) :
    ∃ p, Template.compile (printNodes t.nodes) = .ok p ∧
      p.nodes.map Node.erase = t.nodes.map Node.erase ∧
      ∀ env, p.safeSubstitute env = t.safeSubstitute env ∧ p.undefined env = t.undefined env := by
  obtain ⟨ps, hfit, -, rfl⟩ := Template.compile_eq_ok_iff_segments.1 h
  have hsound : ∀ t, .token t ∈ (segments ps).flatMap Segment.pieces → t.Sound := by
    intro t ht
    rw [flatMap_pieces_segments] at ht
    exact Token.sound_of_fit hfit ht
  have hprint : printNodes (segmentWriting.values 0 (segments ps)) =
      String.ofList (sourceWriting.texts (canonPieces ps)) := by
    rw [printNodes, print_values hsound, flatMap_pieces_segments]
  have hcompile : Template.compile (printNodes (segmentWriting.values 0 (segments ps))) =
      .ok ⟨_, segmentWriting.values 0 (segments (canonPieces ps))⟩ :=
    Template.compile_eq_ok_iff_segments.2
      ⟨canonPieces ps, fit_canonPieces hfit, by rw [hprint, String.toList_ofList], rfl⟩
  have herase : (segmentWriting.values 0 (segments (canonPieces ps))).map Node.erase =
      (segmentWriting.values 0 (segments ps)).map Node.erase := by
    rw [segments_canonPieces, erase_canonSegments 0 0]
  refine ⟨_, hcompile, herase, fun env => ?_⟩
  unfold Template.safeSubstitute Template.undefined expandLenient
  rw [expandNodes_congr _ herase]
  exact ⟨rfl, rfl⟩

/-- A bare reference is printed in braces, and a number without needless digits. -/
theorem compile_printNodes_references :
    ∃ t p, Template.compile "$$$a$\x7bb[-01:]\x7d" = .ok t ∧
      Template.compile "$$$\x7ba\x7d$\x7bb[-1:]\x7d" = .ok p ∧
      p.nodes.map Node.erase = t.nodes.map Node.erase ∧
      ∀ env, p.safeSubstitute env = t.safeSubstitute env := by
  have hcompile : Template.compile "$$$a$\x7bb[-01:]\x7d" = .ok ⟨"$$$a$\x7bb[-01:]\x7d",
      [.literal "$" ⟨0, 2⟩, .variable ⟨"a", none, false, ⟨2, 4⟩⟩,
        .variable ⟨"b", some (.slice (some (-1)) none), true, ⟨4, 14⟩⟩]⟩ := by decide +kernel
  obtain ⟨p, hp, herase, hexpand⟩ := compile_printNodes hcompile
  exact ⟨_, p, hcompile, hp, herase, fun env => (hexpand env).1⟩

end Stencil
