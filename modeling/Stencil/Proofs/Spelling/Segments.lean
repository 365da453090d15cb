import Mathlib.Data.List.Chain
import Stencil.Proofs.Spelling.Source

/-!
# From pieces to nodes

A source is cut into segments: the longest runs of running text, and the tokens between them. Each
segment becomes one node, whose span is the place of the segment (`Segment.span_node`), and the
nodes of a source are those of its segments (`ofLexemes_values`). So
`Template.compile_eq_ok_iff_segments` reads a compiled template as the segments of a sound source,
and `Template.exists_segment` finds the text of one node in it.
-/

namespace Stencil

namespace Spelling

/-- A longest run of running text, or a token. -/
inductive Segment
  | running (g : Glyph) (gs : List Glyph)
  | token (t : Token)
  deriving DecidableEq, Repr

def Segment.pieces : Segment → List (Piece Token)
  | running g gs => (g :: gs).map .glyph
  | token t => [.token t]

/-- A character of running text before segments. -/
def addGlyph (g : Glyph) : List Segment → List Segment
  | .running h hs :: ss => .running g (h :: hs) :: ss
  | ss => .running g [] :: ss

/-- The segments of a sequence of pieces. -/
def segments : List (Piece Token) → List Segment
  | [] => []
  | .glyph g :: ps => addGlyph g (segments ps)
  | .token t :: ps => .token t :: segments ps

theorem flatMap_pieces_addGlyph (g : Glyph) (ss : List Segment) :
    (addGlyph g ss).flatMap Segment.pieces = .glyph g :: ss.flatMap Segment.pieces := by
  rcases ss with _ | ⟨⟨h, hs⟩ | t, ss⟩ <;> rfl

/-- Cutting into segments loses nothing. -/
theorem flatMap_pieces_segments (ps : List (Piece Token)) :
    (segments ps).flatMap Segment.pieces = ps := by
  induction ps with
  | nil => rfl
  | cons p ps ih =>
    cases p with
    | glyph g => rw [segments, flatMap_pieces_addGlyph, ih]
    | token t =>
      rw [segments, List.flatMap_cons, ih]
      rfl

/-- Of two neighbours one is a token. -/
def Segment.Apart : Segment → Segment → Prop
  | running _ _, running _ _ => False
  | _, _ => True

theorem isChain_segments (ps : List (Piece Token)) : (segments ps).IsChain Segment.Apart := by
  induction ps with
  | nil => exact .nil
  | cons p ps ih =>
    cases p with
    | glyph g =>
      rw [segments]
      revert ih
      rcases segments ps with _ | ⟨⟨h, hs⟩ | t, ss⟩
      · exact fun _ => .singleton _
      · exact List.IsChain.imp_head fun {s} hs => by cases s <;> exact hs
      · exact .cons_cons trivial
    | token t => exact List.isChain_cons.2 ⟨fun _ _ => trivial, ih⟩

theorem segments_running {g : Glyph} {gs : List Glyph} {ps : List (Piece Token)}
    (h : ∀ s ∈ (segments ps).head?, (Segment.running g gs).Apart s) :
    segments ((Segment.running g gs).pieces ++ ps) = .running g gs :: segments ps := by
  induction gs generalizing g with
  | nil =>
    show addGlyph g (segments ps) = _
    rcases hss : segments ps with _ | ⟨⟨h', hs⟩ | t, ss⟩
    · rfl
    · rw [hss] at h
      exact (h _ rfl).elim
    · rfl
  | cons g' gs ih =>
    show addGlyph g (segments ((Segment.running g' gs).pieces ++ ps)) = _
    rw [ih fun s hs => by cases s <;> exact h _ hs]
    rfl

/-- Segments of which no two could be one are cut as they are. -/
theorem segments_flatMap_pieces {ss : List Segment} (h : ss.IsChain Segment.Apart) :
    segments (ss.flatMap Segment.pieces) = ss := by
  induction ss with
  | nil => rfl
  | cons s ss ih =>
    obtain ⟨hhead, htail⟩ := List.isChain_cons.1 h
    have hss := ih htail
    rw [List.flatMap_cons]
    cases s with
    | token t => exact congrArg (.token t :: ·) hss
    | running g gs =>
      rw [segments_running, hss]
      rwa [hss]

theorem byteWidth_braces (w : List Char) : byteWidth ('$' :: '{' :: w) = 2 + byteWidth w := by
  have hdollar : '$'.utf8Size = 1 := rfl
  have hbrace : '{'.utf8Size = 1 := rfl
  rw [byteWidth_cons, byteWidth_cons, hdollar, hbrace]
  omega

/-- The node of a token covers the token. -/
theorem Token.span_node (o : Nat) (t : Token) : (t.node o).span = ⟨o, o + byteWidth t.text⟩ := by
  rcases t with (name | s) | ⟨s, x⟩ | ⟨name, x⟩
  · rfl
  · rfl
  · show (⟨o, o + 2 + byteWidth s.text + byteWidth x.text⟩ : Span) = _
    rw [Token.text, byteWidth_braces, byteWidth_append, Nat.add_assoc, Nat.add_assoc]
  · show (⟨o, o + 2 + byteWidth name + byteWidth x.text⟩ : Span) = _
    rw [Token.text, byteWidth_braces, byteWidth_append, Nat.add_assoc, Nat.add_assoc]

theorem flush_of_ne_nil {run : List Char} (hrun : run ≠ []) (span : Span) (nodes : List Node) :
    Node.flush run span nodes = .literal (String.ofList run.reverse) span :: nodes := by
  cases run with
  | nil => exact absurd rfl hrun
  | cons c cs => rfl

variable [Pattern.Engine]

namespace Segment

def text (s : Segment) : List Char :=
  sourceWriting.texts s.pieces

/-- The node of the segment that is written from the byte `o` on. -/
def node (o : Nat) : Segment → Node
  | running g gs =>
    .literal (String.ofList ((g :: gs).map Glyph.char)) ⟨o, o + byteWidth (running g gs).text⟩
  | token t => t.node o

end Segment

/-- The segments of a source, in order. -/
def segmentWriting : Writing Segment Node where
  text := Segment.text
  Fits s rest := sourceWriting.Fit s.pieces rest
  value := Segment.node

theorem texts_flatMap_pieces (ss : List Segment) :
    sourceWriting.texts (ss.flatMap Segment.pieces) = segmentWriting.texts ss := by
  induction ss with
  | nil => rfl
  | cons s ss ih =>
    rw [List.flatMap_cons, Writing.texts_append, ih]
    rfl

theorem texts_segments (ps : List (Piece Token)) :
    segmentWriting.texts (segments ps) = sourceWriting.texts ps := by
  rw [← texts_flatMap_pieces, flatMap_pieces_segments]

theorem Segment.text_token (t : Token) : (Segment.token t).text = t.text :=
  List.append_nil t.text

/-- The node of a segment covers the segment. -/
theorem Segment.span_node (o : Nat) (s : Segment) :
    (s.node o).span = ⟨o, o + byteWidth s.text⟩ := by
  cases s with
  | running g gs => rfl
  | token t => rw [text_token, ← Token.span_node, node]

/-! ## Joining characters into literals -/

/-- What follows `run`, which begins at the byte `a` and ends at the byte `o`. -/
def afterRun (run : List Char) (a o : Nat) : List Segment → List Node
  | .running g gs :: ss =>
    let stop := o + byteWidth (Segment.running g gs).text
    .literal (String.ofList (run.reverse ++ (g :: gs).map Glyph.char)) ⟨a, stop⟩ ::
      segmentWriting.values stop ss
  | ss => .literal (String.ofList run.reverse) ⟨a, o⟩ :: segmentWriting.values o ss

theorem afterRun_addGlyph (run : List Char) (a o : Nat) (g : Glyph) (ss : List Segment) :
    afterRun run a o (addGlyph g ss) =
      afterRun (g.char :: run) a (o + byteWidth g.text) ss := by
  rcases ss with _ | ⟨⟨h, hs⟩ | t, ss⟩
  · simp [addGlyph, afterRun, Segment.text, Segment.pieces, sourceWriting, Discipline.writing,
      Piece.text]
  · simp [addGlyph, afterRun, Segment.text, Segment.pieces, sourceWriting, Discipline.writing,
      Piece.text, Nat.add_assoc]
  · simp [addGlyph, afterRun, Segment.text, Segment.pieces, sourceWriting, Discipline.writing,
      Piece.text]

theorem values_addGlyph (o : Nat) (g : Glyph) (ss : List Segment) :
    segmentWriting.values o (addGlyph g ss) =
      afterRun [g.char] o (o + byteWidth g.text) ss := by
  rcases ss with _ | ⟨⟨h, hs⟩ | t, ss⟩
  · simp [addGlyph, afterRun, Segment.text, Segment.pieces, sourceWriting, Discipline.writing,
      Piece.text, segmentWriting, Writing.values, Segment.node]
  · simp [addGlyph, afterRun, Segment.text, Segment.pieces, sourceWriting, Discipline.writing,
      Piece.text, Nat.add_assoc, segmentWriting, Writing.values, Segment.node]
  · simp [addGlyph, afterRun, Segment.text, Segment.pieces, sourceWriting, Discipline.writing,
      Piece.text, segmentWriting, Writing.values, Segment.node]

/-- Lexemes are joined segment by segment, with a run of characters before them or without. -/
theorem gather_values (ps : List (Piece Token)) :
    (∀ o span, Node.gather [] span (sourceWriting.values o ps) =
      segmentWriting.values o (segments ps)) ∧
    ∀ run a o, run ≠ [] → Node.gather run ⟨a, o⟩ (sourceWriting.values o ps) =
      afterRun run a o (segments ps) := by
  induction ps with
  | nil =>
    refine ⟨fun _ _ => rfl, fun run a o hrun => ?_⟩
    exact flush_of_ne_nil hrun _ _
  | cons p ps ih =>
    obtain ⟨hnil, hrun⟩ := ih
    cases p with
    | glyph g =>
      refine ⟨fun o span => ?_, fun run a o hne => ?_⟩
      · rw [segments, values_addGlyph]
        exact hrun [g.char] o _ (List.cons_ne_nil _ _)
      · have hempty : run.isEmpty = false := by simpa using hne
        rw [segments, afterRun_addGlyph, ← hrun (g.char :: run) a _ (List.cons_ne_nil _ _)]
        show Node.gather (g.char :: run) (if run.isEmpty then _ else _) _ = _
        rw [hempty]
        rfl
    | token t =>
      have htoken : ∀ o span, t.node o ::
          Node.gather [] span (sourceWriting.values (o + byteWidth t.text) ps) =
            segmentWriting.values o (.token t :: segments ps) := by
        intro o span
        rw [hnil, Writing.values, ← Segment.text_token]
        rfl
      refine ⟨fun o span => htoken o span, fun run a o hne => ?_⟩
      show Node.flush run ⟨a, o⟩ _ = _
      rw [flush_of_ne_nil hne]
      exact congrArg _ (htoken o _)

/-- The nodes of a source are those of its segments. -/
theorem ofLexemes_values (o : Nat) (ps : List (Piece Token)) :
    Node.ofLexemes (sourceWriting.values o ps) = segmentWriting.values o (segments ps) :=
  (gather_values ps).1 o ⟨0, 0⟩

theorem fit_segments_iff {ss : List Segment} {rest : List Char} :
    segmentWriting.Fit ss rest ↔ sourceWriting.Fit (ss.flatMap Segment.pieces) rest := by
  induction ss with
  | nil => exact Iff.rfl
  | cons s ss ih =>
    rw [List.flatMap_cons, Writing.fit_append, texts_flatMap_pieces, ← ih]
    rfl

end Spelling

open Spelling

variable [Pattern.Engine]

/-- A compiled template is the segments of a sound source. -/
theorem Template.compile_eq_ok_iff_segments {source : String} {t : Template} :
    Template.compile source = .ok t ↔
      ∃ ps, sourceWriting.Fit ps [] ∧ sourceWriting.texts ps = source.toList ∧
        t = ⟨source, segmentWriting.values 0 (segments ps)⟩ := by
  rw [Template.compile_eq_ok_iff]
  simp only [ofLexemes_values]

/-- A sound token that nothing has to follow compiles alone. -/
theorem Spelling.Token.compile_text {t : Token} (ht : t.Sound) (hends : t.Ends []) :
    Template.compile (String.ofList t.text) = .ok ⟨String.ofList t.text, [t.node 0]⟩ := by
  refine Template.compile_eq_ok_iff_segments.2 ⟨[.token t], ⟨⟨ht, hends⟩, trivial⟩, ?_, rfl⟩
  rw [String.toList_ofList]
  exact List.append_nil t.text

/-- A node stands for a segment of the source. -/
theorem Template.exists_segment {source : String} {t : Template}
    (h : Template.compile source = .ok t) {n : Node} (hn : n ∈ t.nodes) :
    ∃ u s w, source.toList = u ++ (Segment.text s ++ w) ∧ sourceWriting.Fit s.pieces w ∧
      n = s.node (byteWidth u) := by
  obtain ⟨ps, hps, htexts, rfl⟩ := Template.compile_eq_ok_iff_segments.1 h
  have hfit : segmentWriting.Fit (segments ps) [] := by
    rw [fit_segments_iff, flatMap_pieces_segments]
    exact hps
  obtain ⟨u, s, w, hcut, hs, rfl⟩ := Writing.exists_of_mem_values hfit hn
  rw [texts_segments, htexts, List.append_nil] at hcut
  refine ⟨u, s, w, hcut, hs, ?_⟩
  rw [Nat.zero_add]
  rfl

/-- A node that is not running text is a token that stands in the source. -/
theorem Template.exists_token {source : String} {t : Template}
    (h : Template.compile source = .ok t) {n : Node} (hn : n ∈ t.nodes) :
    (∃ text span, n = .literal text span) ∨
      ∃ u tok w, source.toList = u ++ (Token.text tok ++ w) ∧ tok.Sound ∧ tok.Ends w ∧
        n = tok.node (byteWidth u) := by
  obtain ⟨u, s, w, hcut, hs, rfl⟩ := Template.exists_segment h hn
  cases s with
  | running g gs => exact .inl ⟨_, _, rfl⟩
  | token tok =>
    obtain ⟨⟨hsound, hends⟩, -⟩ := hs
    exact .inr ⟨u, tok, w, by rw [hcut, Segment.text_token], hsound, by simpa using hends, rfl⟩

end Stencil
