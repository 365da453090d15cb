import Stencil.Proofs.Template.Faults
import Stencil.Proofs.Template.Spans
import Stencil.Standalone

/-!
# Blanks in ternaries

Blanks may stand in seven gaps of a ternary, and the reader of ternaries skips all of them. The
character after the left side is looked at before that, to tell a ternary from other tokens, and of
the blanks only a space and a tab tell one. The main statement is `ternary_blanks`: a ternary with
blanks is the ternary without blanks at other places, unless its first blank is a line break, and
then it does not compile.

Without their places the strings of a ternary are the same wherever they stand
(`unplaced_quotedValue`), so that the gaps before them do not matter.
-/

namespace Stencil

namespace Spelling

/-- No blanks at all. -/
def Gaps.empty : Gaps :=
  ⟨[], [], [], [], [], [], []⟩

theorem Gaps.sound_empty : Gaps.empty.Sound := by
  constructor <;> exact fun _ h => (List.not_mem_nil h).elim

/-! ## Strings without their places -/

/-- Where a string stands decides its spans only. -/
theorem unplaced_quotedValue (o k : Nat) (ps : List (Piece Reference)) :
    (quotedValue o ps).mapSpans (fun _ => .zero) = (quotedValue k ps).mapSpans fun _ => .zero := by
  simp only [quotedValue, Quoted.mapSpans, Chunk.ofPieces_map]
  congr 2
  refine quotedWriting.map_values_congr (fun o k p => ?_) _ _ ps
  cases p with
  | glyph g => rfl
  | token r => cases r <;> rfl

namespace Choice

/-- The ternary without blanks. -/
def tight (x : Choice) : Choice :=
  { x with gaps := .empty }

theorem PartsSound.tight {x : Choice} (hx : x.PartsSound) : x.tight.Sound where
  comparand := hx.comparand
  ifTrue := hx.ifTrue
  ifFalse := hx.ifFalse
  gaps := Gaps.sound_empty
  opens := by
    obtain ⟨comparison, -⟩ := x
    cases comparison <;> simp [Choice.tight, text, Gaps.empty, comparisonText]

/-- The text begins with the first blank, or with the comparison. -/
theorem PartsSound.sound_of_head {x : Choice} (hx : x.PartsSound)
    (h : ∀ a ∈ x.gaps.beforeComparison.head?, a = ' ' ∨ a = '\t') : x.Sound where
  toPartsSound := hx
  opens := by
    intro a ha
    rw [text] at ha
    cases hgap : x.gaps.beforeComparison with
    | nil =>
      rw [hgap, List.nil_append] at ha
      cases hcomparison : x.comparison <;> rw [hcomparison] at ha <;> cases ha <;> simp
    | cons b bs =>
      rw [hgap] at ha h
      obtain rfl : b = a := by simpa using ha
      rcases h b rfl with rfl | rfl <;> simp

/-- Blanks change nothing but places. -/
theorem unplaced_ternary (x : Choice) (s : Subject) :
    ((Token.ternary s x).node 0).unplaced = ((Token.ternary s x.tight).node 0).unplaced := by
  simp only [Token.node, ternary, Node.unplaced, Node.mapSpans, Ternary.mapSpans]
  rw [Node.ternary.injEq, Ternary.mk.injEq]
  exact ⟨rfl, rfl, unplaced_quotedValue _ _ x.comparand, unplaced_quotedValue _ _ x.ifTrue,
    unplaced_quotedValue _ _ x.ifFalse, rfl⟩

/-- A line break after the left side does not tell a ternary. -/
theorem readBraced_lineBreak [Pattern.Engine] {s : Subject} {x : Choice} {a : Char} {c c' : Cursor}
    (hs : s.Sound) (ha : a = '\n' ∨ a = '\r') (hhead : x.text.head? = some a)
    (hreads : c.Reads (Token.ternary s x).text c') :
    readBraced c = .error ⟨c.offset + 2 + byteWidth s.text, .unexpectedCharacter a⟩ := by
  obtain ⟨w, hw⟩ := List.head?_eq_some_iff.1 hhead
  have hends : s.Ends (x.text ++ c'.rest) := by
    rw [hw]
    rcases ha with rfl | rfl <;> exact Subject.ends_cons (by decide) (by decide)
  have hbrace : '}' ∈ c.rest := by
    rw [hreads.rest]
    exact List.mem_append_left _ (by simp [Token.text, text])
  obtain ⟨d, hopen, hsubject, hrest, -, hne, hread⟩ := Subject.read_in_braces hs hreads hends
  have hpeek : d.peek? = some a := (hw ▸ hrest).peek
  have hoffset : d.offset = c.offset + 2 + byteWidth s.text := by
    rw [hsubject.offset, hopen.offset]
    rfl
  rw [← hoffset]
  simp only [readBraced, if_pos hbrace, bind, Except.bind, if_neg hne, hread, hpeek]
  rcases ha with rfl | rfl <;> rfl

end Choice

end Spelling

open Spelling

theorem expandNodes_unplaced {m : Type → Type} [Monad m] (find : String → m String)
    {n n' : Node} (h : n.unplaced = n'.unplaced) :
    expandNodes find [n] = expandNodes find [n'] := by
  rw [← expandNodes_mapSpans (fun _ => .zero) find [n],
    ← expandNodes_mapSpans (fun _ => .zero) find [n']]
  exact congrArg (fun n => expandNodes find [n]) h

/-- **Blanks in a ternary.** A ternary without blanks compiles to one node. With blanks in its gaps
it compiles to the same node at other places, which expands in the same way in every environment,
when the first character after the left side is no line break. When it is one, the ternary does not
compile, and the fault is the line break. -/
theorem ternary_blanks [Pattern.Engine] {s : Subject} {x : Choice} (hs : s.Sound)
    (hx : x.PartsSound) :
    let spaced := String.ofList (Token.ternary s x).text
    let tight := String.ofList (Token.ternary s x.tight).text
    ∃ n, Template.compile tight = .ok ⟨tight, [.ternary n]⟩ ∧
      ((∀ a ∈ x.gaps.beforeComparison.head?, a = ' ' ∨ a = '\t') →
        ∃ n', Template.compile spaced = .ok ⟨spaced, [.ternary n']⟩ ∧
          (Node.ternary n').unplaced = (Node.ternary n).unplaced ∧
          ∀ env, expandLenient env [.ternary n'] = expandLenient env [.ternary n] ∧
            ∀ template, expandStrict env template [.ternary n'] =
              expandStrict env template [.ternary n]) ∧
      ∀ a ∈ x.gaps.beforeComparison.head?, a = '\n' ∨ a = '\r' →
        Template.compile spaced =
          .error (.parse spaced ⟨2 + byteWidth s.text, .unexpectedCharacter a⟩) := by
  intro spaced tight
  have htight := Token.compile_text (t := .ternary s x.tight) ⟨hs, hx.tight⟩ trivial
  refine ⟨_, htight, fun hhead => ?_, fun a ha hbreak => ?_⟩
  · have hspaced := Token.compile_text (t := .ternary s x) ⟨hs, hx.sound_of_head hhead⟩ trivial
    have hsame := x.unplaced_ternary s
    refine ⟨_, hspaced, hsame, fun env => ⟨?_, fun template => ?_⟩⟩
    · exact congrArg (fun r => r.run []) (expandNodes_unplaced (lenientFind env) hsame)
    · exact expandNodes_unplaced (strictFind env template) hsame
  · have hhead : x.text.head? = some a := by
      rw [Choice.text, List.head?_append, ha]
      rfl
    obtain ⟨c', hreads, -⟩ := Cursor.exists_reads (w := (Token.ternary s x).text)
      (c := ⟨0, (Token.ternary s x).text⟩) (List.append_nil _).symm
    have hfault := Choice.readBraced_lineBreak hs hbreak hhead hreads
    rw [Nat.zero_add] at hfault
    refine Template.compile_eq_error_iff.2
      ⟨[], s.text ++ x.text, _, trivial, String.toList_ofList, hfault, ?_⟩
    simp [Fault.shift]

/-- Spaces, tabs and line breaks in the gaps of a ternary whose left side has a subscript. -/
theorem ternary_blanks_subscript :
    ∃ n n', Template.compile "$\x7ba[0]==\"b\"?\"$c\":\"\"\x7d" =
        .ok ⟨"$\x7ba[0]==\"b\"?\"$c\":\"\"\x7d", [.ternary n]⟩ ∧
      Template.compile "$\x7ba[0] \n==\t\"b\"\r\n?\"$c\":\n\n\"\" \x7d" =
        .ok ⟨"$\x7ba[0] \n==\t\"b\"\r\n?\"$c\":\n\n\"\" \x7d", [.ternary n']⟩ ∧
      (Node.ternary n').unplaced = (Node.ternary n).unplaced := by
  let s : Subject := ⟨['a'], some (.index ⟨false, ['0']⟩)⟩
  let x : Choice := ⟨.equal, [.glyph (.plain 'b')], [.token (.bare ['c'])], [],
    ⟨[' ', '\n'], ['\t'], ['\r', '\n'], [], [], ['\n', '\n'], [' ']⟩⟩
  have hs : s.Sound := by
    refine ⟨⟨by decide, List.all_eq_true.1 (by decide)⟩, fun b hb => ?_⟩
    cases hb
    exact ⟨by decide, List.all_eq_true.1 (by decide), by decide⟩
  have hx : x.PartsSound :=
    ⟨⟨⟨by decide, by simp, by simp⟩, trivial⟩,
      ⟨⟨⟨by decide, List.all_eq_true.1 (by decide)⟩, (stops_cons _ _ _).2 rfl⟩, trivial⟩, trivial,
      ⟨by decide, by decide, by decide, by decide, by decide, by decide, by decide⟩⟩
  obtain ⟨n, htight, hspaced, -⟩ := ternary_blanks hs hx
  obtain ⟨n', hspaced, hsame, -⟩ := hspaced fun a ha => .inl (Option.some.inj ha).symm
  exact ⟨n, n', htight, hspaced, hsame⟩

/-- A line break before the comparison. -/
theorem ternary_blanks_lineBreak :
    ¬ ∀ (s : Subject) (x : Choice), s.Sound → x.PartsSound →
      ∃ n n', Template.compile (String.ofList (Token.ternary s x.tight).text) =
          .ok ⟨String.ofList (Token.ternary s x.tight).text, [.ternary n]⟩ ∧
        Template.compile (String.ofList (Token.ternary s x).text) =
          .ok ⟨String.ofList (Token.ternary s x).text, [.ternary n']⟩ ∧
        (Node.ternary n').unplaced = (Node.ternary n).unplaced := by
  intro h
  let s : Subject := ⟨['a'], none⟩
  let x : Choice := ⟨.equal, [.glyph (.plain 'x')], [.glyph (.plain 'y')], [.glyph (.plain 'z')],
    ⟨['\n'], [], [], [], [], [], []⟩⟩
  have hs : s.Sound :=
    ⟨⟨by decide, List.all_eq_true.1 (by decide)⟩, fun _ hb => by cases hb⟩
  have hx : x.PartsSound :=
    ⟨⟨⟨by decide, by simp, by simp⟩, trivial⟩, ⟨⟨by decide, by simp, by simp⟩, trivial⟩,
      ⟨⟨by decide, by simp, by simp⟩, trivial⟩,
      ⟨by decide, by decide, by decide, by decide, by decide, by decide, by decide⟩⟩
  obtain ⟨n, n', -, hspaced, -⟩ := h s x hs hx
  have hfault : Template.compile "$\x7ba\n==\"x\"?\"y\":\"z\"\x7d" =
      .error (.parse "$\x7ba\n==\"x\"?\"y\":\"z\"\x7d" ⟨3, .unexpectedCharacter '\n'⟩) := by
    decide +kernel
  cases hfault.symm.trans hspaced

end Stencil
