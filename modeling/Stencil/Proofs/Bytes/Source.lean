import Stencil.Proofs.Bytes.Agreement

/-!
# Scanning a source

The scanners of ternaries, edits and braces agree with their readers, and so does the scanner of a
whole source (`Scan.template_agrees`): it never crashes, it gives the nodes or the fault that the
reader gives, every span in the nodes can be cut out, and a fault is at a place of the text.
-/

namespace Stencil

namespace Scan

open Spelling

variable {source : String} {c d start : Cursor}

/-! ## Ternaries -/

theorem skipGap_eq (hc : c.Within source) : skipGap source c.offset = c.skipGap.offset :=
  hc.runEnd_eq (bytewise_of_lt fun a ha => by
    simp only [isGap, Bool.or_eq_true, beq_iff_eq] at ha
    rcases ha with ((rfl | rfl) | rfl) | rfl <;> decide)

/-- Two bytes below 128 are the two characters at the place. -/
theorem byteAt?_pair_iff (hc : c.Within source) {a b : Char} (ha : a.toNat < 128)
    (hb : b.toNat < 128) :
    (byteAt? source c.offset = some a ∧ byteAt? source (c.offset + 1) = some b) ↔
      c.Reads [a, b] (c.skip 2) := by
  rw [hc.byteAt?_eq_some_iff ha, ← Cursor.skip_skip_one, Cursor.reads_cons_iff]
  refine and_congr_right fun hpeek => ?_
  rw [← Cursor.offset_skip_one hpeek ha, (hc.further (.skip 1 c)).byteAt?_eq_some_iff hb]
  exact ⟨Cursor.reads_peek, Cursor.Reads.peek⟩

theorem comparison_agrees (hc : c.Within source) :
    Agrees source (At source fun _ => True) (comparison source c.offset) (readComparison c) := by
  have hpair : ∀ {a : Char}, a.toNat < 128 →
      ((byteAt? source c.offset = some a ∧ byteAt? source (c.offset + 1) = some '=') ↔
        c.Reads [a, '='] (c.skip 2)) := fun ha => byteAt?_pair_iff hc ha (by decide)
  have htwo : ∀ {a : Char} {o : Comparison}, c.Reads [a, '='] (c.skip 2) → a.toNat < 128 →
      At source (fun _ => True) (o, c.offset + 2) (o, c.skip 2) := fun h ha =>
    offset_skip_two h ha (by decide) ▸ .mk (hc.further (.skip 2 c)) trivial
  unfold comparison
  split_ifs with hequal hnot
  · have h := (hpair (by decide)).1 hequal
    rw [readComparison_eq_ok_iff.2 (show c.Reads (comparisonText .equal) _ from h)]
    exact .value (htwo h (by decide))
  · have h := (hpair (by decide)).1 hnot
    rw [readComparison_eq_ok_iff.2 (show c.Reads (comparisonText .notEqual) _ from h)]
    exact .value (htwo h (by decide))
  · unfold readComparison
    split
    · exact absurd ((hpair (by decide)).2 (Cursor.reads_skip ‹_›)) hequal
    · exact absurd ((hpair (by decide)).2 (Cursor.reads_skip ‹_›)) hnot
    · exact .fault hc _

theorem expect_agrees (hc : c.Within source) {b : Char} (hb : b.toNat < 128) (reason : Reason) :
    Agrees source (fun p d => p = d.offset ∧ d.Within source) (Scan.expect source b reason c.offset)
      (Stencil.expect b reason c) :=
  .ite (hc.byteAt?_eq_some_iff hb)
    (fun h => .value ⟨(Cursor.offset_skip_one h hb).symm, hc.further (.skip 1 c)⟩) fun _ =>
    .fault hc _

/-- The rest of a ternary at `c`, in a token that starts at `start`. -/
theorem ternary_agrees (hs : start.Within source) (hc : start.Reaches 0 c) {lhs : VariableRef}
    (hlhs : AllFit source lhs.spans) :
    Agrees source (At source fun t => AllFit source (Node.ternary t).spans)
      (ternary source start.offset lhs c.offset) (readTernary start.offset lhs c) := by
  unfold ternary readTernary
  have h₁ := hc.further (reaches_skipGap c)
  rw [skipGap_eq (hs.further hc)]
  refine (comparison_agrees (hs.further h₁)).bind ?_
  rintro _ ⟨comparison, c₁⟩ ⟨hw₁, -⟩ hread₁
  have h₂ := (h₁.further (reaches_readComparison hread₁)).further (reaches_skipGap c₁)
  simp only [skipGap_eq hw₁]
  refine (quoted_agrees (hs.further h₂)).bind ?_
  rintro _ ⟨comparand, c₂⟩ ⟨hw₂, hcomparand⟩ hread₂
  have h₃ := (h₂.further (reaches_readQuoted hread₂)).further (reaches_skipGap c₂)
  simp only [skipGap_eq hw₂]
  refine (expect_agrees (hs.further h₃) (by decide) _).bind ?_
  rintro _ c₃ ⟨rfl, hw₃⟩ hread₃
  have h₄ := (h₃.further (reaches_expect hread₃)).further (reaches_skipGap c₃)
  simp only [skipGap_eq hw₃]
  refine (quoted_agrees (hs.further h₄)).bind ?_
  rintro _ ⟨ifTrue, c₄⟩ ⟨hw₄, hifTrue⟩ hread₄
  have h₅ := (h₄.further (reaches_readQuoted hread₄)).further (reaches_skipGap c₄)
  simp only [skipGap_eq hw₄]
  refine (expect_agrees (hs.further h₅) (by decide) _).bind ?_
  rintro _ c₅ ⟨rfl, hw₅⟩ hread₅
  have h₆ := (h₅.further (reaches_expect hread₅)).further (reaches_skipGap c₅)
  simp only [skipGap_eq hw₅]
  refine (quoted_agrees (hs.further h₆)).bind ?_
  rintro _ ⟨ifFalse, c₆⟩ ⟨hw₆, hifFalse⟩ hread₆
  have h₇ := (h₆.further (reaches_readQuoted hread₆)).further (reaches_skipGap c₆)
  have hw₇ := hs.further h₇
  simp only [skipGap_eq hw₆, hw₇.byteAt?_eq]
  cases hpeek : c₆.skipGap.peek? with
  | none => exact .fault hs _
  | some b =>
    simp (disch := decide) only [Option.map_some, lead_eq_iff]
    by_cases hb : b = '\x7d'
    · subst hb
      rw [if_pos rfl, ← Cursor.offset_skip_one hpeek (by decide)]
      have hspan := hs.fits (h₇.further (.skip 1 _))
      exact .value (.mk (hw₇.further (.skip 1 _))
        (.cons hspan (hlhs.append (hcomparand.append (hifTrue.append hifFalse)))))
    · rw [if_neg hb]
      split
      · exact absurd (Option.some.inj ‹_›) hb
      · exact .fault hw₇ _
      · cases ‹some b = none›

/-! ## Edits -/

theorem patternUnit_agrees (hs : start.Within source) {delimiter : Char}
    (hdelimiter : delimiter.toNat < 128) (hc : c.Within source) {b : Char}
    (hpeek : c.peek? = some b) :
    Agrees source (At source fun _ => True) (patternUnit source start.offset delimiter c.offset)
      ((Stencil.patternUnit start.offset delimiter).read c) := by
  have hone := hc.further (.skip 1 c)
  show Agrees source _ _ (readPatternUnit start.offset delimiter c)
  unfold patternUnit
  rw [hc.byteAt?_eq, hpeek]
  simp (disch := decide) only [Option.map_some, lead_eq_iff]
  by_cases hback : b = '\\'
  · subst hback
    rw [if_pos rfl, hc.byteAt?_next hpeek]
    cases hnext : (c.skip 1).peek? with
    | none =>
      have hnil : (c.skip 1).rest = [] := List.head?_eq_none_iff.1 hnext
      rw [readPatternUnit, Cursor.rest_of_peek hpeek, hnil]
      exact .fault hs _
    | some a =>
      have htwo := Cursor.reads_pair hpeek hnext
      simp only [Option.map_some, lead_eq_iff hdelimiter]
      rw [readPatternUnit_pair start.offset delimiter htwo, PatternUnit.value]
      by_cases ha : a = delimiter
      · subst ha
        rw [if_pos rfl, if_pos rfl, (lead_eq_iff hdelimiter).2 rfl,
          ← offset_skip_two htwo (by decide) hdelimiter]
        exact .value (.mk (hc.further (.skip 2 c)) trivial)
      · rw [if_neg ha, if_neg ha, ← Cursor.offset_skip_one hpeek (by decide), char_eq hone hnext,
          pure_bind, Cursor.skip_skip_one]
        exact .value (.mk (hc.further (.skip 2 c)) trivial)
  · rw [if_neg hback, char_eq hc hpeek, pure_bind,
      readPatternUnit_single start.offset delimiter hpeek hback]
    exact .value (.mk hone trivial)

theorem toChar_lt (delimiter : Delimiter) : delimiter.toChar.toNat < 128 := by
  cases delimiter <;> decide

theorem filler_agrees {delimiter : Char} (hc : c.Within source) (hopen : c.peek? = some '$') :
    Agrees source (At source fun x => AllFit source (pieceSpans Filler.spans x))
      (filler source c.offset) ((Stencil.replacementPiece delimiter).read c) := by
  show Agrees source _ _ (readReplacementPiece delimiter c)
  have hnested := nested_agrees hc (fun v => show Filler.spans (.variable v) = v.spans from rfl)
    hopen
  unfold filler
  rw [hc.byteAt?_next hopen]
  cases hnext : (c.skip 1).peek? with
  | none =>
    rw [readReplacementPiece_eq_nested hopen (List.head?_eq_none_iff.1 hnext ▸ stops_nil _)]
    exact hnested
  | some a =>
    simp only [Option.map_some, bytewise_isDigit.lead_eq]
    by_cases ha : a.isDigit = true
    · have htwo := Cursor.reads_pair hopen hnext
      have hlt := lt_of_isDigit ha
      rw [if_pos ha, readReplacementPiece_group htwo ha, (lead_eq_iff hlt).2 rfl,
        ← offset_skip_two htwo (by decide) hlt]
      exact .value (.mk (hc.further (.skip 2 c)) (List.forall_mem_nil _))
    · have hstops : Stops Char.isDigit (c.skip 1).rest := by
        rw [Cursor.rest_of_peek hnext, stops_cons]
        simpa using ha
      rw [if_neg ha, readReplacementPiece_eq_nested hopen hstops]
      exact hnested

theorem replacementPiece_agrees (delimiter : Delimiter) (hc : c.Within source) {b : Char}
    (hpeek : c.peek? = some b) :
    Agrees source (At source fun x => AllFit source (pieceSpans Filler.spans x))
      (replacementPiece source delimiter.toChar c.offset)
      ((Stencil.replacementPiece delimiter.toChar).read c) := by
  refine piece_agrees (replacementPiece_keptBy (by cases delimiter <;> decide)) (fun a ha => ?_)
    (filler_agrees hc) _ hc hpeek
  simp only [Spelling.inReplacement, Bool.or_eq_true, beq_iff_eq] at ha
  rcases ha with (rfl | rfl) | rfl
  · exact toChar_lt delimiter
  · decide
  · decide

theorem flags_agrees (hs : start.Within source) (hc : c.Within source) :
    Agrees source (At source fun _ => True) (flags source start.offset c.offset)
      (readFlags start.offset c) := by
  have hlt : ∀ a : Char, (a == 'i' || a == 'g') = true → a.toNat < 128 := by
    intro a ha
    simp only [Bool.or_eq_true, beq_iff_eq] at ha
    rcases ha with rfl | rfl <;> decide
  have hflag := bytewise_of_lt hlt
  have hd := hc.further (.skipWhile (fun a => a == 'i' || a == 'g') c)
  unfold flags readFlags
  dsimp only
  rw [hc.byteRun_eq hflag, hc.runEnd_eq hflag, hd.byteAt?_eq,
    flatMap_encode_of_lt fun a ha => hlt a (Cursor.mem_run ha)]
  cases hpeek : (c.skipWhile fun a => a == 'i' || a == 'g').peek? with
  | none => exact .fault hs _
  | some b =>
    simp (disch := decide) only [Option.map_some, lead_eq_iff]
    by_cases hb : b = '\x7d'
    · subst hb
      rw [if_pos rfl]
      exact .value (.skip_one hd hpeek trivial)
    · rw [if_neg hb, char_eq hd hpeek, pure_bind]
      split
      · exact absurd (Option.some.inj ‹_›) hb
      · rename_i heq
        cases heq
        exact .fault hd _
      · cases ‹some b = none›

/-- The rest of an edit at `c`, in a token that starts at `start`. -/
theorem edit_agrees [Pattern.Engine] (hs : start.Within source) (hc : start.Reaches 0 c)
    {subject : VariableRef} (hsubject : AllFit source subject.spans) (delimiter : Delimiter)
    (hpeek : c.peek? = some delimiter.toChar) :
    Agrees source (At source fun e => AllFit source (Node.edit e).spans)
      (edit source start.offset subject delimiter c.offset)
      (readEdit start.offset subject delimiter c) := by
  have hlt := toChar_lt delimiter
  have hone := hc.further (.skip 1 c)
  unfold edit readEdit
  rw [← Cursor.offset_skip_one hpeek hlt]
  have hpattern := upTo_agrees (Stencil.patternUnit start.offset delimiter.toChar)
    (patternUnit source start.offset delimiter.toChar) hlt
    (fun hd hpeek => patternUnit_agrees hs hlt hd hpeek) .unterminated hs (hs.further hone)
  refine hpattern.bind ?_
  rintro _ ⟨units, c₁⟩ ⟨hw₁, -⟩ hread₁
  have h₁ := hone.further (Step.reaches_upTo _ _ _ hread₁)
  refine .ite Iff.rfl (fun _ => .fault (hs.further hone) _) fun _ => ?_
  have hreplacement := upTo_agrees (Stencil.replacementPiece delimiter.toChar)
    (replacementPiece source delimiter.toChar) hlt
    (fun hd hpeek => replacementPiece_agrees delimiter hd hpeek) .unterminated hs hw₁
  refine hreplacement.bind ?_
  rintro _ ⟨pieces, c₂⟩ ⟨hw₂, hpieces⟩ hread₂
  have h₂ := h₁.further (Step.reaches_upTo _ _ _ hread₂)
  refine (flags_agrees hs hw₂).bind ?_
  rintro _ ⟨flags, c₃⟩ ⟨hw₃, -⟩ hread₃
  have h₃ := h₂.further (reaches_readFlags hread₃)
  dsimp only
  cases Pattern.ofText? flags.ignoreCase (String.ofList units.flatten) with
  | none => exact .fault (hs.further hone) _
  | some p =>
    refine .ite Iff.rfl (fun _ => .value (.mk hw₃ ?_)) fun _ => .fault hw₁ _
    exact .cons (hs.fits h₃) (hsubject.append (allFit_ofPieces hpieces))

/-! ## Braces -/

theorem ahead_eq (hc : c.Within source) :
    ahead source c.offset = pure (c.rest.flatMap encode) := by
  rw [ahead, if_pos hc.boundary.le, hc.drop_bytes]

/-- A token of a kind as a node. -/
theorem Agrees.token {α : Type} {f : α → Node} {x : Scan (α × Nat)} {y : Except Fault (α × Cursor)}
    (h : Agrees source (At source fun a => AllFit source (f a).spans) x y) :
    Agrees source (At source fun n : Node => AllFit source n.spans)
      (x >>= fun a => pure (f a.1, a.2)) (y >>= fun a => .ok (f a.1, a.2)) := by
  refine h.bind ?_
  rintro _ ⟨a, d⟩ ⟨hd, ha⟩ -
  exact .value (.mk hd ha)

section

variable [Pattern.Engine]

theorem braced_agrees (hc : c.Within source) (hopen : c.Reads ['$', '\x7b'] (c.skip 2)) :
    Agrees source (At source fun n : Node => AllFit source n.spans) (braced source c.offset)
      (readBraced c) := by
  have htwo := hc.further (.skip 2 c)
  have hname := htwo.further (reaches_readName _)
  unfold braced readBraced
  rw [ahead_eq hc, pure_bind]
  refine .ite (mem_flatMap_encode (by decide)) (fun _ => ?_) fun _ => .fault hc _
  rw [← offset_skip_two hopen (by decide) (by decide), name_eq htwo, pure_bind]
  refine .ite Iff.rfl (fun _ => .fault htwo _) fun _ => ?_
  refine (subscript?_agrees hname).bind ?_
  rintro _ ⟨s, d⟩ ⟨hd, -⟩ hread
  have hreach := (reaches_readName (c.skip 2)).trans (reaches_readSubscript? hread)
  have hcd : c.Reaches 0 d := ((Cursor.Reaches.skip 2 c).trans hreach).weaken (Nat.zero_le _)
  have hinner : ∀ name, AllFit source
      (VariableRef.spans ⟨name, s, true, ⟨(c.skip 2).offset, d.offset⟩⟩) :=
    fun _ => .cons (htwo.fits hreach) (List.forall_mem_nil _)
  dsimp only
  rw [hd.byteAt?_eq]
  cases hpeek : d.peek? with
  | none => exact .fault hc _
  | some b =>
    simp (disch := decide) only [Option.map_some, lead_eq_iff]
    by_cases hclose : b = '\x7d'
    · subst hclose
      rw [if_pos rfl, ← Cursor.offset_skip_one hpeek (by decide)]
      exact .value (.mk (hd.further (.skip 1 d))
        (.cons (hc.fits (hcd.further (.skip 1 d))) (List.forall_mem_nil _)))
    rw [if_neg hclose]
    by_cases hslash : b = '/'
    · subst hslash
      rw [if_pos (.inl rfl)]
      exact .ite Iff.rfl (fun _ => .fault hd _) fun _ =>
        (edit_agrees hc hcd (hinner _) .slash hpeek).token
    by_cases hbar : b = '|'
    · subst hbar
      rw [if_pos (.inr rfl)]
      exact .ite Iff.rfl (fun _ => .fault hd _) fun _ =>
        (edit_agrees hc hcd (hinner _) .bar hpeek).token
    rw [if_neg (not_or.2 ⟨hslash, hbar⟩)]
    -- the reader is taken apart by its match alone
    generalize hscan : @ite (Scan (Node × Nat)) (b = ' ' ∨ b = '\t' ∨ b = '=' ∨ b = '!') _ _ _ = x
    split
    · exact absurd (Option.some.inj ‹_›) hclose
    · exact absurd (Option.some.inj ‹_›) hslash
    · exact absurd (Option.some.inj ‹_›) hbar
    · rename_i heq
      cases heq
      subst hscan
      refine .ite Iff.rfl (fun _ => (ternary_agrees hc hcd (hinner _)).token) fun _ => ?_
      rw [char_eq hd hpeek, pure_bind]
      exact .fault hd _
    · cases ‹some b = none›

/-! ## The top level -/

/-- A scanned character or token, and the lexeme that is read at the same place. -/
inductive Scanned (source : String) (c : Cursor) : (Char ⊕ Node) × Nat → Lexeme × Cursor → Prop
  | char {a : Char} {d : Cursor} (hd : d.Within source) :
    Scanned source c (.inl a, d.offset) (.char a ⟨c.offset, d.offset⟩, d)
  | token {n : Node} {d : Cursor} (hd : d.Within source) (hn : AllFit source n.spans) :
    Scanned source c (.inr n, d.offset) (.token n, d)

theorem special_agrees (hc : c.Within source) (hpeek : c.peek? = some '$' ∨ c.peek? = some '\\') :
    Agrees source (Scanned source c) (special source c.offset) (readLexeme c) := by
  have hchar : ∀ (a : Char) (n : Nat), Scanned source c (.inl a, (c.skip n).offset)
      (.char a ⟨c.offset, (c.skip n).offset⟩, c.skip n) := fun _ n => .char (hc.further (.skip n c))
  unfold special
  rcases hpeek with hopen | hopen
  · rw [if_neg (by rw [hc.byteAt?_eq_some_iff (by decide), hopen]; decide)]
    refine dollar_agrees hc hopen (fun hstops => ?_) (fun htwo => ?_) (fun htwo => ?_)
      fun a htwo ha => ?_
    · rw [readLexeme_lone hopen hstops]
      exact .value (hchar '$' 1)
    · rw [readLexeme_dollars htwo]
      exact .value (hchar '$' 2)
    · rw [readLexeme_brace htwo]
      rcases (braced_agrees hc htwo).cases with ⟨e, r, he, hx, hy⟩ | ⟨_, _, ⟨hd, hn⟩, hx, hy⟩
      · rw [hx, hy]
        exact .fault he r
      · rw [hx, hy]
        exact .value (.token hd hn)
    · rw [readLexeme_name htwo ha]
      exact .value (.token (hc.further (reaches_readBare c)) (fits_readBare hc))
  · have hlt : ∀ a, atTop.escapes a = true → a.toNat < 128 := by
      intro a ha
      simp only [atTop, Bool.or_eq_true, beq_iff_eq] at ha
      rcases ha with rfl | rfl <;> decide
    rw [if_pos ((hc.byteAt?_eq_some_iff (by decide)).2 hopen)]
    rcases escape_cases hlt hc hopen with ⟨a, htwo, ha, hx⟩ | ⟨hstops, hx⟩
    · rw [show readLexeme c = _ from lexeme_keptBy.escaped htwo ha]
      exact hx ▸ .value (hchar a 2)
    · rw [show readLexeme c = _ from lexeme_keptBy.backslash hopen hstops]
      exact hx ▸ .value (hchar '\\' 1)

/-! ## Runs of characters -/

/-- The nodes from the place `c` on, after the characters of `run` since the place `start`. -/
def nodesAfter (run : List Char) (start c : Cursor) : Except Fault (List Node) :=
  (lexeme.all c).map (Node.gather run ⟨start.offset, c.offset⟩)

theorem nodesAfter_nil {run : List Char} (h : c.peek? = none) :
    nodesAfter run start c = .ok (Node.flush run ⟨start.offset, c.offset⟩ []) := by
  rw [nodesAfter, lexeme.all_nil (List.head?_eq_none_iff.1 h)]
  rfl

/-- A character joins the run. -/
theorem nodesAfter_char {run : List Char} {a b : Char} (hrun : run = [] → start = c)
    (hpeek : c.peek? = some b) (h : readLexeme c = .ok (.char a ⟨c.offset, d.offset⟩, d)) :
    nodesAfter run start c = nodesAfter (a :: run) start d := by
  unfold nodesAfter
  rw [lexeme.all_of_read hpeek h]
  cases lexeme.all d with
  | error f => rfl
  | ok ls =>
    refine congrArg Except.ok ?_
    rw [Node.gather]
    cases run with
    | nil => rw [hrun rfl]; rfl
    | cons b bs => rfl

end

/-- Where no run has begun, the span of one does not matter. -/
theorem gather_nil (s s' : Span) (ls : List Lexeme) :
    Node.gather [] s ls = Node.gather [] s' ls := by
  induction ls with
  | nil => rfl
  | cons l ls ih =>
    cases l with
    | char a s => rfl
    | token n => rw [Node.gather, Node.gather, ih, Node.flush, Node.flush]

section

variable [Pattern.Engine]

/-- A token ends the run. -/
theorem nodesAfter_token {run : List Char} {n : Node} {b : Char} (hpeek : c.peek? = some b)
    (h : readLexeme c = .ok (.token n, d)) :
    nodesAfter run start c =
      (nodesAfter [] d d).map fun ns => Node.flush run ⟨start.offset, c.offset⟩ (n :: ns) := by
  unfold nodesAfter
  rw [lexeme.all_of_read hpeek h]
  cases lexeme.all d with
  | error f => rfl
  | ok ls =>
    refine congrArg Except.ok ?_
    rw [Node.gather, gather_nil]

theorem nodesAfter_fault {run : List Char} {f : Fault} {b : Char} (hpeek : c.peek? = some b)
    (h : readLexeme c = .error f) : nodesAfter run start c = .error f := by
  rw [nodesAfter, lexeme.all_of_fault hpeek h]
  rfl

/-- Characters that begin nothing join the run at once. -/
theorem nodesAfter_reads {w run : List Char} (hrun : run = [] → start = c) (h : c.Reads w d)
    (hw : ∀ a ∈ w, a ≠ '$' ∧ a ≠ '\\') :
    nodesAfter run start c = nodesAfter (w.reverse ++ run) start d := by
  induction w generalizing run c with
  | nil => rw [Cursor.reads_nil_iff.1 h]; rfl
  | cons a w ih =>
    obtain ⟨hdollar, hback⟩ := hw a List.mem_cons_self
    have hlexeme := lexeme_keptBy.other h.peek hback hdollar
    have hne : a :: run = [] → start = c.skip 1 := fun h => absurd h (List.cons_ne_nil a run)
    rw [nodesAfter_char hrun h.peek hlexeme, ih hne h.tail fun b hb =>
      hw b (List.mem_cons_of_mem a hb), List.reverse_cons, List.append_assoc,
      List.singleton_append]

end

theorem bytewise_isPlain : Bytewise isPlain :=
  (bytewise_ne (by decide)).and (bytewise_ne (by decide))

/-- All plain characters ahead join the run. -/
theorem nodesAfter_plain [Pattern.Engine] {run : List Char} (hrun : run = [] → start = c) :
    nodesAfter run start c =
      nodesAfter ((c.run isPlain).reverse ++ run) start (c.skipWhile isPlain) :=
  nodesAfter_reads hrun (Cursor.reads_run isPlain c) fun a ha => by
    simpa [isPlain] using Cursor.mem_run ha

/-- If the run is still empty after them, there were none. -/
theorem start_eq_skipWhile {run : List Char} {p : Char → Bool} (hrun : run = [] → start = c)
    (h : (c.run p).reverse ++ run = []) : start = c.skipWhile p := by
  obtain ⟨hreverse, hnil⟩ := List.append_eq_nil_iff.1 h
  have hreads := Cursor.reads_run p c
  rw [List.reverse_eq_nil_iff.1 hreverse, Cursor.reads_nil_iff] at hreads
  exact (hrun hnil).trans hreads.symm

/-- After them stands a dollar sign or a backslash, or the text ends. -/
theorem peek_skipPlain {b : Char} (h : (c.skipWhile isPlain).peek? = some b) :
    (c.skipWhile isPlain).peek? = some '$' ∨ (c.skipWhile isPlain).peek? = some '\\' := by
  have hstop : isPlain b = false := Cursor.stops_skipWhile isPlain c b h
  simp only [isPlain, Bool.and_eq_false_iff, bne_eq_false_iff_eq] at hstop
  rcases hstop with rfl | rfl
  · exact .inl h
  · exact .inr h

/-! ## The whole source -/

theorem allFit_flush {run : List Char} {s : Span} {ns : List Node} (hs : s.Fits source)
    (hns : AllFit source (ns.flatMap Node.spans)) :
    AllFit source ((Node.flush run s ns).flatMap Node.spans) := by
  cases run with
  | nil => exact hns
  | cons a as => exact .cons hs hns

/-- The scanner of nodes does not crash, and gives what follows the run. -/
theorem nodes_agrees [Pattern.Engine] {run : List Char} (hs : start.Within source)
    (hc : start.Reaches 0 c) (hrun : run = [] → start = c) :
    Agrees source (fun ns ms => ns = ms ∧ AllFit source (ns.flatMap Node.spans))
      (nodes source run start.offset c.offset) (nodesAfter run start c) := by
  induction hn : c.rest.length using Nat.strongRecOn generalizing c start run with
  | ind n ih =>
    let d := c.skipWhile isPlain
    have hcd : c.Reaches 0 d := .skipWhile isPlain c
    have hsd := hc.further hcd
    have hd := hs.further hsd
    have hbyte : byteAt? source d.offset = d.peek?.map lead := hd.byteAt?_eq
    rw [nodes, (hs.further hc).runEnd_eq bytewise_isPlain, nodesAfter_plain hrun]
    dsimp only
    rw [cut_eq (hs.further hc) (Cursor.reads_run isPlain c), pure_bind, String.toList_ofList]
    cases hpeek : d.peek? with
    | none =>
      rw [if_pos (by rw [hbyte, hpeek]; rfl), nodesAfter_nil hpeek]
      exact .value ⟨rfl, allFit_flush (hs.fits hsd) (List.forall_mem_nil _)⟩
    | some b =>
      rw [if_neg (by rw [hbyte, hpeek]; exact Option.some_ne_none _)]
      rcases (special_agrees hd (peek_skipPlain hpeek)).cases with
        ⟨e, r, he, hx, hy⟩ | ⟨_, _, hscan, hx, hy⟩
      · rw [hx, nodesAfter_fault hpeek hy]
        exact .fault he r
      have hreads := reaches_readLexeme hy
      have hne : d.rest ≠ [] := Cursor.rest_of_peek hpeek ▸ List.cons_ne_nil _ _
      have hlt := Nat.lt_of_le_of_lt ((hs.further hc).fits hcd).le (hreads.offset_lt hne)
      have hless := Nat.lt_of_lt_of_le (hreads.length_lt hne) hcd.length_le
      rw [hx, pure_bind]
      cases hscan with
      | char he =>
        dsimp only
        rw [dif_pos ⟨hlt, Nat.lt_of_lt_of_le hlt he.boundary.le⟩,
          nodesAfter_char (start_eq_skipWhile hrun) hpeek hy]
        exact ih _ (hn ▸ hless) hs (hsd.further hreads) (fun h => absurd h (List.cons_ne_nil _ _))
          rfl
      | token he hfit =>
        have hlater := ih _ (hn ▸ hless) he (.refl _) (fun _ : [] = [] => rfl) rfl
        rw [nodesAfter_token hpeek hy]
        dsimp only
        rw [dif_pos ⟨hlt, Nat.lt_of_lt_of_le hlt he.boundary.le⟩]
        rcases hlater.cases with ⟨e, r, he, hx, hy⟩ | ⟨ns, _, ⟨rfl, hns⟩, hx, hy⟩
        · rw [hx, hy]
          exact .fault he r
        · rw [hx, hy]
          exact .value ⟨rfl, allFit_flush (hs.fits hsd) (hfit.append hns)⟩

/-- Scanning a source gives what reading it gives. -/
theorem template_agrees [Pattern.Engine] (source : String) :
    Agrees source (fun ns ms => ns = ms ∧ AllFit source (ns.flatMap Node.spans)) (template source)
      (Template.read source) :=
  nodes_agrees (.ofText source) (.refl _) fun _ => rfl

end Scan

end Stencil
