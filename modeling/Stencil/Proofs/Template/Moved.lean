import Stencil.Proofs.Spelling.Source
import Stencil.Proofs.Template.Spans

/-!
# Reading further on

A reader looks at the characters ahead and never at the offset. So at a place `k` bytes further on,
before the same characters, it gives the same outcome with every span moved by `k`, and a fault is
reported `k` bytes further on. `Moved` relates two such outcomes, and says of a fault that it is
reported at a place reached from a given one. There is one lemma for each reader, up to
`readBraced_moved`, which starts from the dollar sign of the token.
-/

namespace Stencil

/-- The place `k` bytes further on, before the same characters. -/
def Cursor.shift (k : Nat) (c : Cursor) : Cursor :=
  ⟨k + c.offset, c.rest⟩

/-- The fault `k` bytes further on. -/
def Fault.shift (k : Nat) (f : Fault) : Fault :=
  ⟨k + f.position, f.reason⟩

namespace Cursor

variable (k : Nat) (c : Cursor)

@[simp] theorem rest_shift : (c.shift k).rest = c.rest := rfl

@[simp] theorem peek?_shift : (c.shift k).peek? = c.peek? := rfl

@[simp] theorem run_shift (p : Char → Bool) : (c.shift k).run p = c.run p := rfl

@[simp] theorem skip_shift (n : Nat) : (c.shift k).skip n = (c.skip n).shift k := by
  simp [skip, shift, Nat.add_assoc]

@[simp] theorem skipWhile_shift (p : Char → Bool) :
    (c.shift k).skipWhile p = (c.skipWhile p).shift k :=
  c.skip_shift k _

@[simp] theorem skipGap_shift : (c.shift k).skipGap = c.skipGap.shift k :=
  c.skipWhile_shift k _

theorem Reaches.further {n : Nat} {a b c : Cursor} (hab : Reaches 0 a b) (hbc : Reaches n b c) :
    Reaches 0 a c :=
  (hab.trans hbc).weaken (Nat.zero_le _)

end Cursor

/-! ## Outcomes -/

/-- Two outcomes that differ in a move by `k` bytes: `f` moves the value, and a fault is reported at
a place reached from `b`. -/
inductive Moved {α β : Type} (b : Cursor) (k : Nat) (f : α → β) :
    Except Fault α → Except Fault β → Prop
  | value {a : α} : Moved b k f (.ok a) (.ok (f a))
  | fault {d : Cursor} (h : b.Reaches 0 d) (r : Reason) :
    Moved b k f (Stencil.fault d r) (Stencil.fault (d.shift k) r)

/-- A value with the place after it, moved by `k` bytes. -/
def onward {α β : Type} (k : Nat) (f : α → β) (p : α × Cursor) : β × Cursor :=
  (f p.1, p.2.shift k)

namespace Moved

variable {α β γ δ : Type} {b : Cursor} {k : Nat} {f : α → β} {g : γ → δ} {x : Except Fault α}
  {x' : Except Fault β}

theorem cases (h : Moved b k f x x') :
    (∃ d r, b.Reaches 0 d ∧ x = Stencil.fault d r ∧ x' = Stencil.fault (d.shift k) r) ∨
      ∃ a, x = .ok a ∧ x' = .ok (f a) := by
  cases h with
  | value => exact Or.inr ⟨_, rfl, rfl⟩
  | fault hd r => exact Or.inl ⟨_, r, hd, rfl, rfl⟩

theorem bind {y : α → Except Fault γ} {y' : β → Except Fault δ} (h : Moved b k f x x')
    (hy : ∀ a, x = .ok a → Moved b k g (y a) (y' (f a))) : Moved b k g (x >>= y) (x' >>= y') := by
  cases h with
  | value => exact hy _ rfl
  | fault hd r => exact .fault hd r

theorem ite {p : Prop} [Decidable p] {y : Except Fault α}
    {y' : Except Fault β} (hx : p → Moved b k f x x') (hy : ¬p → Moved b k f y y') :
    Moved b k f (if p then x else y) (if p then x' else y') := by
  by_cases hp : p
  · rw [if_pos hp, if_pos hp]
    exact hx hp
  · rw [if_neg hp, if_neg hp]
    exact hy hp

theorem eq_of_ok {a : α} (h : Moved b k f (.ok a) x') : x' = .ok (f a) := by
  cases h
  rfl

theorem eq_error_iff (h : Moved b k f x x') {e : Fault} :
    x' = .error e ↔ ∃ e₀, x = .error e₀ ∧ e = e₀.shift k := by
  cases h with
  | value => simp
  | fault hd r => simp [Stencil.fault, Fault.shift, Cursor.shift, eq_comm]

theorem exists_reaches (h : Moved b k f x x') {e : Fault} (he : x = .error e) :
    ∃ d : Cursor, b.Reaches 0 d ∧ e.position = d.offset := by
  cases h with
  | value => cases he
  | fault hd r =>
    cases he
    exact ⟨_, hd, rfl⟩

end Moved

/-! ## References -/

section

variable {b c : Cursor} (hc : b.Reaches 0 c) (k : Nat)

@[simp] theorem readName_shift : readName (c.shift k) = onward k id (readName c) := by
  simp [readName, onward]

theorem readBare_shift :
    readBare (c.shift k) = onward k (VariableRef.mapSpans (Span.shift k)) (readBare c) := by
  simp only [readBare, Cursor.skip_shift, readName_shift]
  rfl

include hc

theorem readDigits_moved (negative : Bool) (d : Cursor) :
    Moved b k (onward k id) (readDigits negative c d)
      (readDigits negative (c.shift k) (d.shift k)) := by
  simp only [readDigits, Cursor.run_shift, Cursor.skipWhile_shift]
  refine .ite (fun _ => ?_) fun _ => ?_
  · exact .ite (fun _ => .fault hc _) fun _ => .value
  · exact .ite (fun _ => .value) fun _ => .fault hc _

theorem readIndex_moved : Moved b k (onward k id) (readIndex c) (readIndex (c.shift k)) := by
  simp only [readIndex, Cursor.skip_shift]
  exact .ite (fun _ => readDigits_moved hc k true _) fun _ => readDigits_moved hc k false _

theorem closeSubscript_moved (s : Subscript) :
    Moved b k (onward k id) (closeSubscript s c) (closeSubscript s (c.shift k)) := by
  simp only [closeSubscript, Cursor.skip_shift]
  exact .ite (fun _ => .value) fun _ => .fault hc _

theorem readSubscript_moved :
    Moved b k (onward k id) (readSubscript c) (readSubscript (c.shift k)) := by
  have hone := hc.further (.skip 1 c)
  simp only [readSubscript, Cursor.skip_shift]
  rcases (readIndex_moved hone k).cases with ⟨e, r, he, hx, hx'⟩ | ⟨⟨start, d⟩, hx, hx'⟩
  · rw [hx, hx']
    exact .fault he r
  have hd := hone.further (reaches_readIndex hx)
  simp only [hx, hx', onward, id, Cursor.skip_shift]
  refine .ite (fun _ => ?_) fun _ => ?_
  · have hnext := hd.further (.skip 1 d)
    rcases (readIndex_moved hnext k).cases with ⟨e, r, he, hy, hy'⟩ | ⟨⟨stop, e⟩, hy, hy'⟩
    · rw [hy, hy']
      exact .fault he r
    have he := hnext.further (reaches_readIndex hy)
    rw [hy, hy']
    exact .ite (fun _ => .fault he _) fun _ => closeSubscript_moved he k _
  · cases start with
    | some i => exact closeSubscript_moved hd k _
    | none => exact .ite (fun _ => .fault hc _) fun _ => .fault hd _

theorem readSubscript?_moved :
    Moved b k (onward k id) (readSubscript? c) (readSubscript? (c.shift k)) := by
  refine .ite (fun _ => ?_) fun _ => .value
  rcases (readSubscript_moved hc k).cases with ⟨e, r, he, hx, hx'⟩ | ⟨⟨s, d⟩, hx, hx'⟩
  · rw [hx, hx']
    exact .fault he r
  · rw [hx, hx']
    exact .value

theorem readSimple_moved :
    Moved b k (Option.map (onward k (VariableRef.mapSpans (Span.shift k)))) (readSimple c)
      (readSimple (c.shift k)) := by
  have hname := (hc.further (.skip 2 c)).further (reaches_readName _)
  simp only [readSimple, Cursor.skip_shift, readName_shift, onward, id]
  refine .ite (fun _ => .value) fun _ => ?_
  rcases (readSubscript?_moved hname k).cases with ⟨e, r, he, hx, hx'⟩ | ⟨⟨s, d⟩, hx, hx'⟩
  · rw [hx, hx']
    exact .fault he r
  simp only [hx, hx', onward, id, Cursor.skip_shift]
  exact .ite (fun _ => .value) fun _ => .value

/-- Nested references, when `move` moves what they are taken for. -/
theorem readNested_moved {α : Type} {ofRef : VariableRef → α} {move : α → α}
    (hmove : ∀ v, move (ofRef v) = ofRef (v.mapSpans (Span.shift k))) :
    Moved b k (onward k (Sum.map id move)) (readNested ofRef c)
      (readNested ofRef (c.shift k)) := by
  have hlone : ∀ n, Moved b k (onward k (Sum.map id move)) (.ok (Sum.inl '$', c.skip n))
      (.ok (Sum.inl '$', (c.skip n).shift k)) := fun n => .value
  simp only [readNested, Cursor.skip_shift, Cursor.peek?_shift, readBare_shift]
  cases (c.skip 1).peek? with
  | none => exact hlone 1
  | some a =>
    split
    · exact hlone 2
    · rcases (readSimple_moved hc k).cases with ⟨e, r, he, hx, hx'⟩ | ⟨_ | ⟨v, d⟩, hx, hx'⟩
      · rw [hx, hx']
        exact .fault he r
      · rw [hx, hx']
        exact hlone 1
      · rw [hx, hx']
        simp only [Option.map_some, onward]
        rw [← hmove]
        exact .value
    · split_ifs
      · simp only [onward]
        rw [← hmove]
        exact .value
      · exact hlone 1
    · exact hlone 1

end

/-! ## Runs of pieces -/

theorem Step.upTo_moved {α β : Type} (s : Step α) (s' : Step β) {b : Cursor} {k : Nat} {f : α → β}
    (h : ∀ c, b.Reaches 0 c → Moved b k (onward k f) (s.read c) (s'.read (c.shift k)))
    (close : Char) (reason : Reason) {c e : Cursor} (hc : b.Reaches 0 c) (he : b.Reaches 0 e) :
    Moved b k (onward k (List.map f)) (s.upTo close ⟨e.offset, reason⟩ c)
      (s'.upTo close ⟨(e.shift k).offset, reason⟩ (c.shift k)) := by
  induction hn : c.rest.length using Nat.strongRecOn generalizing c with
  | ind n ih =>
    rw [s.upTo_eq, s'.upTo_eq, Cursor.peek?_shift, Cursor.skip_shift]
    cases hpeek : c.peek? with
    | none => exact .fault he reason
    | some d =>
      refine .ite (fun _ => .value) fun _ => ?_
      rcases (h c hc).cases with ⟨e, r, he, hx, hx'⟩ | ⟨⟨a, c'⟩, hx, hx'⟩
      · rw [hx, hx']
        exact .fault he r
      have hreads := s.reaches hx
      have hlt := hreads.length_lt (by rw [Cursor.rest_of_peek hpeek]; exact List.cons_ne_nil _ _)
      simp only [hx, hx', onward]
      rcases (ih _ (hn ▸ hlt) (hc.further hreads) rfl).cases with
        ⟨e, r, he, hy, hy'⟩ | ⟨⟨as, c''⟩, hy, hy'⟩
      · rw [hy, hy']
        exact .fault he r
      · rw [hy, hy']
        exact .value

/-! ## Quoted strings -/

section

variable {b c : Cursor} (hc : b.Reaches 0 c) (k : Nat)

include hc

theorem readQuotedPiece_moved :
    Moved b k (onward k (Sum.map id (VariableRef.mapSpans (Span.shift k)))) (readQuotedPiece c)
      (readQuotedPiece (c.shift k)) := by
  simp only [readQuotedPiece, Cursor.rest_shift, Cursor.skip_shift]
  split
  · exact .ite (fun _ => .value) fun _ => .value
  · exact readNested_moved hc k fun _ => rfl
  · exact .value
  · exact .fault hc _

theorem readQuoted_moved :
    Moved b k (onward k (Quoted.mapSpans (Span.shift k))) (readQuoted c)
      (readQuoted (c.shift k)) := by
  have hone := hc.further (.skip 1 c)
  simp only [readQuoted, Cursor.peek?_shift, Cursor.skip_shift]
  split
  · have hpieces := quotedPiece.upTo_moved quotedPiece (fun d hd => readQuotedPiece_moved hd k) '"'
      .unterminatedString hone hc
    rcases hpieces.cases with ⟨e, r, he, hx, hx'⟩ | ⟨⟨ps, d⟩, hx, hx'⟩
    · rw [hx, hx']
      exact .fault he r
    · rw [hx, hx']
      simp only [onward, ← Chunk.ofPieces_map]
      exact .value
  · exact .fault hc _
  · exact .fault hc _

/-! ## Ternaries -/

theorem readComparison_moved :
    Moved b k (onward k id) (readComparison c) (readComparison (c.shift k)) := by
  simp only [readComparison, Cursor.rest_shift, Cursor.skip_shift]
  split
  · exact .value
  · exact .value
  · exact .fault hc _

theorem expect_moved (d : Char) (reason : Reason) :
    Moved b k (Cursor.shift k) (expect d reason c) (expect d reason (c.shift k)) := by
  simp only [expect, Cursor.skip_shift]
  exact .ite (fun _ => .value) fun _ => .fault hc _

theorem readTernary_moved {start : Cursor} (hs : b.Reaches 0 start) (lhs : VariableRef) :
    Moved b k (onward k (Ternary.mapSpans (Span.shift k))) (readTernary start.offset lhs c)
      (readTernary (start.shift k).offset (lhs.mapSpans (Span.shift k)) (c.shift k)) := by
  unfold readTernary
  have h₁ := hc.further (reaches_skipGap c)
  rw [Cursor.skipGap_shift]
  refine (readComparison_moved h₁ k).bind fun ⟨comparison, c₁⟩ hread₁ => ?_
  have h₂ := (h₁.further (reaches_readComparison hread₁)).further (reaches_skipGap c₁)
  simp only [onward, Cursor.skipGap_shift]
  refine (readQuoted_moved h₂ k).bind fun ⟨comparand, c₂⟩ hread₂ => ?_
  have h₃ := (h₂.further (reaches_readQuoted hread₂)).further (reaches_skipGap c₂)
  simp only [onward, Cursor.skipGap_shift]
  refine (expect_moved h₃ k _ _).bind fun c₃ hread₃ => ?_
  have h₄ := (h₃.further (reaches_expect hread₃)).further (reaches_skipGap c₃)
  simp only [Cursor.skipGap_shift]
  refine (readQuoted_moved h₄ k).bind fun ⟨ifTrue, c₄⟩ hread₄ => ?_
  have h₅ := (h₄.further (reaches_readQuoted hread₄)).further (reaches_skipGap c₄)
  simp only [onward, Cursor.skipGap_shift]
  refine (expect_moved h₅ k _ _).bind fun c₅ hread₅ => ?_
  have h₆ := (h₅.further (reaches_expect hread₅)).further (reaches_skipGap c₅)
  simp only [Cursor.skipGap_shift]
  refine (readQuoted_moved h₆ k).bind fun ⟨ifFalse, c₆⟩ hread₆ => ?_
  have h₇ := (h₆.further (reaches_readQuoted hread₆)).further (reaches_skipGap c₆)
  simp only [onward, Cursor.skipGap_shift, Cursor.peek?_shift, Cursor.skip_shift]
  split
  · exact .value
  · exact .fault h₇ _
  · exact .fault hs _

/-! ## Edits -/

omit hc in
theorem readPatternUnit_moved {start : Cursor} (hs : b.Reaches 0 start) (delimiter : Char) :
    Moved b k (onward k id) (readPatternUnit start.offset delimiter c)
      (readPatternUnit (start.shift k).offset delimiter (c.shift k)) := by
  simp only [readPatternUnit, Cursor.rest_shift, Cursor.skip_shift]
  split
  · exact .value
  · exact .fault hs _
  · exact .value
  · exact .fault hs _

theorem readReplacementPiece_moved (delimiter : Char) :
    Moved b k (onward k (Sum.map id (Filler.mapSpans (Span.shift k))))
      (readReplacementPiece delimiter c) (readReplacementPiece delimiter (c.shift k)) := by
  simp only [readReplacementPiece, Cursor.rest_shift, Cursor.skip_shift]
  split
  · exact .ite (fun _ => .value) fun _ => .value
  · exact .ite (fun _ => .value) fun _ => readNested_moved hc k fun _ => rfl
  · exact .value
  · exact .fault hc _

theorem readFlags_moved {start : Cursor} (hs : b.Reaches 0 start) :
    Moved b k (onward k id) (readFlags start.offset c)
      (readFlags (start.shift k).offset (c.shift k)) := by
  have hd := hc.further (.skipWhile (fun d => d == 'i' || d == 'g') c)
  simp only [readFlags, Cursor.run_shift, Cursor.skipWhile_shift, Cursor.peek?_shift,
    Cursor.skip_shift]
  split
  · exact .value
  · exact .fault hd _
  · exact .fault hs _

omit hc in
theorem largestGroup_mapSpans (f : Span → Span) (parts : List (Chunk Filler)) :
    largestGroup (parts.map (Chunk.map (Filler.mapSpans f))) = largestGroup parts := by
  unfold largestGroup
  rw [List.foldl_map]
  congr 1
  funext n p
  rcases p with s | g | v <;> rfl

theorem readEdit_moved [Pattern.Engine] {start : Cursor} (hs : b.Reaches 0 start)
    (subject : VariableRef) (delimiter : Delimiter) :
    Moved b k (onward k (Edit.mapSpans (Span.shift k)))
      (readEdit start.offset subject delimiter c)
      (readEdit (start.shift k).offset (subject.mapSpans (Span.shift k)) delimiter
        (c.shift k)) := by
  have hone := hc.further (.skip 1 c)
  unfold readEdit
  rw [Cursor.skip_shift]
  have hpattern := (patternUnit start.offset delimiter.toChar).upTo_moved
    (patternUnit (start.shift k).offset delimiter.toChar)
    (fun d _ => readPatternUnit_moved k hs delimiter.toChar) delimiter.toChar .unterminated hone hs
  refine hpattern.bind fun ⟨units, c₁⟩ hread₁ => ?_
  have h₁ := hone.further (Step.reaches_upTo _ _ _ hread₁)
  simp only [onward, List.map_id]
  refine .ite (fun _ => .fault hone _) fun _ => ?_
  have hreplacement := (replacementPiece delimiter.toChar).upTo_moved
    (replacementPiece delimiter.toChar)
    (fun d hd => readReplacementPiece_moved hd k delimiter.toChar) delimiter.toChar .unterminated
    h₁ hs
  refine hreplacement.bind fun ⟨pieces, c₂⟩ hread₂ => ?_
  have h₂ := h₁.further (Step.reaches_upTo _ _ _ hread₂)
  simp only [onward]
  refine (readFlags_moved h₂ k hs).bind fun ⟨flags, c₃⟩ hread₃ => ?_
  simp only [onward, id, ← Chunk.ofPieces_map]
  rw [largestGroup_mapSpans]
  split
  · exact .fault hone _
  · exact .ite (fun _ => .value) fun _ => .fault h₁ _

end

/-! ## Tokens in braces -/

/-- A token in braces is read the same further on, and its faults are reported within the text. -/
theorem readBraced_moved [Pattern.Engine] (k : Nat) (c : Cursor) :
    Moved c k (onward k (Node.shift k)) (readBraced c) (readBraced (c.shift k)) := by
  have hc := Cursor.Reaches.refl c
  have htwo := hc.further (.skip 2 c)
  have hname := htwo.further (reaches_readName _)
  unfold readBraced
  simp only [Cursor.skip_shift, readName_shift, onward, id]
  refine .ite (fun _ => ?_) fun _ => .fault hc _
  refine .ite (fun _ => .fault htwo _) fun _ => ?_
  refine (readSubscript?_moved hname k).bind fun ⟨s, d⟩ hread => ?_
  have hd := hname.further (reaches_readSubscript? hread)
  simp only [onward, id, Cursor.peek?_shift, Cursor.skip_shift]
  split
  · exact .value
  · refine .ite (fun _ => .fault hd _) fun _ => ?_
    exact (readEdit_moved hd k hc _ .slash).bind fun _ _ => .value
  · refine .ite (fun _ => .fault hd _) fun _ => ?_
    exact (readEdit_moved hd k hc _ .bar).bind fun _ _ => .value
  · refine .ite (fun _ => ?_) fun _ => .fault hd _
    exact (readTernary_moved hd k hc _).bind fun _ _ => .value
  · exact .fault hc _

/-- A sound token stands for the same node wherever it is written, up to its place. -/
theorem Spelling.Token.node_shift [Pattern.Engine] {t : Token} (ht : t.Sound) (k o : Nat) :
    t.node (k + o) = (t.node o).shift k := by
  rcases t.inBraces_or_bare with hb | ⟨name, rfl⟩
  · have hreads : ∀ a, (⟨a, t.text⟩ : Cursor).Reads t.text ⟨a + byteWidth t.text, []⟩ :=
      fun a => ⟨(List.append_nil _).symm, rfl⟩
    have hmoved := readBraced_moved k ⟨o, t.text⟩
    rw [Token.readBraced_eq hb ht (hreads o)] at hmoved
    have hread := hmoved.eq_of_ok
    rw [Cursor.shift, Token.readBraced_eq hb ht (hreads (k + o))] at hread
    exact congrArg Prod.fst (Except.ok.inj hread)
  · simp [Token.node, Reference.ref, Node.shift, Node.mapSpans, VariableRef.mapSpans, Span.shift,
      Nat.add_assoc]

end Stencil
