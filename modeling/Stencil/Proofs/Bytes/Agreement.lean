import Mathlib.Data.Option.Basic
import Stencil.Proofs.Bytes.Scanner
import Stencil.Proofs.Template.Chunk
import Stencil.Proofs.Spelling.Source

/-!
# Scanners agree with readers

A scanner at the offset of a place in the text does what the reader does at the place. `Scan.Agrees`
relates their outcomes: the scanner does not crash, a value is the same and all spans in it can be
cut out, and a fault is the same and reported at a place of the text. There is one lemma for each
reader. A loop of scanners agrees with a loop of readers when one step does (`Scan.upTo_agrees`).
-/

namespace Stencil

/-! ## Spans -/

/-- The part that the span covers can be cut out of the text. -/
structure Span.Fits (source : String) (s : Span) : Prop where
  le : s.start ≤ s.stop
  stop_le : s.stop ≤ source.utf8ByteSize
  start : Boundary source s.start
  stop : Boundary source s.stop

/-- All spans of a list can be cut out of the text. -/
def AllFit (source : String) (spans : List Span) : Prop :=
  ∀ s ∈ spans, s.Fits source

/-- The spans in a piece or in a chunk, given those in its token. -/
def pieceSpans {α : Type} (spans : α → List Span) : Char ⊕ α → List Span
  | .inl _ => []
  | .inr a => spans a

def Chunk.spans {α : Type} (spans : α → List Span) : Chunk α → List Span
  | .text _ => []
  | .token a => spans a

def VariableRef.spans (v : VariableRef) : List Span :=
  [v.span]

def Quoted.spans (q : Quoted) : List Span :=
  q.span :: q.segments.flatMap (Chunk.spans VariableRef.spans)

def Filler.spans : Filler → List Span
  | .group _ => []
  | .variable v => v.spans

/-- The span of a node and all spans inside it. -/
def Node.spans : Node → List Span
  | .literal _ s => [s]
  | .variable v => v.spans
  | .ternary t => t.span :: (t.lhs.spans ++ (t.comparand.spans ++ (t.ifTrue.spans ++
      t.ifFalse.spans)))
  | .edit e => e.span :: (e.subject.spans ++ e.replacement.flatMap (Chunk.spans Filler.spans))

theorem AllFit.append {source : String} {l l' : List Span} (h : AllFit source l)
    (h' : AllFit source l') : AllFit source (l ++ l') := fun s hs =>
  (List.mem_append.1 hs).elim (h s) (h' s)

theorem AllFit.cons {source : String} {s : Span} {l : List Span} (hs : s.Fits source)
    (h : AllFit source l) : AllFit source (s :: l) :=
  List.forall_mem_cons.2 ⟨hs, h⟩

/-- Joining pieces neither adds nor drops a span. -/
theorem allFit_ofPieces {source : String} {α : Type} {spans : α → List Span}
    {pieces : List (Char ⊕ α)} (h : ∀ x ∈ pieces, AllFit source (pieceSpans spans x)) :
    AllFit source ((Chunk.ofPieces pieces).flatMap (Chunk.spans spans)) := by
  intro s hs
  obtain ⟨x, hx, hs⟩ := List.mem_flatMap.1 hs
  cases x with
  | text t => cases hs
  | token a => exact h _ (Chunk.token_mem_ofPieces.1 hx) s hs

theorem Cursor.Reaches.offset_lt {n : Nat} {c d : Cursor} (h : c.Reaches (n + 1) d)
    (hc : c.rest ≠ []) : c.offset < d.offset := by
  obtain ⟨i, rfl⟩ := h
  obtain ⟨a, as, hrest⟩ := List.exists_cons_of_ne_nil hc
  have hpos := a.utf8Size_pos
  rw [Cursor.skip, hrest, show n + 1 + i = n + i + 1 by omega, List.take_succ_cons, byteWidth_cons]
  dsimp only
  omega

theorem Cursor.Reaches.length_le {n : Nat} {c d : Cursor} (h : c.Reaches n d) :
    d.rest.length ≤ c.rest.length := by
  obtain ⟨i, rfl⟩ := h
  rw [length_rest_skip]
  exact Nat.sub_le _ _

namespace Cursor.Within

variable {source : String} {c d : Cursor}

/-- The text between two places can be cut out. -/
theorem fits {n : Nat} (hc : c.Within source) (h : c.Reaches n d) :
    (⟨c.offset, d.offset⟩ : Span).Fits source := by
  have hd := hc.further h
  obtain ⟨i, rfl⟩ := h
  exact ⟨Nat.le_add_right _ _, hd.boundary.le, hc.boundary, hd.boundary⟩

end Cursor.Within

/-! ## Outcomes -/

namespace Scan

/-- A value with the offset after it, and the same value with the place after it. -/
inductive At {α : Type} (source : String) (P : α → Prop) : α × Nat → α × Cursor → Prop
  | mk {a : α} {c : Cursor} (hc : c.Within source) (ha : P a) : At source P (a, c.offset) (a, c)

/-- The scanner does what the reader does: it gives a related value, or the same fault at a place of
the text. -/
inductive Agrees {α β : Type} (source : String) (R : α → β → Prop) :
    Scan α → Except Fault β → Prop
  | value {a : α} {b : β} (h : R a b) : Agrees source R (pure a) (.ok b)
  | fault {d : Cursor} (hd : d.Within source) (r : Reason) :
    Agrees source R (fail d.offset r) (Stencil.fault d r)

namespace Agrees

variable {α β γ δ : Type} {source : String} {R : α → β → Prop} {S : γ → δ → Prop} {x x' : Scan α}
  {y y' : Except Fault β}

theorem cases (h : Agrees source R x y) :
    (∃ d r, d.Within source ∧ x = fail d.offset r ∧ y = Stencil.fault d r) ∨
      ∃ a b, R a b ∧ x = pure a ∧ y = .ok b := by
  cases h with
  | value h => exact .inr ⟨_, _, h, rfl, rfl⟩
  | fault hd r => exact .inl ⟨_, r, hd, rfl, rfl⟩

theorem bind {f : α → Scan γ} {g : β → Except Fault δ} (h : Agrees source R x y)
    (hf : ∀ a b, R a b → y = .ok b → Agrees source S (f a) (g b)) :
    Agrees source S (x >>= f) (y >>= g) := by
  cases h with
  | value h => exact hf _ _ h rfl
  | fault hd r => exact .fault hd r

theorem ite {p q : Prop} [Decidable p] [Decidable q] (h : p ↔ q)
    (hx : q → Agrees source R x y) (hx' : ¬q → Agrees source R x' y') :
    Agrees source R (if p then x else x') (if q then y else y') := by
  by_cases hq : q
  · rw [if_pos (h.2 hq), if_pos hq]
    exact hx hq
  · rw [if_neg fun hp => hq (h.1 hp), if_neg hq]
    exact hx' hq

end Agrees

variable {source : String} {c d : Cursor}

/-- One byte on after a character below 128. -/
theorem At.skip_one {α : Type} {P : α → Prop} {a : α} {b : Char} (hc : c.Within source)
    (h : c.peek? = some b) (ha : P a) (hb : b.toNat < 128 := by decide) :
    At source P (a, c.offset + 1) (a, c.skip 1) := by
  rw [← Cursor.offset_skip_one h hb]
  exact .mk (hc.further (.skip 1 c)) ha

theorem offset_skip_two {a b : Char} (h : c.Reads [a, b] (c.skip 2)) (ha : a.toNat < 128)
    (hb : b.toNat < 128) : (c.skip 2).offset = c.offset + 2 := by
  rw [h.offset, byteWidth_cons, byteWidth_cons, utf8Size_of_lt ha, utf8Size_of_lt hb, byteWidth_nil]

/-! ## Cutting texts and characters out -/

theorem cut_eq {w : List Char} (hc : c.Within source) (h : c.Reads w d) :
    cut source c.offset d.offset = pure (String.ofList w) := by
  rw [cut, hc.cut?_eq h]

theorem char_eq {a : Char} (hc : c.Within source) (h : c.peek? = some a) :
    char source c.offset = pure (a, (c.skip 1).offset) := by
  obtain ⟨before, hsource, hoffset⟩ := hc.exists_before
  have hend : c.Reads c.rest ⟨source.utf8ByteSize, []⟩ :=
    ⟨(List.append_nil _).symm, by
      rw [utf8ByteSize_eq, hsource, byteWidth_append, hoffset]⟩
  have hone := (Cursor.reads_peek h).offset
  unfold char
  rw [cut_eq hc hend, pure_bind, String.toList_ofList, Cursor.rest_of_peek h, hone]
  rfl

/-! ## References -/

theorem bytewise_isNameChar : Bytewise isNameChar :=
  bytewise_of_lt fun _ => lt_of_isNameChar

theorem name_eq (hc : c.Within source) :
    name source c.offset = pure ((readName c).1, (readName c).2.offset) := by
  unfold name
  rw [hc.runEnd_eq bytewise_isNameChar]
  dsimp only
  rw [cut_eq hc (Cursor.reads_run isNameChar c), pure_bind]
  rfl

theorem lt_of_isDigit {a : Char} (h : a.isDigit = true) : a.toNat < 128 :=
  lt_of_isNameChar (by simp [isNameChar, Char.isAlphanum, h])

theorem bytewise_isDigit : Bytewise Char.isDigit :=
  bytewise_of_lt fun _ => lt_of_isDigit

/-- The text of digits, with or without a minus sign before them, as a number. -/
theorem number?_eq (negative : Bool) {ds : List Char} (hds : ∀ d ∈ ds, d.isDigit = true) :
    number? (String.ofList ((if negative then ['-'] else []) ++ ds)) =
      let i : Int := if negative then -decimal ds else decimal ds
      if isWord i then some i else none := by
  unfold number?
  rw [String.toList_ofList]
  cases negative with
  | true => rfl
  | false =>
    split
    · rename_i ds' h
      have hcons : ds = '-' :: ds' := h
      exact absurd (hds '-' (hcons ▸ List.mem_cons_self)) (by decide)
    · rfl

section

variable (hc : c.Within source)

include hc

theorem digits_agrees {negative : Bool} (h : c.Reads (if negative then ['-'] else []) d) :
    Agrees source (At source fun _ => True) (digits source c.offset d.offset)
      (readDigits negative c d) := by
  have hd := hc.reads h
  have hempty : runEnd source Char.isDigit d.offset = d.offset ↔ (d.run Char.isDigit).isEmpty :=
    (hd.runEnd_eq_iff bytewise_isDigit).trans List.isEmpty_iff.symm
  have hsign : c.offset < d.offset ↔ negative := by
    rw [h.offset]
    cases negative <;> simp [utf8Size_of_lt]
  refine .ite hempty (fun _ => ?_) fun _ => ?_
  · exact .ite hsign (fun _ => .fault hc _) fun _ => .value (.mk hd trivial)
  · have hcut := cut_eq hc (h.trans (Cursor.reads_run Char.isDigit d))
    rw [hd.runEnd_eq bytewise_isDigit, hcut, pure_bind,
      number?_eq negative fun _ => Cursor.mem_run]
    dsimp only
    generalize (if negative = true then -(decimal (d.run Char.isDigit) : Int)
      else decimal (d.run Char.isDigit)) = i
    split_ifs
    · exact .value (.mk (hd.further (.skipWhile _ d)) trivial)
    · exact .fault hc _

theorem index_agrees :
    Agrees source (At source fun _ => True) (index source c.offset) (readIndex c) := by
  unfold index readIndex
  by_cases h : c.peek? = some '-'
  · rw [if_pos ((hc.byteAt?_eq_some_iff (by decide)).2 h), if_pos h,
      ← Cursor.offset_skip_one h (by decide)]
    exact digits_agrees hc (Cursor.reads_peek h)
  · rw [if_neg (mt (hc.byteAt?_eq_some_iff (by decide)).1 h), if_neg h]
    exact digits_agrees hc (.refl c)

theorem closing_agrees (s : Subscript) :
    Agrees source (At source fun _ => True) (closing source s c.offset) (closeSubscript s c) :=
  .ite (hc.byteAt?_eq_some_iff (by decide)) (fun h => .value (.skip_one hc h trivial)) fun _ =>
    .fault hc _

theorem subscript_agrees (hopen : c.peek? = some '[') :
    Agrees source (At source fun _ => True) (subscript source c.offset) (readSubscript c) := by
  have hone := hc.further (.skip 1 c)
  unfold subscript readSubscript
  rw [← Cursor.offset_skip_one hopen (by decide)]
  rcases (index_agrees hone).cases with ⟨e, r, he, hx, hy⟩ | ⟨_, _, ⟨hd, -⟩, hx, hy⟩
  · rw [hx, hy]
    exact .fault he r
  rw [hx, hy, pure_bind]
  refine .ite (hd.byteAt?_eq_some_iff (by decide)) (fun hcolon => ?_) fun _ => ?_
  · rw [← Cursor.offset_skip_one hcolon (by decide)]
    rcases (index_agrees (hd.further (.skip 1 _))).cases with
      ⟨e, r, he, hx, hy⟩ | ⟨_, _, ⟨he, -⟩, hx, hy⟩
    · rw [hx, hy]
      exact .fault he r
    rw [hx, hy, pure_bind]
    exact .ite (he.byteAt?_eq_some_iff (by decide)) (fun _ => .fault he _) fun _ =>
      closing_agrees he _
  · split
    · exact closing_agrees hd _
    · exact .ite (hd.byteAt?_eq_some_iff (by decide)) (fun _ => .fault hc _) fun _ => .fault hd _

theorem subscript?_agrees :
    Agrees source (At source fun _ => True) (subscript? source c.offset) (readSubscript? c) := by
  refine .ite (hc.byteAt?_eq_some_iff (by decide)) (fun hopen => ?_) fun _ =>
    .value (.mk hc trivial)
  rcases (subscript_agrees hc hopen).cases with ⟨e, r, he, hx, hy⟩ | ⟨_, _, ⟨hd, -⟩, hx, hy⟩
  · rw [hx, hy]
    exact .fault he r
  · rw [hx, hy]
    exact .value (.mk hd trivial)

theorem bare_eq (hopen : c.peek? = some '$') :
    bare source c.offset = pure ((readBare c).1, (readBare c).2.offset) := by
  unfold bare
  rw [← Cursor.offset_skip_one hopen (by decide), name_eq (hc.further (.skip 1 c)), pure_bind]
  rfl

theorem fits_readBare : AllFit source (readBare c).1.spans :=
  .cons (hc.fits (reaches_readBare c)) (List.forall_mem_nil _)

theorem simple_agrees (hopen : c.Reads ['$', '\x7b'] (c.skip 2)) :
    Agrees source (Option.Rel (At source fun v => AllFit source v.spans)) (simple source c.offset)
      (readSimple c) := by
  have htwo := hc.further (.skip 2 c)
  have hname := htwo.further (reaches_readName _)
  unfold simple
  rw [readSimple_eq, ← offset_skip_two hopen (by decide) (by decide), name_eq htwo, pure_bind]
  refine .ite Iff.rfl (fun _ => .value .none) fun _ => ?_
  rcases (subscript?_agrees hname).cases with ⟨e, r, he, hx, hy⟩ | ⟨_, ⟨s, d⟩, ⟨hd, -⟩, hx, hy⟩
  · rw [hx, hy]
    exact .fault he r
  rw [hx, hy, pure_bind]
  refine .ite (hd.byteAt?_eq_some_iff (by decide)) (fun hclose => .value (.some ?_)) fun _ =>
    .value .none
  have hreach : c.Reaches 2 (d.skip 1) :=
    (Cursor.Reaches.skip 2 c).trans ((reaches_readName _).trans
      ((reaches_readSubscript? hy).trans ((Cursor.Reaches.skip 1 d).weaken (Nat.zero_le _))))
  rw [← Cursor.offset_skip_one hclose (by decide)]
  exact .mk (hd.further (.skip 1 d)) (.cons (hc.fits hreach) (List.forall_mem_nil _))

/-- A scanner at a dollar sign agrees with a reader if it does in each case of what follows. -/
theorem dollar_agrees {α β : Type} {inBraces : Scan ((Char ⊕ α) × Nat)} {ofRef : VariableRef → α}
    {R : (Char ⊕ α) × Nat → β → Prop} {y : Except Fault β} (hopen : c.peek? = some '$')
    (hlone : Stops (fun a => a == '$' || a == '\x7b' || isNameChar a) (c.skip 1).rest →
      Agrees source R (pure (.inl '$', (c.skip 1).offset)) y)
    (hdoubled : c.Reads ['$', '$'] (c.skip 2) →
      Agrees source R (pure (.inl '$', (c.skip 2).offset)) y)
    (hbraces : c.Reads ['$', '\x7b'] (c.skip 2) → Agrees source R inBraces y)
    (hbare : ∀ a, c.Reads ['$', a] (c.skip 2) → isNameChar a = true →
      Agrees source R (pure (.inr (ofRef (readBare c).1), (readBare c).2.offset)) y) :
    Agrees source R (dollar source inBraces ofRef c.offset) y := by
  rw [Cursor.offset_skip_one hopen (by decide)] at hlone
  unfold dollar
  rw [hc.byteAt?_next hopen]
  cases hpeek : (c.skip 1).peek? with
  | none => exact hlone (List.head?_eq_none_iff.1 hpeek ▸ stops_nil _)
  | some a =>
    have htwo := Cursor.reads_pair hopen hpeek
    simp (disch := decide) only [Option.map_some, lead_eq_iff, bytewise_isNameChar.lead_eq]
    split_ifs with hdollar hbrace hname
    · subst hdollar
      exact offset_skip_two htwo (by decide) (by decide) ▸ hdoubled htwo
    · exact hbraces (hbrace ▸ htwo)
    · rw [bare_eq hc hopen]
      exact hbare a htwo hname
    · refine hlone ?_
      rw [Cursor.rest_of_peek hpeek, stops_cons]
      simp [hdollar, hbrace, hname]

/-- A reference inside a string or a replacement, when what it is taken for has its span only. -/
theorem nested_agrees {α : Type} {ofRef : VariableRef → α} {spans : α → List Span}
    (hspans : ∀ v, spans (ofRef v) = v.spans) (hopen : c.peek? = some '$') :
    Agrees source (At source fun x => AllFit source (pieceSpans spans x))
      (nested source ofRef c.offset) (readNested ofRef c) := by
  have hchar : ∀ n, At source (fun x => AllFit source (pieceSpans spans x))
      (.inl '$', (c.skip n).offset) (.inl '$', c.skip n) := fun n =>
    .mk (hc.further (.skip n c)) (List.forall_mem_nil _)
  have href : ∀ v : VariableRef, AllFit source v.spans →
      AllFit source (pieceSpans spans (.inr (ofRef v) : Char ⊕ α)) := by
    intro v hv
    rw [pieceSpans, hspans]
    exact hv
  refine dollar_agrees hc hopen (fun hstops => ?_) (fun htwo => ?_) (fun htwo => ?_)
    fun a htwo ha => ?_
  · rw [readNested_other ofRef hstops]
    exact .value (hchar 1)
  · rw [readNested_dollar ofRef htwo.tail.peek]
    exact .value (hchar 2)
  · rw [readNested_brace ofRef htwo.tail.peek, ← Cursor.offset_skip_one hopen (by decide)]
    rcases (simple_agrees hc htwo).cases with ⟨e, r, he, hx, hy⟩ | ⟨_, _, hrel, hx, hy⟩
    · rw [hx, hy]
      exact .fault he r
    rw [hx, hy, pure_bind]
    cases hrel with
    | none => exact .value (hchar 1)
    | some hv =>
      cases hv with
      | mk hd hfit => exact .value (.mk hd (href _ hfit))
  · rw [readNested_name ofRef htwo.tail.peek ha]
    exact .value (.mk (hc.further (reaches_readBare c)) (href _ (fits_readBare hc)))

end

/-! ## Runs of pieces -/

/-- A loop of scanners agrees with a loop of readers when a step at a character does. -/
theorem upTo_agrees {α : Type} {P : α → Prop} (s : Step α) (piece : Nat → Scan (α × Nat))
    {close : Char} (hclose : close.toNat < 128)
    (hpiece : ∀ {c : Cursor} {a : Char}, c.Within source → c.peek? = some a →
      Agrees source (At source P) (piece c.offset) (s.read c))
    (reason : Reason) (hd : d.Within source) (hc : c.Within source) :
    Agrees source (At source fun as => ∀ a ∈ as, P a)
      (upTo source piece close ⟨d.offset, reason⟩ c.offset)
      (s.upTo close ⟨d.offset, reason⟩ c) := by
  induction hn : c.rest.length using Nat.strongRecOn generalizing c with
  | ind n ih =>
    rw [s.upTo_eq, upTo, hc.byteAt?_eq]
    cases hpeek : c.peek? with
    | none => exact .fault hd reason
    | some b =>
      simp only [Option.map_some, lead_eq_iff hclose]
      refine .ite Iff.rfl (fun hb => ?_) fun hb => ?_
      · exact .value (.skip_one hc (hb ▸ hpeek) (List.forall_mem_nil _) hclose)
      rcases (hpiece hc hpeek).cases with ⟨e, r, he, hx, hy⟩ | ⟨_, _, ⟨he, ha⟩, hx, hy⟩
      · rw [hx, hy]
        exact .fault he r
      have hreads := s.reaches hy
      have hne : c.rest ≠ [] := Cursor.rest_of_peek hpeek ▸ List.cons_ne_nil _ _
      have hlt := hreads.offset_lt hne
      rw [hx, hy, pure_bind]
      dsimp only
      rw [dif_pos ⟨hlt, Nat.lt_of_lt_of_le hlt he.boundary.le⟩]
      rcases (ih _ (hn ▸ hreads.length_lt hne) he rfl).cases with
        ⟨e, r, he, hx, hy⟩ | ⟨_, _, ⟨he, has⟩, hx, hy⟩
      · rw [hx, hy]
        exact .fault he r
      · rw [hx, hy]
        exact .value (.mk he (List.forall_mem_cons.2 ⟨ha, has⟩))

/-! ## Running text -/

/-- A byte that the backslash escapes is taken as it is, and else the backslash is. -/
theorem escape_cases {escaped : Char → Bool} (hlt : ∀ a, escaped a = true → a.toNat < 128)
    (hc : c.Within source) (hopen : c.peek? = some '\\') :
    (∃ a, c.Reads ['\\', a] (c.skip 2) ∧ escaped a = true ∧
        escape source escaped c.offset = pure (a, (c.skip 2).offset)) ∨
      (Stops escaped (c.skip 1).rest ∧
        escape source escaped c.offset = pure ('\\', (c.skip 1).offset)) := by
  unfold escape
  rw [hc.byteAt?_next hopen, Cursor.offset_skip_one hopen (by decide)]
  cases hpeek : (c.skip 1).peek? with
  | none => exact .inr ⟨List.head?_eq_none_iff.1 hpeek ▸ stops_nil _, rfl⟩
  | some a =>
    have hlead := (bytewise_of_lt hlt).lead_eq a
    simp only [Option.map_some, hlead]
    by_cases ha : escaped a = true
    · have htwo := Cursor.reads_pair hopen hpeek
      refine .inl ⟨a, htwo, ha, ?_⟩
      rw [if_pos ha, (lead_eq_iff (hlt a ha)).2 rfl, offset_skip_two htwo (by decide) (hlt a ha)]
    · refine .inr ⟨?_, if_neg ha⟩
      rw [Cursor.rest_of_peek hpeek, stops_cons]
      simpa using ha

/-- A scanner of pieces agrees with a reader that keeps to the discipline, if they agree at the
dollar sign. -/
theorem piece_agrees {τ α : Type} {D : Spelling.Discipline τ} {ofToken : Nat → τ → Char ⊕ α}
    {s : Step (Char ⊕ α)} {atDollar : Nat → Scan ((Char ⊕ α) × Nat)} {spans : α → List Span}
    (hkept : D.KeptBy (fun a _ => .inl a) ofToken s)
    (hlt : ∀ a, D.escapes a = true → a.toNat < 128)
    (hdollar : c.peek? = some '$' →
      Agrees source (At source fun x => AllFit source (pieceSpans spans x)) (atDollar c.offset)
        (s.read c))
    (reason : Reason) {b : Char} (hc : c.Within source) (hpeek : c.peek? = some b) :
    Agrees source (At source fun x => AllFit source (pieceSpans spans x))
      (piece source D.escapes atDollar reason c.offset) (s.read c) := by
  have hchar : ∀ (a : Char) (n : Nat),
      At source (fun x => AllFit source (pieceSpans spans x)) (.inl a, (c.skip n).offset)
        (.inl a, c.skip n) := fun _ n => .mk (hc.further (.skip n c)) (List.forall_mem_nil _)
  unfold piece
  rw [hc.byteAt?_eq, hpeek]
  simp (disch := decide) only [Option.map_some, lead_eq_iff]
  by_cases hback : b = '\\'
  · subst hback
    rw [if_pos rfl]
    rcases escape_cases hlt hc hpeek with ⟨a, htwo, ha, hx⟩ | ⟨hstops, hx⟩
    · rw [hx, hkept.escaped htwo ha]
      exact .value (hchar a 2)
    · rw [hx, hkept.backslash hpeek hstops]
      exact .value (hchar _ 1)
  rw [if_neg hback]
  by_cases hb : b = '$'
  · rw [if_pos hb]
    exact hdollar (hb ▸ hpeek)
  · rw [if_neg hb, char_eq hc hpeek, hkept.other hpeek hback hb]
    exact .value (hchar b 1)

/-! ## Quoted strings -/

section

variable (hc : c.Within source)

include hc

theorem quotedPiece_agrees {b : Char} (hpeek : c.peek? = some b) :
    Agrees source (At source fun x => AllFit source (pieceSpans VariableRef.spans x))
      (quotedPiece source c.offset) (Stencil.quotedPiece.read c) := by
  refine piece_agrees quotedPiece_keptBy (fun a ha => ?_) (fun hopen => ?_) _ hc hpeek
  · simp only [Spelling.inQuotes, Bool.or_eq_true, beq_iff_eq] at ha
    rcases ha with (rfl | rfl) | rfl <;> decide
  · rw [show Stencil.quotedPiece.read c = _ from readQuotedPiece_eq_nested hopen]
    exact nested_agrees hc (fun _ => rfl) hopen

theorem quoted_agrees :
    Agrees source (At source fun q => AllFit source q.spans) (quoted source c.offset)
      (readQuoted c) := by
  unfold quoted readQuoted
  simp (disch := decide) only [hc.byteAt?_eq_some_iff]
  split_ifs with hopen hsingle
  · rw [hopen, ← Cursor.offset_skip_one hopen (by decide)]
    have hone := hc.further (.skip 1 c)
    have hpieces := upTo_agrees Stencil.quotedPiece (quotedPiece source)
      (show '"'.toNat < 128 by decide) (fun hd hpeek => quotedPiece_agrees hd hpeek)
      .unterminatedString hc hone
    rcases hpieces.cases with ⟨e, r, he, hx, hy⟩ | ⟨_, _, ⟨hd, hps⟩, hx, hy⟩
    · simp only [hx, hy]
      exact .fault he r
    · have hreach := (Cursor.Reaches.skip 1 c).trans (Stencil.quotedPiece.reaches_upTo _ _ hy)
      simp only [hx, hy, pure_bind]
      exact .value (.mk hd (.cons (hc.fits hreach) (allFit_ofPieces hps)))
  · rw [hsingle]
    exact .fault hc _
  · split
    · exact absurd ‹_› hopen
    · exact absurd ‹_› hsingle
    · exact .fault hc _

end

end Scan

end Stencil
