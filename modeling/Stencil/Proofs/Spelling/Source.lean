import Stencil.Proofs.Spelling.Token

/-!
# The grammar of templates

A source is written in pieces, as strings and replacements are: `sourceWriting` is its writing, and
`Template.read_eq_ok_iff` says that a source is read as the pieces that it is written in. The main
statement `compiles_iff_isTemplate` says that the sources that compile are exactly the texts of the
grammar.
-/

namespace Stencil

namespace Spelling

theorem Token.inBraces_or_bare (t : Token) :
    t.InBraces ∨ ∃ name, t = .reference (.bare name) := by
  cases t with
  | reference r =>
    cases r with
    | bare name => exact Or.inr ⟨name, rfl⟩
    | braced s => exact Or.inl trivial
  | ternary s x => exact Or.inl trivial
  | edit name x => exact Or.inl trivial

theorem Token.exists_text_dollar (t : Token) : ∃ w, t.text = '$' :: w := by
  rcases t with r | ⟨s, x⟩ | ⟨name, x⟩
  · exact r.exists_text
  · exact ⟨_, rfl⟩
  · exact ⟨_, rfl⟩

theorem Token.ends_of_inBraces {t : Token} (ht : t.InBraces) (rest : List Char) : t.Ends rest := by
  cases t with
  | reference r =>
    cases r with
    | bare name => exact ht.elim
    | braced s => exact trivial
  | ternary s x => exact trivial
  | edit name x => exact trivial

variable [Pattern.Engine]

/-- How a source is written. -/
def atTop : Discipline Token where
  escapes c := c == '$' || c == '\\'
  close := none
  tokenText := Token.text
  TokenFits t rest := t.Sound ∧ t.Ends rest
  DollarFits rest := Stops (fun c => c == '$' || c == '{' || isNameChar c) rest

/-- The pieces of a source. -/
def sourceWriting : Writing (Piece Token) Lexeme :=
  atTop.writing .char fun o t => .token (t.node o)

/-- **The grammar of templates**: the text is written in pieces, each of which may stand before what
follows it. -/
def IsTemplate (cs : List Char) : Prop :=
  ∃ ps, sourceWriting.Fit ps [] ∧ sourceWriting.texts ps = cs

theorem Token.fits_of_inBraces {t : Token} (ht : t.Sound) (hb : t.InBraces) (rest : List Char) :
    sourceWriting.Fits (.token t) rest :=
  ⟨ht, Token.ends_of_inBraces hb rest⟩

/-! ## What a piece may stand before -/

/-- A character still fits when the text after it cannot have begun with a dollar sign. -/
theorem Glyph.fits_of_stops {g : Glyph} {rest rest' : List Char} (h : g.Fits atTop rest)
    (hstops : ∀ p : Char → Bool, p '$' = true → Stops p rest → Stops p rest') :
    g.Fits atTop rest' := by
  cases g with
  | escaped c => exact h
  | dollars => trivial
  | plain c =>
    obtain ⟨hclose, hback, hdollar⟩ := h
    exact ⟨hclose, fun hc => hstops _ rfl (hback hc),
      fun hc => hstops _ rfl (hdollar hc)⟩

theorem Token.sound_of_fit {ps : List (Piece Token)} {rest : List Char}
    (h : sourceWriting.Fit ps rest) {t : Token} (ht : .token t ∈ ps) : t.Sound := by
  obtain ⟨rest', hfits⟩ := Discipline.tokenFits_of_fit h ht
  exact hfits.1

/-- Pieces still fit when the text after them has no new first character. -/
theorem fit_mono {ps : List (Piece Token)} {rest rest' : List Char}
    (h : sourceWriting.Fit ps rest) (hstops : ∀ p, Stops p rest → Stops p rest') :
    sourceWriting.Fit ps rest' := by
  induction ps with
  | nil => trivial
  | cons q ps ih =>
    obtain ⟨hq, hps⟩ := h
    have hafter : ∀ p, Stops p (sourceWriting.texts ps ++ rest) →
        Stops p (sourceWriting.texts ps ++ rest') := by
      intro p
      cases sourceWriting.texts ps with
      | nil => exact hstops p
      | cons a w => exact id
    refine ⟨?_, ih hps⟩
    cases q with
    | glyph g => exact Glyph.fits_of_stops hq fun p _ => hafter p
    | token t =>
      refine ⟨hq.1, ?_⟩
      rcases t with (name | s) | ⟨s, x⟩ | ⟨name, x⟩
      · exact hafter isNameChar hq.2
      · exact trivial
      · exact trivial
      · exact trivial

/-- A source may end after any piece. -/
theorem fit_cut {ps : List (Piece Token)} {rest : List Char} (h : sourceWriting.Fit ps rest) :
    sourceWriting.Fit ps [] :=
  fit_mono h fun p _ => stops_nil p

end Spelling

open Spelling

/-! ## Dollar signs at the top level -/

variable [Pattern.Engine]

theorem readLexeme_dollars {c : Cursor} (h : c.Reads ['$', '$'] (c.skip 2)) :
    readLexeme c = .ok (c.lexeme '$' 2) := by
  have hrest : c.rest = '$' :: '$' :: (c.skip 2).rest := h.rest
  rw [readLexeme, hrest]
  rfl

theorem readLexeme_brace {c : Cursor} (h : c.Reads ['$', '{'] (c.skip 2)) :
    readLexeme c =
      match readBraced c with
      | .error f => .error f
      | .ok (n, d) => .ok (.token n, d) := by
  have hrest : c.rest = '$' :: '{' :: (c.skip 2).rest := h.rest
  rw [readLexeme, hrest]
  rfl

theorem readLexeme_name {c : Cursor} {a : Char} (h : c.Reads ['$', a] (c.skip 2))
    (ha : isNameChar a) :
    readLexeme c = .ok (.token (.variable (readBare c).1), (readBare c).2) := by
  have hrest : c.rest = '$' :: a :: (c.skip 2).rest := h.rest
  unfold readLexeme
  split <;> rename_i heq <;> rw [hrest] at heq
  · cases heq
  · cases heq
    exact absurd ha (by decide)
  · cases heq
    exact absurd ha (by decide)
  · cases heq
    exact if_pos ha
  · rename_i hno
    cases heq
    exact (hno a _ rfl rfl).elim
  · cases heq

theorem readLexeme_lone {c : Cursor} (h : c.peek? = some '$')
    (hs : Stops (fun a => a == '$' || a == '{' || isNameChar a) (c.skip 1).rest) :
    readLexeme c = .ok (c.lexeme '$' 1) := by
  have hrest := Cursor.rest_of_peek h
  unfold readLexeme
  split <;> rename_i heq <;> rw [hrest] at heq
  · cases heq
  · rw [List.tail_eq_of_cons_eq heq] at hs
    simp at hs
  · rw [List.tail_eq_of_cons_eq heq] at hs
    simp at hs
  · rw [List.tail_eq_of_cons_eq heq, stops_cons] at hs
    simp only [Bool.or_eq_false_iff] at hs
    exact if_neg (by simp [hs.2])
  · cases heq
    rfl
  · cases heq

/-- What is read at a dollar sign of the top level. -/
theorem readLexeme_dollar_iff {c c' : Cursor} {l : Lexeme} (hopen : c.peek? = some '$') :
    readLexeme c = .ok (l, c') ↔
      (c.Reads ['$', '$'] c' ∧ l = .char '$' ⟨c.offset, c'.offset⟩) ∨
      (c.Reads ['$'] c' ∧ Stops (fun a => a == '$' || a == '{' || isNameChar a) c'.rest ∧
        l = .char '$' ⟨c.offset, c'.offset⟩) ∨
      ∃ t : Token, (t.Sound ∧ t.Ends c'.rest) ∧ c.Reads t.text c' ∧
        l = .token (t.node c.offset) := by
  have hone := Cursor.reads_peek hopen
  constructor
  · intro h
    by_cases hs : Stops (fun a => a == '$' || a == '{' || isNameChar a) (c.skip 1).rest
    · rw [readLexeme_lone hopen hs] at h
      cases h
      exact Or.inr (Or.inl ⟨hone, hs, rfl⟩)
    obtain ⟨a, hpeek, ha⟩ := exists_of_not_stops hs
    have htwo : c.Reads ['$', a] (c.skip 2) :=
      Cursor.skip_skip_one c ▸ hone.trans (Cursor.reads_peek hpeek)
    simp only [Bool.or_eq_true, beq_iff_eq, or_assoc] at ha
    rcases ha with rfl | rfl | hname
    · rw [readLexeme_dollars htwo] at h
      cases h
      exact Or.inl ⟨htwo, rfl⟩
    · rw [readLexeme_brace htwo] at h
      split at h
      · cases h
      · rename_i n d hn
        cases h
        obtain ⟨t, hb, ht, hreads, rfl⟩ := readBraced_sound htwo hn
        exact Or.inr (Or.inr ⟨t, ⟨ht, t.ends_of_inBraces hb _⟩, hreads, rfl⟩)
    · rw [readLexeme_name htwo hname] at h
      cases h
      obtain ⟨name, hn, hreads, hstops, hv⟩ := exists_bare htwo hname
      exact Or.inr (Or.inr ⟨.reference (.bare name), ⟨hn, hstops⟩, hreads, by rw [hv]; rfl⟩)
  · rintro (⟨hreads, rfl⟩ | ⟨hreads, hs, rfl⟩ | ⟨t, ⟨ht, hends⟩, hreads, rfl⟩)
    · obtain rfl : c.skip 2 = c' := hreads.skip_eq
      exact readLexeme_dollars hreads
    · obtain rfl : c.skip 1 = c' := hreads.skip_eq
      exact readLexeme_lone hopen hs
    · rcases t.inBraces_or_bare with hb | ⟨name, rfl⟩
      · obtain ⟨w, hw, -⟩ := t.exists_text hb
        have htwo : c.Reads ['$', '{'] (c.skip 2) := by
          have hreads' := hw ▸ hreads
          exact Cursor.skip_skip_one c ▸ hone.trans (Cursor.reads_peek hreads'.tail.peek)
        rw [readLexeme_brace htwo, Token.readBraced_eq hb ht hreads]
      · have hname : NameSound name := ht
        obtain ⟨a, w, hw⟩ := List.exists_cons_of_ne_nil hname.ne_nil
        have htail : (c.skip 1).Reads name c' := hreads.tail
        rw [hw] at htail
        have htwo : c.Reads ['$', a] (c.skip 2) :=
          Cursor.skip_skip_one c ▸ hone.trans (Cursor.reads_peek htail.peek)
        rw [readLexeme_name htwo (hname.isNameChar a (by simp [hw])),
          readBare_eq hname hreads hends]
        rfl

/-! ## The whole source -/

/-- The reader of lexemes keeps to the discipline of sources. -/
theorem lexeme_keptBy : atTop.KeptBy .char (fun o t => .token (t.node o)) lexeme where
  escaped := by
    intro c a hreads ha
    have hrest : c.rest = '\\' :: a :: (c.skip 2).rest := hreads.rest
    have ha' : a = '$' ∨ a = '\\' := by simpa [atTop] using ha
    show readLexeme c = _
    rw [readLexeme, hrest]
    exact if_pos ha'
  backslash := by
    intro c hpeek hstops
    have hrest := Cursor.rest_of_peek hpeek
    show readLexeme c = _
    unfold readLexeme
    split <;> rename_i heq <;> rw [hrest] at heq
    · rename_i a r
      rw [List.tail_eq_of_cons_eq heq, stops_cons] at hstops
      have ha : ¬ (a = '$' ∨ a = '\\') := by simpa [atTop] using hstops
      exact if_neg ha
    all_goals cases heq
    rfl
  dollar := by
    intro c c' l hpeek
    exact readLexeme_dollar_iff hpeek
  other := by
    intro c a hpeek ha ha'
    obtain ⟨r, hrest⟩ : ∃ r, c.rest = a :: r := ⟨_, Cursor.rest_of_peek hpeek⟩
    show readLexeme c = _
    unfold readLexeme
    split <;> rename_i heq <;> rw [hrest] at heq <;> cases heq
    · exact absurd rfl ha
    · exact absurd rfl ha'
    · exact absurd rfl ha'
    · exact absurd rfl ha'
    · rfl
  token_opens := by
    intro t rest _
    exact t.exists_text_dollar
  close_ne := ⟨nofun, nofun⟩

theorem lexeme_readBy : sourceWriting.ReadBy lexeme none :=
  lexeme_keptBy.readBy

/-- A source is read as the pieces that it is written in. -/
theorem Template.read_eq_ok_iff {source : String} {nodes : List Node} :
    Template.read source = .ok nodes ↔
      ∃ ps, sourceWriting.Fit ps [] ∧ sourceWriting.texts ps = source.toList ∧
        nodes = Node.ofLexemes (sourceWriting.values 0 ps) := by
  unfold Template.read
  constructor
  · intro h
    cases hall : lexeme.all (.ofText source) with
    | error f =>
      rw [hall] at h
      cases h
    | ok ls =>
      rw [hall] at h
      cases h
      obtain ⟨ps, hps, htexts, rfl⟩ := lexeme_readBy.all_eq_ok_iff.1 hall
      exact ⟨ps, hps, htexts.symm, rfl⟩
  · rintro ⟨ps, hps, htexts, rfl⟩
    rw [lexeme_readBy.all_eq_ok_iff.2 ⟨ps, hps, htexts.symm, rfl⟩]
    rfl

theorem Template.compile_eq_ok_iff {source : String} {t : Template} :
    Template.compile source = .ok t ↔
      ∃ ps, sourceWriting.Fit ps [] ∧ sourceWriting.texts ps = source.toList ∧
        t = ⟨source, Node.ofLexemes (sourceWriting.values 0 ps)⟩ := by
  unfold Template.compile
  constructor
  · intro h
    split at h
    · rename_i nodes hnodes
      cases h
      obtain ⟨ps, hps, htexts, rfl⟩ := Template.read_eq_ok_iff.1 hnodes
      exact ⟨ps, hps, htexts, rfl⟩
    · cases h
  · rintro ⟨ps, hps, htexts, rfl⟩
    rw [Template.read_eq_ok_iff.2 ⟨ps, hps, htexts, rfl⟩]

/-- **The sources that compile are the texts of the grammar.** -/
theorem compiles_iff_isTemplate (source : String) :
    (∃ t, Template.compile source = .ok t) ↔ IsTemplate source.toList := by
  constructor
  · rintro ⟨t, ht⟩
    obtain ⟨ps, hps, htexts, -⟩ := Template.compile_eq_ok_iff.1 ht
    exact ⟨ps, hps, htexts⟩
  · rintro ⟨ps, hps, htexts⟩
    exact ⟨_, Template.compile_eq_ok_iff.2 ⟨ps, hps, htexts, rfl⟩⟩

end Stencil
