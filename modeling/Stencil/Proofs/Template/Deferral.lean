import Stencil.Proofs.Spelling.Closed
import Stencil.Proofs.Template.Expansion
import Stencil.Standalone

/-!
# Expansion in two stages

A partly expanded template is written in the pieces of the template (`deferPieces`): running text
stays as it is, a deferred token gets braces, and any other token gives way to the glyphs of its
value. These pieces fit together again (`fit_deferPieces`), so the text that comes out is a template
and is read as them. The main statements are `partialSubstitute_then_substitute`, that two stages
expand to what one stage expands to, and `partialSubstitute_twice`, that a stage can be left out.
-/

namespace Stencil

namespace Spelling

section

variable (env : Environment) (deferred : List String)

/-- What a piece is written as in a partly expanded template. -/
def deferPiece : Piece Token → List (Piece Token)
  | .glyph g => [.glyph g]
  | .token t =>
    if (t.node 0).mentionsAny deferred then [.token t.embrace]
    else valuePieces ((t.node 0).value env)

/-- The pieces of a partly expanded template. -/
def deferPieces (ps : List (Piece Token)) : List (Piece Token) :=
  ps.flatMap (deferPiece env deferred)

end

/-! ## The pieces fit -/

section

variable (E : Environment) (deferred : List String)

theorem deferPieces_append (ps qs : List (Piece Token)) :
    deferPieces E deferred (ps ++ qs) = deferPieces E deferred ps ++ deferPieces E deferred qs :=
  List.flatMap_append

theorem deferPieces_glyphs (gs : List Glyph) :
    deferPieces E deferred (gs.map .glyph) = gs.map .glyph := by
  rw [deferPieces, List.flatMap_map]
  exact List.map_eq_flatMap.symm

/-- A text that a token cannot begin keeps its first character. -/
theorem stops_deferPieces [Pattern.Engine] {p : Char → Bool} (hp : p '$' = true)
    {ps : List (Piece Token)} (h : Stops p (sourceWriting.texts ps)) :
    Stops p (sourceWriting.texts (deferPieces E deferred ps)) := by
  cases ps with
  | nil => exact stops_nil p
  | cons q ps =>
    cases q with
    | glyph g =>
      have hhead : ∀ r r' : List Char, Stops p (g.text ++ r) → Stops p (g.text ++ r') := by
        intro r r'
        cases g <;> exact id
      exact hhead _ _ h
    | token t =>
      obtain ⟨w, hw⟩ := t.exists_text_dollar
      have htext : sourceWriting.texts (.token t :: ps) = '$' :: (w ++ sourceWriting.texts ps) := by
        rw [Writing.texts_cons]
        show t.text ++ _ = _
        rw [hw, List.cons_append]
      rw [htext, stops_cons, hp] at h
      cases h

theorem fit_deferPieces [Pattern.Engine] {ps : List (Piece Token)} (h : sourceWriting.Fit ps []) :
    sourceWriting.Fit (deferPieces E deferred ps) [] := by
  induction ps with
  | nil => trivial
  | cons p ps ih =>
    obtain ⟨hp, hps⟩ := h
    rw [deferPieces, List.flatMap_cons, Writing.fit_append]
    refine ⟨?_, ih hps⟩
    cases p with
    | glyph g =>
      refine ⟨Glyph.fits_of_stops hp fun p hdollar hs => ?_, trivial⟩
      rw [List.append_nil] at hs ⊢
      exact stops_deferPieces E deferred hdollar hs
    | token t =>
      rw [deferPiece]
      split_ifs with hmentions
      · exact ⟨Token.fits_of_inBraces (Token.sound_embrace hp.1) t.inBraces_embrace _, trivial⟩
      · exact sourceWriting.fit_of_forall (fun q hq => fits_valuePieces hq) _

end

/-! ## What is written -/

section

variable {E : Environment} {deferred : List String} {source : String}

/-- A node that mentions no deferred name is written as its value. -/
theorem Token.defer_value (o : Nat) {t : Token} (h : (t.node 0).mentionsAny deferred = false) :
    (t.node o).defer source E deferred = escapeText ((t.node 0).value E) := by
  have hvalue : (expandLenient E [t.node o]).1 = (t.node 0).value E := by
    rw [expandLenient_fst, List.map_singleton, String.join_cons, String.join_nil,
      String.append_empty]
    exact congrArg Id.run (t.expand_node _ o)
  have hnames : (t.node o).mentionsAny deferred = false := by
    rw [Node.mentionsAny, t.names_node o]
    exact h
  rw [← hvalue]
  rcases t with r | ⟨s, x⟩ | ⟨name, x⟩
  · have hname : deferred.contains (r.ref o).name = false := by
      simpa [Node.mentionsAny, Token.node, Node.names] using hnames
    show (if deferred.contains (r.ref o).name then _ else _) = _
    rw [hname]
    rfl
  · exact if_neg (by simpa using hnames)
  · exact if_neg (by simpa using hnames)

/-- A node that mentions a deferred name is written as its token in braces. -/
theorem Token.defer_mentions {t : Token} {as bs : List Char}
    (hsource : source.toList = as ++ (t.text ++ bs))
    (h : (t.node 0).mentionsAny deferred = true) :
    (t.node (byteWidth as)).defer source E deferred = String.ofList t.embrace.text := by
  have hslice : (t.node (byteWidth as)).span.slice source = String.ofList t.text := by
    rw [t.span_node]
    exact Span.slice_append as t.text bs source hsource
  have hnames : (t.node (byteWidth as)).mentionsAny deferred = true := by
    rw [Node.mentionsAny, t.names_node]
    exact h
  rcases t with (name | s) | ⟨s, x⟩ | ⟨name, x⟩
  · have hname : deferred.contains (String.ofList name) = true := by
      simpa [Node.mentionsAny, Token.node, Node.names, Reference.ref] using hnames
    show (if deferred.contains (String.ofList name) then _ else _) = _
    rw [hname]
    have htext : (Token.reference (.bare name)).embrace.text = ['$', '{'] ++ name ++ ['}'] := by
      simp [Token.embrace, Token.text, Reference.text, Subject.text, Subject.subscriptText]
    rw [htext, String.ofList_append, String.ofList_append]
    rfl
  · have hname : deferred.contains (String.ofList s.name) = true := by
      simpa [Node.mentionsAny, Token.node, Node.names, Reference.ref, Subject.ref] using hnames
    show (if deferred.contains (String.ofList s.name) then _ else _) = _
    rw [hname]
    exact hslice
  · exact (if_pos hnames).trans hslice
  · exact (if_pos hnames).trans hslice

theorem Segment.defer_node [Pattern.Engine] {s : Segment} {as bs : List Char}
    (hsource : source.toList = as ++ (s.text ++ bs)) :
    (s.node (byteWidth as)).defer source E deferred =
      String.ofList (sourceWriting.texts (deferPieces E deferred s.pieces)) := by
  cases s with
  | running g gs =>
    rw [Segment.pieces, deferPieces_glyphs]
    exact Span.slice_append as _ bs source hsource
  | token t =>
    rw [Segment.text_token] at hsource
    have hpieces : deferPieces E deferred (Segment.token t).pieces =
        deferPiece E deferred (.token t) := List.append_nil _
    rw [hpieces, deferPiece]
    split_ifs with hmentions
    · rw [Writing.texts_cons, Writing.texts_nil, List.append_nil]
      exact Token.defer_mentions hsource hmentions
    · rw [texts_valuePieces]
      exact Token.defer_value _ (by simpa using hmentions)

variable (E deferred) in
theorem defer_values [Pattern.Engine] {ss : List Segment} {as : List Char}
    (hsource : source.toList = as ++ segmentWriting.texts ss) :
    String.join ((segmentWriting.values (byteWidth as) ss).map (Node.defer source E deferred)) =
      String.ofList (sourceWriting.texts (deferPieces E deferred (ss.flatMap Segment.pieces))) := by
  induction ss generalizing as with
  | nil => rfl
  | cons s ss ih =>
    rw [Writing.texts_cons] at hsource
    have hsource' : source.toList = (as ++ s.text) ++ segmentWriting.texts ss := by
      rw [hsource, List.append_assoc]
      rfl
    have hrest := ih hsource'
    rw [byteWidth_append] at hrest
    rw [Writing.values, List.map_cons, String.join_cons, List.flatMap_cons, deferPieces_append,
      Writing.texts_append, String.ofList_append]
    exact congrArg₂ _ (Segment.defer_node hsource) hrest

end

/-! ## What is expanded -/

/-- A relation that holds of the look-ups, and of the values of what is not deferred, holds of the
expansions of a template and of its first stage. -/
theorem deferPieces_related {m n : Type → Type} [Monad m] [Monad n] [LawfulMonad n]
    {R : ∀ α : Type, m α → n α → Prop} (hR : Expansion.Related R) {find : String → m String}
    {find' : String → n String} {E : Environment} {deferred : List String}
    (hfind : ∀ name, R _ (find name) (find' name))
    (hvalue : ∀ t : Token, (t.node 0).mentionsAny deferred = false →
      R _ ((t.node 0).expand find) (pure ((t.node 0).value E))) (ps : List (Piece Token)) :
    R _ (expandPieces find ps) (expandPieces find' (deferPieces E deferred ps)) := by
  induction ps with
  | nil => exact hR.result ""
  | cons p ps ih =>
    cases p with
    | glyph g => exact hR.sequence ih fun later => hR.result _
    | token t =>
      have hcons : deferPieces E deferred (.token t :: ps) =
          deferPiece E deferred (.token t) ++ deferPieces E deferred ps := rfl
      rw [hcons, deferPiece]
      split_ifs with hmentions
      · rw [List.singleton_append, expandPieces, expandPieces, t.expand_embrace]
        exact hR.sequence ((t.node 0).expand_related hR fun name _ => hfind name) fun text =>
          hR.sequence ih fun later => hR.result (text ++ later)
      · rw [expandPieces_append, expandPieces_valuePieces]
        exact hR.sequence (hvalue t (by simpa using hmentions)) fun text =>
          hR.sequence ih fun later => hR.result (text ++ later)

/-- A token that mentions no deferred name has the same value in both stages. -/
theorem Token.value_eq {E L : Environment} {deferred : List String}
    (hagree : ∀ name, name ∉ deferred → L.get? name = E.get? name) {t : Token}
    (h : (t.node 0).mentionsAny deferred = false) : (t.node 0).value L = (t.node 0).value E := by
  refine Node.value_congr fun name hname => hagree name fun hdeferred => ?_
  have hmentions : (t.node 0).mentionsAny deferred = true :=
    List.any_eq_true.2 ⟨name, hname, by simpa using hdeferred⟩
  rw [hmentions] at h
  cases h

/-- Leaving out a stage that defers more changes nothing. -/
theorem deferPieces_deferPieces {E L : Environment} {D₁ D₂ : List String}
    (hsub : ∀ name ∈ D₂, name ∈ D₁) (hagree : ∀ name, name ∉ D₁ → L.get? name = E.get? name)
    (ps : List (Piece Token)) :
    deferPieces L D₂ (deferPieces E D₁ ps) = deferPieces L D₂ ps := by
  induction ps with
  | nil => rfl
  | cons p ps ih =>
    have hcons : ∀ (env : Environment) (D : List String), deferPieces env D (p :: ps) =
        deferPiece env D p ++ deferPieces env D ps := fun _ _ => rfl
    rw [hcons, hcons, deferPieces_append, ih]
    congr 1
    cases p with
    | glyph g => rfl
    | token t =>
      by_cases h₁ : (t.node 0).mentionsAny D₁ = true
      · have hembrace : deferPieces L D₂ [.token t.embrace] = deferPiece L D₂ (.token t) := by
          have hmentions : (t.embrace.node 0).mentionsAny D₂ = (t.node 0).mentionsAny D₂ := by
            rw [Node.mentionsAny, t.names_embrace, Node.mentionsAny]
          have hvalue : (t.embrace.node 0).value L = (t.node 0).value L :=
            congrArg Id.run (t.expand_embrace _)
          show deferPiece L D₂ (.token t.embrace) ++ [] = _
          rw [List.append_nil, deferPiece, deferPiece, hmentions, hvalue, t.embrace_embrace]
        rw [deferPiece, if_pos h₁, hembrace]
      · have h₂ : ¬ (t.node 0).mentionsAny D₂ = true := by
          intro hmentions
          obtain ⟨name, hname, hD₂⟩ := List.any_eq_true.1 hmentions
          exact h₁ (List.any_eq_true.2 ⟨name, hname, by simpa using hsub name (by simpa using hD₂)⟩)
        rw [deferPiece, if_neg h₁, deferPiece, if_neg h₂, valuePieces, deferPieces_glyphs,
          Token.value_eq hagree (by simpa using h₁)]
        rfl

end Spelling

open Spelling

/-! ## Two stages -/

section

variable [Pattern.Engine]

/-- A partly expanded template is the text of the deferred pieces. -/
theorem Template.partialSubstitute_eq {source : String} {ps : List (Piece Token)}
    (htexts : sourceWriting.texts ps = source.toList) (E : Environment) (deferred : List String) :
    (⟨source, segmentWriting.values 0 (segments ps)⟩ : Template).partialSubstitute E deferred =
      String.ofList (sourceWriting.texts (deferPieces E deferred ps)) := by
  have hsource : source.toList = [] ++ segmentWriting.texts (segments ps) := by
    rw [texts_segments, htexts, List.nil_append]
  have hdefer := defer_values E deferred hsource
  rw [flatMap_pieces_segments] at hdefer
  exact hdefer

/-- It is a template, and is read as the deferred pieces. -/
theorem Template.compile_partialSubstitute {source : String} {ps : List (Piece Token)}
    (hfit : sourceWriting.Fit ps []) (htexts : sourceWriting.texts ps = source.toList)
    (E : Environment) (deferred : List String) :
    let written := (⟨source, segmentWriting.values 0 (segments ps)⟩ : Template).partialSubstitute E
      deferred
    Template.compile written =
      .ok ⟨written, segmentWriting.values 0 (segments (deferPieces E deferred ps))⟩ := by
  refine Template.compile_eq_ok_iff_segments.2
    ⟨deferPieces E deferred ps, fit_deferPieces E deferred hfit, ?_, rfl⟩
  rw [Template.partialSubstitute_eq htexts, String.toList_ofList]

/-- With the deferred names filled in, the pieces expand to what the whole template expands to. -/
theorem Template.safeSubstitute_deferPieces {E L : Environment} {deferred : List String}
    (hagree : ∀ name, name ∉ deferred → L.get? name = E.get? name) (source written : String)
    (ps : List (Piece Token)) :
    (⟨written, segmentWriting.values 0 (segments (deferPieces E deferred ps))⟩ :
        Template).safeSubstitute L =
      (⟨source, segmentWriting.values 0 (segments ps)⟩ : Template).safeSubstitute L := by
  unfold Template.safeSubstitute
  rw [expandLenient_fst, expandLenient_fst, ← expandNodes_value, ← expandNodes_value,
    expandNodes_values, expandNodes_values, flatMap_pieces_segments, flatMap_pieces_segments]
  refine congrArg Id.run (deferPieces_related Expansion.related_eq (fun name => rfl) ?_ ps).symm
  exact fun t ht => Token.value_eq hagree ht

/-- **Expansion in two stages is expansion in one**: the first stage gives a template again, and
with the deferred names filled in it expands to what the whole template expands to. -/
theorem partialSubstitute_then_substitute {source : String} {t : Template}
    (h : Template.compile source = .ok t) {E L : Environment} {deferred : List String}
    (hagree : ∀ name, name ∉ deferred → L.get? name = E.get? name) :
    ∃ p, Template.compile (t.partialSubstitute E deferred) = .ok p ∧
      p.safeSubstitute L = t.safeSubstitute L ∧
      ∀ s, t.substitute L = .ok s → p.substitute L = .ok s := by
  obtain ⟨ps, hfit, htexts, rfl⟩ := Template.compile_eq_ok_iff_segments.1 h
  refine ⟨_, Template.compile_partialSubstitute hfit htexts E deferred,
    Template.safeSubstitute_deferPieces hagree _ _ ps, ?_⟩
  intro s hs
  unfold Template.substitute expandStrict at hs ⊢
  rw [expandNodes_values, flatMap_pieces_segments] at hs ⊢
  refine deferPieces_related success_related (fun name value hvalue => ?_) ?_ ps s hs
  · exact strictFind_eq_ok_iff.2 (strictFind_eq_ok_iff.1 hvalue)
  · intro t ht value hvalue
    rw [← Token.value_eq hagree ht, Node.value_of_strict hvalue]
    rfl

end

/-- A value with a dollar sign goes through both stages. -/
theorem partialSubstitute_then_substitute_dollar :
    ∃ t p, Template.compile "$a-$\x7bb\x7d" = .ok t ∧
      Template.compile (t.partialSubstitute (Environment.empty.declareGlobal "a" "$") ["b"]) =
        .ok p ∧
      p.safeSubstitute ((Environment.empty.declareGlobal "a" "$").declareGlobal "b" "x") =
        t.safeSubstitute ((Environment.empty.declareGlobal "a" "$").declareGlobal "b" "x") ∧
      p.substitute ((Environment.empty.declareGlobal "a" "$").declareGlobal "b" "x") =
        .ok "$-x" := by
  have hcompile : Template.compile "$a-$\x7bb\x7d" = .ok ⟨"$a-$\x7bb\x7d",
      [.variable ⟨"a", none, false, ⟨0, 2⟩⟩, .literal "-" ⟨2, 3⟩,
        .variable ⟨"b", none, true, ⟨3, 7⟩⟩]⟩ := by decide +kernel
  have hagree : ∀ name, name ∉ ["b"] →
      ((Environment.empty.declareGlobal "a" "$").declareGlobal "b" "x").get? name =
        (Environment.empty.declareGlobal "a" "$").get? name := by
    intro name hname
    exact Environment.get?_declareGlobal_of_ne _ "x" (by simpa using hname)
  obtain ⟨p, hp, hsafe, hstrict⟩ := partialSubstitute_then_substitute hcompile hagree
  exact ⟨_, p, hcompile, hp, hsafe, hstrict _ (by decide +kernel)⟩

/-- **A stage that defers more can be left out**: a second stage writes the same template after it
as without it. In particular a stage changes nothing in what it has written itself. -/
theorem partialSubstitute_twice [Pattern.Engine] {source : String} {t : Template}
    (h : Template.compile source = .ok t) {E L : Environment} {D₁ D₂ : List String}
    (hsub : ∀ name ∈ D₂, name ∈ D₁) (hagree : ∀ name, name ∉ D₁ → L.get? name = E.get? name) :
    ∃ p, Template.compile (t.partialSubstitute E D₁) = .ok p ∧
      p.partialSubstitute L D₂ = t.partialSubstitute L D₂ ∧
      p.partialSubstitute E D₁ = p.source := by
  obtain ⟨ps, hfit, htexts, rfl⟩ := Template.compile_eq_ok_iff_segments.1 h
  have hwritten : sourceWriting.texts (deferPieces E D₁ ps) =
      (Template.partialSubstitute ⟨source, segmentWriting.values 0 (segments ps)⟩ E D₁).toList := by
    rw [Template.partialSubstitute_eq htexts, String.toList_ofList]
  refine ⟨_, Template.compile_partialSubstitute hfit htexts E D₁, ?_, ?_⟩
  · rw [Template.partialSubstitute_eq hwritten, deferPieces_deferPieces hsub hagree,
      Template.partialSubstitute_eq htexts]
  · rw [Template.partialSubstitute_eq hwritten,
      deferPieces_deferPieces (fun _ hname => hname) (fun _ _ => rfl)]
    exact (Template.partialSubstitute_eq htexts E D₁).symm

/-- A name that only the first stage defers is filled in by the second. -/
theorem partialSubstitute_twice_inner :
    ∃ t p, Template.compile "$a-$b$c" = .ok t ∧
      Template.compile (t.partialSubstitute (Environment.empty.declareGlobal "a" "$") ["b", "c"]) =
        .ok p ∧
      p.partialSubstitute ((Environment.empty.declareGlobal "a" "$").declareGlobal "b" "x") ["c"] =
        "$$-x$\x7bc\x7d" := by
  have hcompile : Template.compile "$a-$b$c" = .ok ⟨"$a-$b$c",
      [.variable ⟨"a", none, false, ⟨0, 2⟩⟩, .literal "-" ⟨2, 3⟩,
        .variable ⟨"b", none, false, ⟨3, 5⟩⟩, .variable ⟨"c", none, false, ⟨5, 7⟩⟩]⟩ := by
    decide +kernel
  have hagree : ∀ name, name ∉ ["b", "c"] →
      ((Environment.empty.declareGlobal "a" "$").declareGlobal "b" "x").get? name =
        (Environment.empty.declareGlobal "a" "$").get? name := by
    intro name hname
    simp only [List.mem_cons, not_or] at hname
    exact Environment.get?_declareGlobal_of_ne _ "x" hname.1
  have hsub : ∀ name ∈ ["c"], name ∈ ["b", "c"] := by decide
  obtain ⟨p, hp, htwice, -⟩ := partialSubstitute_twice hcompile hsub hagree
  exact ⟨_, p, hcompile, hp, htwice.trans (by decide +kernel)⟩

end Stencil
