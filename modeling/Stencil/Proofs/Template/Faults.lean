import Stencil.Proofs.Spelling.Segments
import Stencil.Proofs.Template.Moved
import Stencil.Standalone

/-!
# Faults are local

A source that does not compile has a first token that cannot be read. What is written before the
token is a template, and what is wrong with the token does not depend on it: the text from the token
on has the same fault by itself, and after every other template that ends in braces.
`Template.compile_eq_error_iff` finds the token, and the main statement is `compile_fault`.
-/

namespace Stencil

open Spelling

/-! ## The first piece that cannot be read -/

/-- At the top level only a token in braces can have a fault. -/
theorem readLexeme_eq_error_iff [Pattern.Engine] {c : Cursor} {f : Fault} (hne : c.rest ≠ []) :
    readLexeme c = .error f ↔ c.Reads ['$', '{'] (c.skip 2) ∧ readBraced c = .error f := by
  constructor
  · intro h
    unfold readLexeme at h
    split at h
    · split at h <;> cases h
    · cases h
    · rename_i hrest
      split at h
      · rename_i hbraced
        cases h
        exact ⟨Cursor.reads_skip (w := ['$', '{']) hrest, hbraced⟩
      · cases h
    · split at h <;> cases h
    · cases h
    · rename_i hrest
      exact absurd hrest hne
  · rintro ⟨hopen, hbraced⟩
    rw [readLexeme_brace hopen, hbraced]

theorem Cursor.eq_shift_of_reads {source : String} {w : List Char} {d : Cursor}
    (h : (ofText source).Reads w d) : d = (⟨0, d.rest⟩ : Cursor).shift (byteWidth w) :=
  ext (h.offset.trans (Nat.add_comm _ _)) rfl

/-- A source that does not compile is pieces that can be read, and then a text that begins with a
token in braces that cannot be read. -/
theorem Template.compile_eq_error_iff [Pattern.Engine] {source : String} {e : TemplateError} :
    Template.compile source = .error e ↔
      ∃ ps w g, sourceWriting.Fit ps ('$' :: '{' :: w) ∧
        source.toList = sourceWriting.texts ps ++ '$' :: '{' :: w ∧
        readBraced ⟨0, '$' :: '{' :: w⟩ = .error g ∧
        e = .parse source (g.shift (byteWidth (sourceWriting.texts ps))) := by
  have hread : Template.compile source = .error e ↔
      ∃ f, lexeme.all (.ofText source) = .error f ∧ e = .parse source f := by
    unfold Template.compile Template.read
    cases lexeme.all (.ofText source) with
    | ok ls => simp [Except.map]
    | error f => simp [Except.map, eq_comm]
  rw [hread]
  constructor
  · rintro ⟨f, hall, rfl⟩
    obtain ⟨ps, d, hps, hreads, hne, hfault⟩ := lexeme_readBy.all_eq_error_iff.1 hall
    obtain ⟨hopen, hbraced⟩ := (readLexeme_eq_error_iff hne).1 hfault
    have hrest : d.rest = '$' :: '{' :: (d.skip 2).rest := hopen.rest
    rw [Cursor.eq_shift_of_reads hreads] at hbraced
    obtain ⟨g, hg, rfl⟩ := (readBraced_moved _ _).eq_error_iff.1 hbraced
    rw [hrest] at hg hps
    exact ⟨ps, _, g, hps, hrest ▸ hreads.rest, hg, rfl⟩
  · rintro ⟨ps, w, g, hps, hsource, hg, rfl⟩
    have hstart : (Cursor.ofText source).rest = _ := hsource
    obtain ⟨d, hreads, hrest⟩ := Cursor.exists_reads hstart
    have hbraced : readBraced d = .error (g.shift (byteWidth (sourceWriting.texts ps))) := by
      rw [Cursor.eq_shift_of_reads hreads, hrest]
      exact (readBraced_moved _ _).eq_error_iff.2 ⟨g, hg, rfl⟩
    have hopen := Cursor.reads_skip (w := ['$', '{']) hrest
    have hne : d.rest ≠ [] := by
      rw [hrest]
      exact List.cons_ne_nil _ _
    exact ⟨_, lexeme_readBy.all_eq_error_iff.2 ⟨ps, d, hrest ▸ hps, hreads, hne,
      (readLexeme_eq_error_iff hne).2 ⟨hopen, hbraced⟩⟩, rfl⟩

/-! ## Where a fault is reported -/

theorem Cursor.Reaches.offset_le {n : Nat} {c d : Cursor} (h : c.Reaches n d) :
    d.offset ≤ c.offset + byteWidth c.rest := by
  obtain ⟨i, rfl⟩ := h
  have hwidth := congrArg byteWidth (List.take_append_drop (n + i) c.rest)
  rw [byteWidth_append] at hwidth
  show c.offset + byteWidth (c.rest.take (n + i)) ≤ _
  omega

theorem readBraced_position_le [Pattern.Engine] {c : Cursor} {f : Fault}
    (h : readBraced c = .error f) : f.position ≤ c.offset + byteWidth c.rest := by
  obtain ⟨d, hd, hposition⟩ := (readBraced_moved 0 c).exists_reaches h
  exact hposition ▸ hd.offset_le

theorem readBraced_unclosed [Pattern.Engine] {c : Cursor} {f : Fault} (h : readBraced c = .error f)
    (hclose : '}' ∉ c.rest) : f = ⟨c.offset, .unterminated⟩ := by
  rw [readBraced, if_neg hclose] at h
  exact (Except.error.inj h).symm

/-! ## Templates that end in braces -/

/-- Whether a node was written in braces. -/
def Node.braced : Node → Bool
  | .literal _ _ => false
  | .variable v => v.braced
  | .ternary _ => true
  | .edit _ => true

namespace Spelling

theorem Token.inBraces_of_braced {t : Token} {o : Nat} (h : (t.node o).braced) : t.InBraces := by
  rcases t with (name | s) | ⟨s, x⟩ | ⟨name, x⟩
  · cases h
  · exact trivial
  · exact trivial
  · exact trivial

/-- When the last node stands in braces, the last piece is a token in braces. -/
theorem exists_last_token [Pattern.Engine] {ps : List (Piece Token)} {o : Nat} {ns : List Node}
    {n : Node} (h : segmentWriting.values o (segments ps) = ns ++ [n]) (hn : n.braced) :
    ∃ qs t, ps = qs ++ [.token t] ∧ t.InBraces := by
  have hpieces := flatMap_pieces_segments ps
  rcases List.eq_nil_or_concat (segments ps) with hnil | ⟨ss, s, hss⟩
  · rw [hnil] at h
    simp [Writing.values] at h
  rw [hss, List.concat_eq_append, Writing.values_append] at h
  have hnode : s.node (o + byteWidth (segmentWriting.texts ss)) = n :=
    (List.cons.inj (List.append_inj_right' h rfl)).1
  subst hnode
  cases s with
  | running g gs => cases hn
  | token t =>
    refine ⟨ss.flatMap Segment.pieces, t, ?_, Token.inBraces_of_braced hn⟩
    rw [← hpieces, hss, List.concat_eq_append, List.flatMap_append]
    rfl

/-- After a token in braces anything may follow. -/
theorem fit_after_braces [Pattern.Engine] {qs : List (Piece Token)} {t : Token} (ht : t.InBraces)
    (h : sourceWriting.Fit (qs ++ [.token t]) []) (rest : List Char) :
    sourceWriting.Fit (qs ++ [.token t]) rest := by
  obtain ⟨w, hw⟩ := t.exists_text_dollar
  have htext : ∀ r, sourceWriting.texts [.token t] ++ r = '$' :: (w ++ r) := by
    intro r
    show (t.text ++ []) ++ r = _
    rw [hw, List.append_nil, List.cons_append]
  rw [Writing.fit_append, htext] at h ⊢
  exact ⟨fit_mono h.1 fun p hp => hp, Token.fits_of_inBraces h.2.1.1 ht _, trivial⟩

end Spelling

/-! ## The faulty token -/

/-- **A fault is that of one token.** The error of a source that does not compile names the source,
and there is a place `start` in it, before the fault, where a token in braces begins. What is before
the place is a template; what follows it has the same fault by itself, and after every template that
ends in braces. When no brace is closed after the place, this is the fault, and it is reported
there. -/
theorem compile_fault [Pattern.Engine] {source : String} {e : TemplateError}
    (h : Template.compile source = .error e) :
    ∃ f before after, e = .parse source f ∧ source = before ++ after ∧
      ['$', '{'] <+: after.toList ∧ (∃ t, Template.compile before = .ok t) ∧
      let start := byteWidth before.toList
      start ≤ f.position ∧ f.position ≤ byteWidth source.toList ∧
        Template.compile after = .error (.parse after ⟨f.position - start, f.reason⟩) ∧
        (∀ u t ns n, Template.compile u = .ok t → t.nodes = ns ++ [n] → n.braced →
          Template.compile (u ++ after) = .error (.parse (u ++ after)
            ⟨byteWidth u.toList + (f.position - start), f.reason⟩)) ∧
        ('}' ∉ after.toList → f = ⟨start, .unterminated⟩) := by
  obtain ⟨ps, w, g, hps, hsource, hg, rfl⟩ := Template.compile_eq_error_iff.1 h
  have hle := readBraced_position_le hg
  refine ⟨_, String.ofList (sourceWriting.texts ps), String.ofList ('$' :: '{' :: w), rfl, ?_, ?_,
    ?_, ?_⟩
  · rw [← String.ofList_append, ← hsource, String.ofList_toList]
  · rw [String.toList_ofList]
    exact ⟨w, rfl⟩
  · exact ⟨_, Template.compile_eq_ok_iff.2 ⟨ps, fit_cut hps, (String.toList_ofList).symm, rfl⟩⟩
  simp only [String.toList_ofList, Fault.shift, Nat.add_sub_cancel_left]
  refine ⟨Nat.le_add_right _ _, ?_, ?_, ?_, ?_⟩
  · rw [hsource, byteWidth_append]
    exact Nat.add_le_add_left (by simpa using hle) _
  · refine Template.compile_eq_error_iff.2 ⟨[], w, g, trivial, String.toList_ofList, hg, ?_⟩
    simp [Fault.shift]
  · intro u t ns n hu hns hn
    obtain ⟨qs, hqs, htexts, rfl⟩ := Template.compile_eq_ok_iff_segments.1 hu
    obtain ⟨qs, t, rfl, ht⟩ := exists_last_token hns hn
    refine Template.compile_eq_error_iff.2 ⟨_, w, g, fit_after_braces ht hqs _, ?_, hg, ?_⟩
    · rw [String.toList_append, htexts, String.toList_ofList]
    · rw [htexts, Fault.shift]
  · intro hclose
    rw [readBraced_unclosed hg hclose, Nat.add_zero]

/-- A stride in a subscript, after text of two bytes, and after a reference of four. -/
theorem compile_fault_stride :
    ∃ before after, "é$\x7ba[::1]\x7d" = before ++ after ∧
      Template.compile (before ++ after) = .error (.parse (before ++ after) ⟨7, .stride⟩) ∧
      (∃ t, Template.compile before = .ok t) ∧
      Template.compile after =
        .error (.parse after ⟨7 - byteWidth before.toList, .stride⟩) ∧
      Template.compile ("$\x7bb\x7d" ++ after) =
        .error (.parse ("$\x7bb\x7d" ++ after) ⟨4 + (7 - byteWidth before.toList), .stride⟩) := by
  have hcompile : Template.compile "é$\x7ba[::1]\x7d" =
      .error (.parse "é$\x7ba[::1]\x7d" ⟨7, .stride⟩) := by decide +kernel
  have hreference : Template.compile "$\x7bb\x7d" =
      .ok ⟨"$\x7bb\x7d", [.variable ⟨"b", none, true, ⟨0, 4⟩⟩]⟩ := by decide +kernel
  obtain ⟨f, before, after, hf, hcut, -, hbefore, -, -, hafter, hother, -⟩ := compile_fault hcompile
  cases hf
  exact ⟨before, after, hcut, hcut ▸ hcompile, hbefore, hafter,
    hother _ _ [] _ hreference rfl rfl⟩

end Stencil
