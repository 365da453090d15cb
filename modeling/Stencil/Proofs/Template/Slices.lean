import Stencil.Proofs.Spelling.Segments
import Stencil.Proofs.Template.Lookups
import Stencil.Proofs.Template.Moved
import Stencil.Standalone

/-!
# Slices of a template

The nodes of a template tile its source, and a cut between two of them cuts nothing else: the text
of a run of nodes is a template of its own, with these nodes moved to its start. So a run of nodes
expands to what that template expands to, and the runs that a template is cut into expand, one after
the other, to what the whole expands to. The main statement is `compile_slice`.
-/

namespace Stencil

/-- The nodes lie one after the other from the byte `a` to the byte `b`, with no gap between them,
and none of them is empty. -/
def Tiles : Nat → List Node → Nat → Prop
  | a, [], b => a = b
  | a, n :: ns, b => n.span.start = a ∧ a < n.span.stop ∧ Tiles n.span.stop ns b

theorem Tiles.le {a b : Nat} {ns : List Node} (h : Tiles a ns b) : a ≤ b := by
  induction ns generalizing a with
  | nil => exact Nat.le_of_eq h
  | cons n ns ih =>
    have hrest := ih h.2.2
    have hlt := h.2.1
    omega

theorem Tiles.eq_nil {a : Nat} {ns : List Node} (h : Tiles a ns a) : ns = [] := by
  cases ns with
  | nil => rfl
  | cons n ns =>
    have hlt := h.2.1
    have hle := h.2.2.le
    omega

namespace Spelling

variable [Pattern.Engine]

/-! ## Segments and their places -/

theorem Segment.byteWidth_pos (s : Segment) : 0 < byteWidth s.text := by
  obtain ⟨a, w, hw⟩ : ∃ a w, s.text = a :: w := by
    cases s with
    | running g gs => cases g <;> exact ⟨_, _, rfl⟩
    | token t =>
      obtain ⟨w, hw⟩ := t.exists_text_dollar
      exact ⟨'$', w, by rw [text_token, hw]⟩
  have hpos := a.utf8Size_pos
  rw [hw, byteWidth_cons]
  omega

theorem tiles_values (o : Nat) (ss : List Segment) :
    Tiles o (segmentWriting.values o ss) (o + byteWidth (segmentWriting.texts ss)) := by
  induction ss generalizing o with
  | nil => rfl
  | cons s ss ih =>
    have hspan : (segmentWriting.value o s).span = ⟨o, o + byteWidth s.text⟩ := s.span_node o
    have hpos := s.byteWidth_pos
    rw [Writing.values, Tiles, hspan, Writing.texts_cons, byteWidth_append, ← Nat.add_assoc]
    exact ⟨rfl, Nat.lt_add_of_pos_right hpos, ih _⟩

theorem Segment.node_shift {s : Segment} (hs : ∀ t, .token t ∈ s.pieces → t.Sound) (k o : Nat) :
    s.node (k + o) = (s.node o).shift k := by
  cases s with
  | running g gs =>
    show Node.literal _ ⟨k + o, k + o + _⟩ = .literal _ ⟨k + o, k + (o + _)⟩
    rw [Nat.add_assoc]
  | token t => exact t.node_shift (hs t (List.mem_singleton.2 rfl)) k o

theorem values_shift {ss : List Segment} (h : ∀ t, .token t ∈ ss.flatMap Segment.pieces → t.Sound)
    (k o : Nat) :
    segmentWriting.values (k + o) ss = (segmentWriting.values o ss).map (Node.shift k) := by
  induction ss generalizing o with
  | nil => rfl
  | cons s ss ih =>
    have hs : s.node (k + o) = (s.node o).shift k :=
      s.node_shift (fun t ht => h t (by simp [ht])) k o
    have hss := ih (fun t ht => h t (by
      rw [List.flatMap_cons]
      exact List.mem_append_right _ ht)) (o + byteWidth s.text)
    rw [← Nat.add_assoc] at hss
    exact congrArg₂ List.cons hs hss

/-- A node of a source lies between the segments before it and those after it. -/
theorem span_getElem_values (ss : List Segment) (i : Nat)
    (hi : i < (segmentWriting.values 0 ss).length) :
    (segmentWriting.values 0 ss)[i].span =
      ⟨byteWidth (segmentWriting.texts (ss.take i)),
        byteWidth (segmentWriting.texts (ss.take (i + 1)))⟩ := by
  have hss : i < ss.length := by simpa using hi
  have hget := segmentWriting.getElem?_values 0 i ss
  rw [List.getElem?_eq_getElem hi, List.getElem?_eq_getElem hss] at hget
  rw [Option.some.inj hget, List.take_add_one, List.getElem?_eq_getElem hss, Writing.texts_append,
    byteWidth_append, Nat.zero_add]
  have hspan : ∀ o, (segmentWriting.value o ss[i]).span =
      ⟨o, o + byteWidth (segmentWriting.text ss[i])⟩ := fun o => Segment.span_node o ss[i]
  simpa using hspan _

/-! ## Runs of segments -/

/-- The text of a run of segments is read as them, up to their place. -/
theorem compile_run {source : String} {ps : List (Piece Token)} (hfit : sourceWriting.Fit ps [])
    (htexts : sourceWriting.texts ps = source.toList) {as ms bs : List Segment}
    (hcut : segments ps = as ++ (ms ++ bs)) :
    let start := byteWidth (segmentWriting.texts as)
    ∃ p, Template.compile
        ((⟨start, start + byteWidth (segmentWriting.texts ms)⟩ : Span).slice source) = .ok p ∧
      p.nodes.map (Node.shift start) = segmentWriting.values start ms := by
  have hpieces : ps = as.flatMap Segment.pieces ++
      (ms.flatMap Segment.pieces ++ bs.flatMap Segment.pieces) := by
    rw [← List.flatMap_append, ← List.flatMap_append, ← hcut, flatMap_pieces_segments]
  have hsource : source.toList = segmentWriting.texts as ++
      (segmentWriting.texts ms ++ segmentWriting.texts bs) := by
    rw [← htexts, ← texts_segments, hcut, Writing.texts_append, Writing.texts_append]
  have hms : sourceWriting.Fit (ms.flatMap Segment.pieces) [] := by
    rw [hpieces, Writing.fit_append, Writing.fit_append] at hfit
    exact fit_cut hfit.2.1
  have hapart : ms.IsChain Segment.Apart :=
    (hcut ▸ isChain_segments ps).right_of_append.left_of_append
  have hsound : ∀ t, .token t ∈ ms.flatMap Segment.pieces → t.Sound :=
    fun t => Token.sound_of_fit hms
  have hcompile : Template.compile (String.ofList (segmentWriting.texts ms)) =
      .ok ⟨String.ofList (segmentWriting.texts ms), segmentWriting.values 0 ms⟩ := by
    refine Template.compile_eq_ok_iff_segments.2 ⟨ms.flatMap Segment.pieces, hms, ?_, ?_⟩
    · rw [String.toList_ofList, texts_flatMap_pieces]
    · rw [segments_flatMap_pieces hapart]
  dsimp only
  rw [Span.slice_append _ _ _ _ hsource]
  exact ⟨_, hcompile, (values_shift hsound _ 0).symm⟩

end Spelling

open Spelling

/-! ## Ranges of nodes -/

/-- A run of nodes expands to what they expand to at another place. -/
theorem evaluate_shift {p : Template} {k : Nat} {ns : List Node}
    (h : p.nodes.map (Node.shift k) = ns) (env : Environment) (template : String) :
    evaluate env template false ns = (.ok (p.safeSubstitute env), p.undefined env) := by
  have hexpand : expandLenient env ns = expandLenient env p.nodes := by
    unfold expandLenient
    rw [← h, Node.shift, expandNodes_mapSpans]
  rw [evaluate_lenient, hexpand]
  rfl

theorem join_flatten (f : Node → String) (parts : List (List Node)) :
    String.join (parts.map fun part => String.join (part.map f)) =
      String.join (parts.flatten.map f) := by
  induction parts with
  | nil => rfl
  | cons part parts ih =>
    rw [List.map_cons, String.join_cons, ih, List.flatten_cons, List.map_append, String.join_append]

/-- **A template can be cut between its nodes.** -/
theorem compile_slice [Pattern.Engine] {source : String} {t : Template}
    (h : Template.compile source = .ok t) :
    Tiles 0 t.nodes (byteWidth source.toList) ∧ (source = "" → t.nodes = []) ∧
      (∀ i j, (hij : i ≤ j) → (hj : j < t.nodes.length) →
        ∃ p, Template.compile
            ((⟨t.nodes[i].span.start, t.nodes[j].span.stop⟩ : Span).slice source) = .ok p ∧
          p.nodes.map (Node.shift t.nodes[i].span.start) = t.nodes.extract i (j + 1) ∧
          ∀ env template, evaluate env template false (t.nodes.extract i (j + 1)) =
            (.ok (p.safeSubstitute env), p.undefined env)) ∧
      ∀ env template (parts : List (List Node)), parts.flatten = t.nodes →
        ∃ texts, parts.map (fun part => (evaluate env template false part).1) = texts.map .ok ∧
          String.join texts = t.safeSubstitute env := by
  obtain ⟨ps, hfit, htexts, rfl⟩ := Template.compile_eq_ok_iff_segments.1 h
  have htiles := tiles_values 0 (segments ps)
  rw [texts_segments, htexts, Nat.zero_add] at htiles
  refine ⟨htiles, ?_, ?_, ?_⟩
  · rintro rfl
    exact htiles.eq_nil
  · intro i j hij hj
    have hi : i < (segmentWriting.values 0 (segments ps)).length := Nat.lt_of_le_of_lt hij hj
    have htake : (segments ps).take (j + 1) =
        (segments ps).take i ++ ((segments ps).drop i).take (j + 1 - i) := by
      rw [← List.take_add, Nat.add_sub_cancel' (by omega)]
    have hcut : segments ps = (segments ps).take i ++
        (((segments ps).drop i).take (j + 1 - i) ++ (segments ps).drop (j + 1)) := by
      rw [← List.append_assoc, ← htake, List.take_append_drop]
    have hrange : (segmentWriting.values 0 (segments ps)).extract i (j + 1) =
        segmentWriting.values (byteWidth (segmentWriting.texts ((segments ps).take i)))
          (((segments ps).drop i).take (j + 1 - i)) := by
      rw [List.extract_eq_take_drop, Writing.drop_values, Writing.take_values, Nat.zero_add]
    obtain ⟨p, hp, hnodes⟩ := compile_run hfit htexts hcut
    rw [← byteWidth_append, ← Writing.texts_append, ← htake] at hp
    rw [hrange, span_getElem_values _ i hi, span_getElem_values _ j hj]
    exact ⟨p, hp, hnodes, evaluate_shift hnodes⟩
  · intro env template parts hparts
    refine ⟨parts.map fun part => (expandLenient env part).1, ?_, ?_⟩
    · rw [List.map_map]
      exact List.map_congr_left fun part _ => by rw [evaluate_lenient]; rfl
    · simp only [expandLenient_fst]
      rw [join_flatten, hparts, ← expandLenient_fst]
      rfl

/-- Two references cut out of a source, from its second byte on. -/
theorem compile_slice_references :
    ∃ t p, Template.compile "é$a$\x7bb\x7d." = .ok t ∧ Template.compile "$a$\x7bb\x7d" = .ok p ∧
      p.nodes.map (Node.shift 2) = t.nodes.extract 1 3 ∧
      ∀ env, p.safeSubstitute env = (expandLenient env (t.nodes.extract 1 3)).1 := by
  have hcompile : Template.compile "é$a$\x7bb\x7d." = .ok ⟨"é$a$\x7bb\x7d.",
      [.literal "é" ⟨0, 2⟩, .variable ⟨"a", none, false, ⟨2, 4⟩⟩,
        .variable ⟨"b", none, true, ⟨4, 8⟩⟩, .literal "." ⟨8, 9⟩]⟩ := by decide +kernel
  obtain ⟨-, -, hslice, -⟩ := compile_slice hcompile
  obtain ⟨p, hp, hnodes, hexpand⟩ := hslice 1 2 (by decide) (by decide)
  have htext : (⟨2, 8⟩ : Span).slice "é$a$\x7bb\x7d." = "$a$\x7bb\x7d" := by decide +kernel
  refine ⟨_, p, hcompile, htext ▸ hp, hnodes, fun env => ?_⟩
  have houtcome := congrArg Prod.fst (hexpand env "")
  rw [evaluate_lenient] at houtcome
  exact (Except.ok.inj houtcome).symm

end Stencil
