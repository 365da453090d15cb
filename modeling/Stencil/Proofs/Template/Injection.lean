import Stencil.Proofs.Template.Deferral
import Stencil.Proofs.Template.Moved
import Stencil.Standalone

/-!
# Values stay text

The values that a first stage fills in are text of the template that comes out, whatever characters
they hold. Its tokens are those of the template before it that mention a deferred name
(`tokens_deferPieces`), and the nodes that are not text are the nodes of the tokens
(`filter_values`). The main statement is `nodes_partialSubstitute`.
-/

namespace Stencil

namespace Node

def isLiteral : Node → Bool
  | .literal _ _ => true
  | _ => false

/-- The node with braces around it, if it is a reference. -/
def embrace : Node → Node
  | .variable v => .variable { v with braced := true }
  | n => n

theorem isLiteral_mapSpans (f : Span → Span) (n : Node) :
    (n.mapSpans f).isLiteral = n.isLiteral := by
  cases n <;> rfl

theorem mentionsAny_mapSpans (f : Span → Span) (n : Node) (names : List String) :
    (n.mapSpans f).mentionsAny names = n.mentionsAny names := by
  rw [mentionsAny, names_mapSpans, mentionsAny]

theorem unplaced_embrace (n : Node) : n.embrace.unplaced = n.unplaced.embrace := by
  cases n <;> rfl

theorem names_embrace (n : Node) : n.embrace.names = n.names := by
  cases n <;> rfl

theorem names_unplaced (n : Node) : n.unplaced.names = n.names :=
  n.names_mapSpans _

end Node

namespace Spelling

/-! ## The tokens of pieces -/

/-- The tokens among some pieces. -/
def tokens (ps : List (Piece Token)) : List Token :=
  ps.filterMap fun
    | .glyph _ => none
    | .token t => some t

theorem tokens_append (ps qs : List (Piece Token)) : tokens (ps ++ qs) = tokens ps ++ tokens qs :=
  List.filterMap_append

theorem tokens_glyphs (gs : List Glyph) : tokens (gs.map .glyph) = [] := by
  induction gs with
  | nil => rfl
  | cons g gs ih => exact ih

/-- Of the tokens of a template the first stage leaves those that mention a deferred name. -/
theorem tokens_deferPieces (E : Environment) (deferred : List String) (ps : List (Piece Token)) :
    tokens (deferPieces E deferred ps) =
      ((tokens ps).filter fun t => (t.node 0).mentionsAny deferred).map Token.embrace := by
  induction ps with
  | nil => rfl
  | cons p ps ih =>
    rw [deferPieces, List.flatMap_cons, ← deferPieces, tokens_append, ih]
    cases p with
    | glyph g => rfl
    | token t =>
      have hcons : tokens (.token t :: ps) = t :: tokens ps := rfl
      rw [hcons, deferPiece, List.filter_cons]
      by_cases h : (t.node 0).mentionsAny deferred
      · rw [if_pos h, if_pos h]
        rfl
      · rw [if_neg h, if_neg h, valuePieces, tokens_glyphs, List.nil_append]

/-! ## The nodes of tokens -/

theorem Token.unplaced_node [Pattern.Engine] {t : Token} (ht : t.Sound) (o : Nat) :
    (t.node o).unplaced = (t.node 0).unplaced := by
  have hnode := t.node_shift ht o 0
  rw [Nat.add_zero] at hnode
  rw [hnode, Node.shift, Node.unplaced_mapSpans]

theorem Token.unplaced_embrace (t : Token) :
    (t.embrace.node 0).unplaced = (t.node 0).unplaced.embrace := by
  rcases t with (name | s) | ⟨s, x⟩ | ⟨name, x⟩ <;> rfl

/-- A choice among nodes that holds of no text and does not look at places is a choice among
tokens. -/
theorem filter_values [Pattern.Engine] (choose : Node → Bool)
    (hliteral : ∀ text span, choose (.literal text span) = false)
    (hplace : ∀ n f, choose (Node.mapSpans f n) = choose n) (ss : List Segment)
    (hsound : ∀ t, .token t ∈ ss.flatMap Segment.pieces → t.Sound) (o : Nat) :
    ((segmentWriting.values o ss).filter choose).map Node.unplaced =
      ((tokens (ss.flatMap Segment.pieces)).filter fun t => choose (t.node 0)).map fun t =>
        (t.node 0).unplaced := by
  induction ss generalizing o with
  | nil => rfl
  | cons s ss ih =>
    have hss := ih (fun t ht => hsound t (by
      rw [List.flatMap_cons]
      exact List.mem_append_right _ ht)) (o + byteWidth s.text)
    rw [List.flatMap_cons, tokens_append]
    show ((s.node o :: segmentWriting.values (o + byteWidth s.text) ss).filter choose).map _ = _
    cases s with
    | running g gs =>
      rw [Segment.pieces, tokens_glyphs, List.nil_append, ← hss]
      exact congrArg _ (List.filter_cons_of_neg (by rw [Segment.node, hliteral]; simp))
    | token t =>
      have ht : t.Sound := hsound t (by simp [Segment.pieces])
      have htoken : tokens (Segment.token t).pieces = [t] := rfl
      have hchoose : choose (t.node o) = choose (t.node 0) := by
        rw [← hplace (t.node o) fun _ => .zero, ← hplace (t.node 0) fun _ => .zero]
        exact congrArg choose (t.unplaced_node ht o)
      rw [htoken, List.singleton_append, Segment.node, List.filter_cons, List.filter_cons, hchoose]
      by_cases h : choose (t.node 0)
      · rw [if_pos h, if_pos h, List.map_cons, hss, List.map_cons, t.unplaced_node ht]
      · rw [if_neg h, if_neg h, hss]

end Spelling

open Spelling

/-! ## Names -/

theorem flatMap_names_filter (ns : List Node) :
    (ns.filter fun n => !n.isLiteral).flatMap Node.names = ns.flatMap Node.names := by
  induction ns with
  | nil => rfl
  | cons n ns ih =>
    cases n with
    | literal text span => exact ih
    | _ => exact congrArg (_ ++ ·) ih

/-- Nodes without names expand to one text, however names are looked up. -/
theorem expandNodes_nameless {m : Type → Type} [Monad m] [LawfulMonad m] {nodes : List Node}
    (h : nodes.flatMap Node.names = []) (find : String → m String) (env : Environment) :
    expandNodes find nodes = pure (expandLenient env nodes).1 := by
  have hrelated : Expansion.Related fun (α : Type) (x : m α) (y : Id α) => x = pure y.run := by
    refine ⟨fun _ => rfl, fun {α β x y f g} hx hf => ?_⟩
    rw [hx, pure_bind, hf]
    rfl
  rw [expandLenient_fst, ← expandNodes_value]
  exact expandNodes_related hrelated fun name hname => by
    rw [h] at hname
    cases hname

theorem Template.expand_nameless {p : Template} (h : p.nodes.flatMap Node.names = [])
    (E env : Environment) :
    p.safeSubstitute env = p.safeSubstitute E ∧ p.undefined env = [] ∧
      p.substitute env = .ok (p.safeSubstitute E) := by
  have hlenient : expandLenient env p.nodes = (p.safeSubstitute E, []) :=
    congrArg (fun x : StateM (List String) String => x.run [])
      (expandNodes_nameless h (lenientFind env) E)
  have htext : p.safeSubstitute env = p.safeSubstitute E := by
    rw [Template.safeSubstitute, hlenient]
  have hundefined : p.undefined env = [] := by
    rw [Template.undefined, hlenient]
  exact ⟨htext, hundefined, expandNodes_nameless h (strictFind env p.source) E⟩

/-! ## Injection -/

/-- The nodes that are not text are, after the first stage, those that mention a deferred name. -/
theorem filter_deferPieces [Pattern.Engine] {ps : List (Piece Token)}
    (hfit : sourceWriting.Fit ps []) (E : Environment) (deferred : List String) :
    ((segmentWriting.values 0 (segments (deferPieces E deferred ps))).filter fun n =>
        !n.isLiteral).map Node.unplaced =
      ((segmentWriting.values 0 (segments ps)).filter fun n => n.mentionsAny deferred).map fun n =>
        n.embrace.unplaced := by
  have hafter := filter_values (fun n => !n.isLiteral) (fun _ _ => rfl)
    (fun n f => by rw [n.isLiteral_mapSpans]) (segments (deferPieces E deferred ps)) (by
      rw [flatMap_pieces_segments]
      exact fun t => Token.sound_of_fit (fit_deferPieces E deferred hfit)) 0
  have hbefore := filter_values (fun n => n.mentionsAny deferred) (fun _ _ => rfl)
    (fun n f => n.mentionsAny_mapSpans f _) (segments ps) (by
      rw [flatMap_pieces_segments]
      exact fun t => Token.sound_of_fit hfit) 0
  have hall : (tokens (deferPieces E deferred ps)).filter (fun t => !(t.node 0).isLiteral) =
      tokens (deferPieces E deferred ps) :=
    List.filter_eq_self.2 fun t _ => by cases t <;> rfl
  rw [flatMap_pieces_segments] at hafter hbefore
  rw [hafter, hall, tokens_deferPieces, List.map_map]
  have hembrace := congrArg (List.map Node.embrace) hbefore
  rw [List.map_map, List.map_map] at hembrace
  calc _ = _ := List.map_congr_left fun t _ => t.unplaced_embrace
    _ = _ := hembrace.symm
    _ = _ := List.map_congr_left fun n _ => n.unplaced_embrace.symm

/-- **Values cannot become tokens.** -/
theorem nodes_partialSubstitute [Pattern.Engine] {source : String} {t : Template}
    (h : Template.compile source = .ok t) (E : Environment) (deferred : List String) :
    ∃ p, Template.compile (t.partialSubstitute E deferred) = .ok p ∧
      (p.nodes.filter fun n => !n.isLiteral).map Node.unplaced =
        (t.nodes.filter fun n => n.mentionsAny deferred).map (fun n => n.embrace.unplaced) ∧
      p.variableNames =
        Environment.distinct ((t.nodes.filter fun n => n.mentionsAny deferred).flatMap Node.names) ∧
      ((∀ n ∈ t.nodes, n.mentionsAny deferred = false) →
        p.variableNames = [] ∧
        ∀ env, p.safeSubstitute env = t.safeSubstitute E ∧ p.undefined env = [] ∧
          p.substitute env = .ok (t.safeSubstitute E)) := by
  obtain ⟨ps, hfit, htexts, rfl⟩ := Template.compile_eq_ok_iff_segments.1 h
  have hnodes := filter_deferPieces hfit E deferred
  have hnames := congrArg (List.flatMap Node.names) hnodes
  simp only [List.flatMap_map, Node.names_unplaced, Node.names_embrace] at hnames
  rw [flatMap_names_filter] at hnames
  refine ⟨_, Template.compile_partialSubstitute hfit htexts E deferred, hnodes,
    congrArg Environment.distinct hnames, fun hnone => ?_⟩
  rw [List.filter_eq_nil_iff.2 fun n hn => by simpa using hnone n hn, List.flatMap_nil] at hnames
  refine ⟨congrArg Environment.distinct hnames, fun env => ?_⟩
  rw [← Template.safeSubstitute_deferPieces (fun name _ => rfl) source _ ps]
  exact Template.expand_nameless hnames E env

/-- A value that looks like a token stands beside a deferred one. -/
theorem nodes_partialSubstitute_braces :
    ∃ t p, Template.compile "$a$b" = .ok t ∧
      Template.compile (t.partialSubstitute (Environment.empty.declareGlobal "a" "$\x7bx\x7d\\")
        ["b"]) = .ok p ∧
      (p.nodes.filter fun n => !n.isLiteral).map Node.unplaced =
        [.variable ⟨"b", none, true, .zero⟩] ∧
      p.variableNames = ["b"] := by
  have hcompile : Template.compile "$a$b" = .ok ⟨"$a$b",
      [.variable ⟨"a", none, false, ⟨0, 2⟩⟩, .variable ⟨"b", none, false, ⟨2, 4⟩⟩]⟩ := by
    decide +kernel
  obtain ⟨p, hp, hnodes, hnames, -⟩ := nodes_partialSubstitute hcompile
    (Environment.empty.declareGlobal "a" "$\x7bx\x7d\\") ["b"]
  exact ⟨_, p, hcompile, hp, hnodes.trans (by decide), hnames.trans (by decide)⟩

end Stencil
