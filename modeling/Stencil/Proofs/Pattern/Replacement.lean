import Stencil.Proofs.Pattern.Matches
import Stencil.Proofs.Spelling.Segments
import Stencil.Proofs.Template.Expansion
import Stencil.Standalone

/-!
# What an edit replaces

The matches of a subject cut it into the matched texts and the gaps before, between and after them.
An edit keeps the gaps and puts other texts between them: the text of a part as it is, and of a
group what the group matched. `weave_gaps` says that gaps and matched texts are the subject, and
`splice_eq_weave` that gaps and replacements are what the edit gives. The main statement is
`edit_replaces_matches`.
-/

namespace Stencil

namespace Pattern

/-! ## Gaps and texts -/

/-- The gaps before, between and after matches, from the place `a` on. -/
def gaps (subject : List Char) : Nat → List Match → List (List Char)
  | a, [] => [subject.drop a]
  | a, m :: ms => between subject a m.start :: gaps subject m.stop ms

/-- Gaps with texts between them. -/
def weave : List (List Char) → List (List Char) → List Char
  | g :: gs, t :: ts => g ++ (t ++ weave gs ts)
  | gs, _ => gs.flatten

/-- The text of a match. -/
def Match.text (subject : List Char) (m : Match) : List Char :=
  between subject m.start m.stop

/-- What a part puts in for a match: its own text, or the text of a group, if the group took
part. -/
def Part.textIn (subject : List Char) (m : Match) : Part → List Char
  | .text s => s.toList
  | .group n => ((m.group? n).map fun range => between subject range.1 range.2).getD []

/-- What the parts put in for a match. -/
def Match.replacement (subject : List Char) (parts : List Part) (m : Match) : List Char :=
  parts.flatMap (Part.textIn subject m)

variable {subject : List Char}

theorem between_append_drop {a b : Nat} (h : a ≤ b) :
    between subject a b ++ subject.drop b = subject.drop a := by
  have hcut := List.take_append_drop (b - a) (subject.drop a)
  rw [List.drop_drop, Nat.add_sub_cancel' h] at hcut
  rw [between, List.drop_take]
  exact hcut

/-- Gaps with the matched texts between them are the subject. -/
theorem weave_gaps {a : Nat} {ms : List Match} (h : Succeed a ms subject.length) :
    weave (gaps subject a ms) (ms.map (Match.text subject)) = subject.drop a := by
  induction ms generalizing a with
  | nil => simp [gaps, weave]
  | cons m ms ih =>
    obtain ⟨hstart, hstop, -, hrest⟩ := h
    rw [gaps, List.map_cons, weave, ih hrest, Match.text, between_append_drop hstop,
      between_append_drop hstart]

/-! ## Splicing -/

theorem between_drop {a i j : Nat} (hi : a ≤ i) (hj : a ≤ j) :
    between (subject.drop a) (i - a) (j - a) = between subject i j := by
  rw [between, between, List.take_drop, List.drop_drop, Nat.add_sub_cancel' hi,
    Nat.add_sub_cancel' hj]

theorem Match.start_le_of_group? {m : Match} (hle : m.start ≤ m.stop) (hgroups : m.HoldsGroups)
    {n i j : Nat} (h : m.group? n = some (i, j)) : m.start ≤ i ∧ m.start ≤ j := by
  cases n with
  | zero =>
    cases h
    exact ⟨Nat.le_refl _, hle⟩
  | succ n =>
    have hmem : some (i, j) ∈ m.groups :=
      List.mem_of_getElem? (Option.join_eq_some_iff.1 h)
    exact ⟨(hgroups i j hmem).1.1, (hgroups i j hmem).2.1⟩

/-- Behind the place where the subject was cut, a part puts in the same text. -/
theorem Part.fill_eq_text {a : Nat} {m : Match} (ha : a ≤ m.start) (hle : m.start ≤ m.stop)
    (hgroups : m.HoldsGroups) (part : Part) :
    part.fill (subject.drop a) a m = part.textIn subject m := by
  cases part with
  | text s => rfl
  | group n =>
    rw [fill, textIn]
    cases h : m.group? n with
    | none => rfl
    | some range =>
      obtain ⟨i, j⟩ := range
      obtain ⟨hi, hj⟩ := Match.start_le_of_group? hle hgroups h
      exact between_drop (Nat.le_trans ha hi) (Nat.le_trans ha hj)

/-- Splicing keeps the gaps and puts the replacements between them. -/
theorem splice_eq_weave {parts : List Part} {a : Nat} {ms : List Match}
    (h : Succeed a ms subject.length) :
    splice parts a (subject.drop a) ms =
      weave (gaps subject a ms) (ms.map (Match.replacement subject parts)) := by
  induction ms generalizing a with
  | nil => simp [splice, gaps, weave]
  | cons m ms ih =>
    obtain ⟨hstart, hstop, hgroups, hrest⟩ := h
    have hgap : (subject.drop a).take (m.start - a) = between subject a m.start := by
      rw [between, List.drop_take]
    have hdrop : (subject.drop a).drop (m.stop - a) = subject.drop m.stop := by
      rw [List.drop_drop, Nat.add_sub_cancel' (Nat.le_trans hstart hstop)]
    have hfill : Part.fill (subject.drop a) a m = Part.textIn subject m :=
      funext (Part.fill_eq_text hstart hstop hgroups)
    rw [splice, hgap, hdrop, hfill, ih hrest]
    rfl

theorem replacement_whole (m : Match) : m.replacement subject [.group 0] = m.text subject :=
  List.append_nil _

/-- The matches that are replaced. -/
def chosen (p : Pattern) (everywhere : Bool) (subject : List Char) : List Match :=
  if everywhere then p.findAll subject else (p.findAll subject).take 1

theorem succeed_chosen (p : Pattern) (everywhere : Bool) (subject : List Char) :
    Succeed 0 (p.chosen everywhere subject) subject.length := by
  cases everywhere with
  | true => exact succeed_findAll p subject
  | false => exact (succeed_findAll p subject).take 1

theorem replace_eq_weave (p : Pattern) (everywhere : Bool) (parts : List Part) (subject : String) :
    p.replace everywhere parts subject =
      String.ofList (weave (gaps subject.toList 0 (p.chosen everywhere subject.toList))
        ((p.chosen everywhere subject.toList).map
          (Match.replacement subject.toList parts))) := by
  rw [← splice_eq_weave (p.succeed_chosen everywhere subject.toList)]
  rfl

theorem weave_gaps_chosen (p : Pattern) (everywhere : Bool) (subject : List Char) :
    weave (gaps subject 0 (p.chosen everywhere subject))
      ((p.chosen everywhere subject).map (Match.text subject)) = subject :=
  weave_gaps (p.succeed_chosen everywhere subject)

/-- The whole match put in for each match leaves the subject as it is. -/
theorem replace_whole (p : Pattern) (everywhere : Bool) (subject : String) :
    p.replace everywhere [.group 0] subject = subject := by
  rw [replace_eq_weave, funext replacement_whole, weave_gaps_chosen, String.ofList_toList]

theorem replace_eq_self {p : Pattern} {subject : String} (h : p.findAll subject.toList = [])
    (everywhere : Bool) (parts : List Part) : p.replace everywhere parts subject = subject := by
  have hchosen : p.chosen everywhere subject.toList = [] := by
    rw [chosen, h]
    exact ite_self _
  rw [replace_eq_weave, hchosen]
  simp [gaps, weave]

theorem replace_congr {p : Pattern} {subject : String}
    (h : (p.findAll subject.toList).length ≤ 1) (a b : Bool) (parts : List Part) :
    p.replace a parts subject = p.replace b parts subject := by
  have hchosen : ∀ c, p.chosen c subject.toList = p.findAll subject.toList := by
    intro c
    cases c with
    | true => rfl
    | false => exact List.take_of_length_le h
  rw [replace_eq_weave, replace_eq_weave, hchosen, hchosen]

end Pattern

/-! ## Edits -/

/-- What a part of a replacement stands for: the value of a variable is put in as a text, whatever
characters it holds. -/
def Chunk.resolve (env : Environment) : Chunk Filler → Pattern.Part
  | .text s => .text s
  | .token (.group n) => .group n
  | .token (.variable v) => .text ((Node.variable v).value env)

theorem expandFillers_value (env : Environment) (parts : List (Chunk Filler)) :
    Id.run (expandFillers (fun name => pure (env.value name)) parts) =
      parts.map (Chunk.resolve env) := by
  induction parts with
  | nil => rfl
  | cons part parts ih =>
    rw [List.map_cons, ← ih]
    rcases part with s | n | v <;> rfl

theorem Edit.value_eq (env : Environment) (e : Edit) :
    (Node.edit e).value env =
      e.apply ((Node.variable e.subject).value env) (e.replacement.map (Chunk.resolve env)) := by
  rw [← expandFillers_value]
  rfl

/-- The pattern of a compiled edit is a pattern. -/
theorem Edit.exists_pattern [Pattern.Engine] {source : String} {t : Template} {e : Edit}
    (h : Template.compile source = .ok t) (he : .edit e ∈ t.nodes) :
    ∃ p, Pattern.ofText? e.ignoreCase e.pattern = some p := by
  rcases Template.exists_token h he with ⟨text, span, hn⟩ | ⟨u, tok, w, -, htok, -, hn⟩
  · cases hn
  rcases tok with r | ⟨s, x⟩ | ⟨name, x⟩
  · cases hn
  · cases hn
  · cases hn
    obtain ⟨p, hp, -⟩ := htok.2.accepted
    exact ⟨p, hp⟩

open Pattern in
/-- **An edit replaces matches and nothing else.** -/
theorem edit_replaces_matches [Pattern.Engine] {source : String} {t : Template} {e : Edit}
    (h : Template.compile source = .ok t) (he : .edit e ∈ t.nodes) :
    ∃ p, Pattern.ofText? e.ignoreCase e.pattern = some p ∧
      (∀ (subject : String) (parts : List Part),
        let cs := subject.toList
        let found := p.findAll cs
        let ms := if e.replaceAll then found else found.take 1
        (Succeed 0 found cs.length ∧ found.Pairwise fun m m' => m.start < m'.start) ∧
        weave (gaps cs 0 ms) (ms.map (Match.text cs)) = cs ∧
        e.apply subject parts =
          String.ofList (weave (gaps cs 0 ms) (ms.map (Match.replacement cs parts))) ∧
        (found = [] → e.apply subject parts = subject) ∧
        (found.length ≤ 1 → ∀ all, { e with replaceAll := all }.apply subject parts =
          e.apply subject parts) ∧
        e.apply subject [.group 0] = subject) ∧
      (∀ env, (Node.edit e).value env = e.apply ((Node.variable e.subject).value env)
        (e.replacement.map (Chunk.resolve env))) ∧
      (e.replacement = [.token (.group 0)] → ∀ env,
        (Node.edit e).value env = (Node.variable e.subject).value env) := by
  obtain ⟨p, hp⟩ := Edit.exists_pattern h he
  have happly : ∀ all subject parts, { e with replaceAll := all }.apply subject parts =
      p.replace all parts subject := by
    intro all subject parts
    rw [Edit.apply, Pattern.read?_of_ofText? hp]
  have hself : ∀ subject parts, e.apply subject parts = p.replace e.replaceAll parts subject :=
    happly e.replaceAll
  refine ⟨p, hp, fun subject parts => ⟨⟨succeed_findAll p _, pairwise_matchesFrom _⟩,
    weave_gaps_chosen p e.replaceAll _, ?_, fun hnone => ?_, fun hone all => ?_, ?_⟩,
    fun env => e.value_eq env, fun hwhole env => ?_⟩
  · rw [hself]
    exact replace_eq_weave p e.replaceAll parts subject
  · rw [hself, replace_eq_self hnone]
  · rw [happly, hself, replace_congr hone]
  · rw [hself, replace_whole]
  · rw [e.value_eq, hwhole, hself]
    exact replace_whole p _ _

/-- An optional group and a value with a dollar sign in it. -/
theorem edit_replaces_matches_optional :
    ∃ t e, Template.compile "$\x7ba/(é)?b/[$1$c]/g\x7d" = .ok t ∧ Node.edit e ∈ t.nodes ∧
      (∀ subject, e.apply subject [.group 0] = subject) ∧
      (Node.edit e).value
        ((Environment.empty.declareGlobal "a" "ébcb").declareGlobal "c" "$0") = "[é$0]c[$0]" := by
  let e : Edit := ⟨⟨"a", none, true, ⟨2, 3⟩⟩, .slash, "(é)?b",
    [.text "[", .token (.group 1), .token (.variable ⟨"c", none, false, ⟨14, 16⟩⟩), .text "]"],
    false, true, ⟨0, 20⟩⟩
  have hcompile : Template.compile "$\x7ba/(é)?b/[$1$c]/g\x7d" =
      .ok ⟨"$\x7ba/(é)?b/[$1$c]/g\x7d", [.edit e]⟩ := by decide +kernel
  obtain ⟨p, -, happly, hvalue, -⟩ := edit_replaces_matches hcompile List.mem_cons_self
  refine ⟨_, e, hcompile, List.mem_cons_self, fun subject => ?_, ?_⟩
  · exact (happly subject []).2.2.2.2.2
  · rw [hvalue]
    decide +kernel

end Stencil
