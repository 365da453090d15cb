import Stencil.Pattern.Splice
import Stencil.Proofs.Pattern.Runs

/-!
# Patterns of plain characters

Most characters stand for themselves in a pattern. A text of such characters is a pattern that
matches this text alone (`matchAt_literal`). So replacing every match is replacing every occurrence
of the text, from left to right and none over another, which `replaceAll` does with no pattern at
all. The main statements are `ofText?_plain`, for how the pattern is read, and `replace_literal`,
for what it replaces.
-/

namespace Stencil.Pattern

/-! ## Reading plain characters -/

/-- The characters that do not stand for themselves. -/
def metaCharacters : List Char :=
  ['(', ')', '|', '[', '?', '*', '+', '{', '\\', '.', '^', '$']

def IsPlain (c : Char) : Prop :=
  c ∉ metaCharacters

theorem IsPlain.ne_bar {c : Char} (hc : IsPlain c) : c ≠ '|' := by
  rintro rfl
  simp [IsPlain, metaCharacters] at hc

theorem piece?_plain {r : Draft} {c : Char} (hc : IsPlain c) (cs : List Char) :
    piece? r (c :: cs) = some (r.pushLiteral c, cs) := by
  simp only [piece?]
  split <;> first | rfl | simp [IsPlain, metaCharacters] at hc

/-- What a plain character or a bar adds to a draft. -/
def Draft.readPlain (r : Draft) (c : Char) : Draft :=
  if c = '|' then r.bar else r.pushExpr (.char c)

theorem Draft.flags_readPlain (r : Draft) (c : Char) : (r.readPlain c).flags = r.flags := by
  unfold readPlain
  split_ifs <;> rfl

/-- Plain characters and bars are read one by one. -/
theorem pieces?_plain {w : List Char} (hw : ∀ c ∈ w, IsPlain c ∨ c = '|') {r : Draft}
    (hcase : r.flags.ignoreCase = false) (hverbose : r.flags.verbose = false) :
    pieces? w.length r w = some (w.foldl Draft.readPlain r) := by
  induction w generalizing r with
  | nil => simp [pieces?, skipSpace, hverbose]
  | cons c cs ih =>
    obtain ⟨hc, hcs⟩ := List.forall_mem_cons.1 hw
    have hpiece : piece? r (c :: cs) = some (r.readPlain c, cs) := by
      rcases hc with hc | rfl
      · rw [piece?_plain hc, Draft.pushLiteral, hcase, Draft.readPlain, if_neg hc.ne_bar]
        rfl
      · rfl
    have hskip : skipSpace r.flags.verbose (c :: cs) = c :: cs := by
      rw [hverbose]
      rfl
    have hflags := r.flags_readPlain c
    rw [List.length_cons, pieces?, hskip]
    simp only [hpiece]
    exact ih hcs (by rw [hflags, hcase]) (by rw [hflags, hverbose])

/-- The draft of a pattern before anything is read. -/
def Draft.start : Draft :=
  ⟨{}, ⟨none, {}, [], []⟩, [], 0, []⟩

/-- The expression of a text whose draft is known. -/
theorem Expr.read?_of_pieces {w : List Char} {r : Draft}
    (hread : pieces? w.length .start w = some r) (hstack : r.stack = []) :
    Expr.read? false w =
      if r.level.finish.depth ≤ maxDepth then some (r.level.finish.expr?.getD .empty)
      else none := by
  have hread' : pieces? w.length ⟨{ ignoreCase := false }, ⟨none, { ignoreCase := false }, [], []⟩,
      [], 0, []⟩ w = some r := hread
  unfold Expr.read? guard
  simp only [hread']
  by_cases hdepth : r.level.finish.depth ≤ maxDepth <;> simp [hdepth, hstack]

/-- The draft of a character. -/
def literalItem (c : Char) : Item :=
  ⟨some (.char c), 0⟩

theorem foldl_readPlain {w : List Char} (hw : ∀ c ∈ w, IsPlain c) (r : Draft) :
    w.foldl Draft.readPlain r =
      { r with
        level := { r.level with items := (w.map literalItem).reverse ++ r.level.items } } := by
  induction w generalizing r with
  | nil => rfl
  | cons c cs ih =>
    obtain ⟨hc, hcs⟩ := List.forall_mem_cons.1 hw
    rw [List.foldl_cons, ih hcs, Draft.readPlain, if_neg hc.ne_bar]
    simp [Draft.pushExpr, Draft.push, literalItem]

/-- The expression of some characters, one after the other. -/
def Expr.literal (w : List Char) : Expr :=
  .sequence (w.map .char)

theorem filterMap_literals (w : List Char) :
    (w.map literalItem).filterMap (·.expr?) = w.map .char := by
  rw [List.filterMap_map]
  exact congrFun List.filterMap_eq_map' w

/-- The pieces of a sequence are put one after the other. -/
theorem Item.expr?_sequence (items : List Item) :
    (Item.sequence items).expr?.getD .empty = Expr.sequence (items.filterMap (·.expr?)) := by
  rcases items with _ | ⟨i, _ | ⟨j, items⟩⟩
  · rfl
  · obtain ⟨expr?, depth⟩ := i
    cases expr? <;> rfl
  · rfl

theorem deepest_le {items : List Item} {d : Nat} (h : ∀ i ∈ items, i.depth ≤ d) :
    deepest items ≤ d := by
  refine List.foldlRecOn (motive := (· ≤ d)) items _ (Nat.zero_le d) ?_
  exact fun n hn i hi => Nat.max_le.2 ⟨hn, h i hi⟩

theorem Item.depth_sequence_le {items : List Item} {d : Nat} (h : ∀ i ∈ items, i.depth ≤ d) :
    (Item.sequence items).depth ≤ 1 + d := by
  rcases items with _ | ⟨i, _ | ⟨j, items⟩⟩
  · exact Nat.zero_le _
  · exact Nat.le_add_left_of_le (h i List.mem_cons_self)
  · exact Nat.add_le_add_left (deepest_le h) 1

/-- The pattern that matches a text and nothing else. -/
def literal (w : List Char) : Pattern :=
  .ofExpr (Expr.literal w)

/-- A text of plain characters says itself. -/
theorem Expr.read?_plain {w : List Char} (hw : ∀ c ∈ w, IsPlain c) :
    Expr.read? false w = some (Expr.literal w) := by
  have hread : pieces? w.length Draft.start w = some (w.foldl Draft.readPlain .start) :=
    pieces?_plain (fun c hc => .inl (hw c hc)) rfl rfl
  have hstack : (w.foldl Draft.readPlain .start).stack = [] := by
    rw [foldl_readPlain hw]
    rfl
  have hfinish : (w.foldl Draft.readPlain .start).level.finish =
      Item.sequence (w.map literalItem) := by
    rw [foldl_readPlain hw]
    simp [Level.finish, Draft.start, Item.choice]
  have hdepth : (Item.sequence (w.map literalItem)).depth ≤ maxDepth := by
    refine Nat.le_trans (Item.depth_sequence_le (d := 0) fun i hi => ?_) (by decide)
    obtain ⟨c, -, rfl⟩ := List.mem_map.1 hi
    exact Nat.le_refl 0
  rw [Expr.read?_of_pieces hread hstack, hfinish, if_pos hdepth, Item.expr?_sequence,
    filterMap_literals]
  rfl

/-- A text of plain characters is the pattern that matches it, if the engine has room for it. -/
theorem ofText?_plain [Engine] {w : List Char} (hw : ∀ c ∈ w, IsPlain c) :
    Pattern.ofText? false (String.ofList w) =
      if Engine.fits (Expr.literal w) then some (literal w) else none := by
  rw [Pattern.ofText?, String.toList_ofList, Expr.ofText?, Expr.read?_plain hw]
  by_cases hfits : Engine.fits (Expr.literal w) <;> simp [hfits, Option.filter, literal]

/-! ## Matching -/

theorem Expr.wordy_literal (w : List Char) : (Expr.literal w).Wordy := by
  refine .sequence fun e he => ?_
  obtain ⟨c, -, rfl⟩ := List.mem_map.1 he
  exact .char c

theorem Expr.reads_literal_iff {w v : List Char} : (Expr.literal w).Reads v ↔ v = w := by
  induction w generalizing v with
  | nil => rfl
  | cons c cs ih =>
    rw [literal, List.map_cons, Expr.reads_sequence_cons]
    constructor
    · rintro ⟨u, v, rfl, rfl, hv⟩
      rw [ih.1 hv]
      rfl
    · rintro rfl
      exact ⟨[c], cs, rfl, rfl, ih.2 rfl⟩

/-- The text matches where it stands. -/
theorem matchAt_literal {w : List Char} (before : Option Char) (position : Nat)
    (text : List Char) :
    (literal w).matchAt before position text =
      if w <+: text then some ⟨position, position + w.length, []⟩ else none := by
  have hwordy := Expr.wordy_literal w
  have hruns : ∀ {s s' : State}, s' ∈ (Expr.literal w).runs s ↔ w <+: s.rest ∧ s' = s.after w := by
    intro s s'
    simp only [hwordy.mem_runs_iff, State.Reads, Expr.reads_literal_iff, exists_eq_left]
  rw [literal, matchAt_ofExpr hwordy.flat, hwordy.groups]
  generalize hs : (⟨position, before, text, _⟩ : State) = s
  have hrest : s.rest = text := hs ▸ rfl
  have hposition : s.position = position := hs ▸ rfl
  rcases hall : (Expr.literal w).runs s with _ | ⟨s', ss⟩
  · have hw : ¬ w <+: text := fun hw =>
      List.not_mem_nil (hall ▸ hruns.2 ⟨hrest ▸ hw, rfl⟩)
    rw [if_neg hw]
    rfl
  · obtain ⟨hw, rfl⟩ := hruns.1 (hall ▸ List.mem_cons_self)
    rw [if_pos (hrest ▸ hw), ← hposition]
    rfl

theorem freshMatchAt_literal {w : List Char} (hne : w ≠ []) (before : Option Char) (position : Nat)
    (last : Option Nat) (text : List Char) :
    (literal w).freshMatchAt before position last text =
      if ¬ last.any (position < ·) ∧ w <+: text then some ⟨position, position + w.length, []⟩
      else none := by
  have hpos := List.length_pos_iff.2 hne
  have hstop : (position + w.length == position) = false := by simp [hne]
  rw [freshMatchAt, matchAt_literal]
  by_cases hlast : last.any (position < ·) <;> by_cases hw : w <+: text <;>
    simp [hlast, hw, hstop, Option.filter]

/-! ## Replacing every occurrence -/

/-- The text with each occurrence of `w` replaced by `r`, from left to right and none over another.
The first `skip` characters belong to the occurrence before. -/
def replaceFrom (w r : List Char) : (skip : Nat) → List Char → List Char
  | _, [] => []
  | skip + 1, _ :: cs => replaceFrom w r skip cs
  | 0, c :: cs =>
    if w <+: c :: cs then r ++ replaceFrom w r (w.length - 1) cs else c :: replaceFrom w r 0 cs

/-- The text with every occurrence of `w` replaced by `r`, from left to right and none over
another. -/
def replaceAll (w r text : List Char) : List Char :=
  replaceFrom w r 0 text

section

variable {w r : List Char} {parts : List Part}

/-- Splicing at the matches of a text replaces its occurrences, from a place where a match may begin
(with the characters `kept` before it), and from a place inside a match. -/
theorem splice_matchesFrom_literal (hne : w ≠ [])
    (hparts : ∀ rest position m, parts.flatMap (Part.fill rest position m) = r) (cs : List Char) :
    ∀ (before : Option Char) (position : Nat),
      (∀ (kept : List Char) (a : Nat) (last : Option Nat), a + kept.length = position →
        last.any (position < ·) = false →
        splice parts a (kept ++ cs) ((literal w).matchesFrom before position last cs) =
          kept ++ replaceFrom w r 0 cs) ∧
      ∀ skip : Nat,
        splice parts (position + skip) (cs.drop skip)
          ((literal w).matchesFrom before position (some (position + skip)) cs) =
            replaceFrom w r skip cs := by
  induction cs with
  | nil =>
    intro before position
    have hnil : ¬ w <+: [] := by simpa using hne
    refine ⟨fun kept a last ha hlast => ?_, fun skip => ?_⟩
    · simp [matchesFrom, freshMatchAt_literal hne, hnil, splice, replaceFrom]
    · simp [matchesFrom, freshMatchAt_literal hne, hnil, splice, replaceFrom]
  | cons c cs ih =>
    intro before position
    obtain ⟨hfree, hinside⟩ := ih (some c) (position + 1)
    have hstart : ∀ (kept : List Char) (a : Nat) (last : Option Nat), a + kept.length = position →
        last.any (position < ·) = false →
        splice parts a (kept ++ c :: cs) ((literal w).matchesFrom before position last (c :: cs)) =
          kept ++ replaceFrom w r 0 (c :: cs) := by
      rintro kept a last rfl hlast
      have hlast' : last.any (a + kept.length + 1 < ·) = false := by
        cases last with
        | none => rfl
        | some l =>
          simp only [Option.any_some, decide_eq_false_iff_not] at hlast ⊢
          omega
      rw [matchesFrom, freshMatchAt_literal hne, replaceFrom]
      by_cases hw : w <+: c :: cs
      · rw [if_pos ⟨by simp [hlast], hw⟩, if_pos hw]
        obtain ⟨n, hn⟩ : ∃ n, w.length = n + 1 := by
          obtain ⟨b, v, rfl⟩ := List.exists_cons_of_ne_nil hne
          exact ⟨v.length, rfl⟩
        have hfound := hinside n
        have hstop : a + kept.length + w.length = a + kept.length + 1 + n := by omega
        have hdrop : (kept ++ c :: cs).drop (a + kept.length + 1 + n - a) = cs.drop n := by
          rw [show a + kept.length + 1 + n - a = kept.length + (n + 1) by omega,
            List.drop_length_add_append]
          rfl
        have htake : (kept ++ c :: cs).take (a + kept.length - a) = kept := by
          rw [Nat.add_sub_cancel_left, List.take_left]
        dsimp only
        rw [splice, hparts, hstop, htake, hdrop, hfound, hn]
        rfl
      · rw [if_neg fun h => hw h.2, if_neg hw]
        have hmore := hfree (kept ++ [c]) a last (by simp [Nat.add_assoc]) hlast'
        simpa using hmore
    refine ⟨hstart, fun skip => ?_⟩
    cases skip with
    | zero => exact hstart [] position _ rfl (by simp)
    | succ skip =>
      have hinside' := hinside skip
      rw [Nat.add_assoc, Nat.add_comm 1] at hinside'
      rw [matchesFrom, freshMatchAt_literal hne, if_neg (by simp), replaceFrom]
      exact hinside'

/-- **Replacing a text.** Replacing every match of the pattern of a text is replacing every
occurrence of the text. -/
theorem replace_literal (hne : w ≠ [])
    (hparts : ∀ rest position m, parts.flatMap (Part.fill rest position m) = r) (subject : String) :
    (literal w).replace true parts subject = String.ofList (replaceAll w r subject.toList) := by
  have hsplice := (splice_matchesFrom_literal hne hparts subject.toList none 0).1 [] 0 none rfl rfl
  rw [replace, if_pos rfl, findAll]
  exact congrArg String.ofList hsplice

theorem replaceFrom_of_length_le {skip : Nat} {cs : List Char} (h : cs.length ≤ skip) :
    replaceFrom w r skip cs = [] := by
  induction cs generalizing skip with
  | nil => cases skip <;> rfl
  | cons c cs ih =>
    cases skip with
    | zero => cases h
    | succ skip => exact ih (Nat.le_of_succ_le_succ h)

/-- Of the text itself nothing is left. -/
theorem replaceAll_self (hne : w ≠ []) : replaceAll w r w = r := by
  obtain ⟨c, cs, rfl⟩ := List.exists_cons_of_ne_nil hne
  have hrest : replaceFrom (c :: cs) r ((c :: cs).length - 1) cs = [] :=
    replaceFrom_of_length_le (Nat.le_refl cs.length)
  rw [replaceAll, replaceFrom, if_pos List.prefix_rfl, hrest, List.append_nil]

end

end Stencil.Pattern
