import Stencil.Proofs.Pattern.Runs

/-!
# Patterns that cut a text

A pattern of the form `^(.*)(…)(…)$` says a whole text in three groups: what stands before a part,
the part, and what follows it. The first group takes as many characters as it can, so of all the
cuts that the pattern allows it makes the one that is furthest to the right. This is the main
statement, `find?_cut`.
-/

namespace Stencil.Pattern

variable {part tail : Expr} {text : List Char}

/-- Every character. -/
def CharSet.any : CharSet := .compl .none

theorem CharSet.contains_any (c : Char) : any.contains c = true := rfl

/-- Any text, a part and a tail, from the start of a text to its end. -/
def Expr.cut (part tail : Expr) : Expr :=
  .sequence [.look .textStart, .group (some 1) (.rounds 0 none true (.set .any)),
    .group (some 2) part, .group (some 3) tail, .look .textEnd]

/-- The first group of a cut. -/
def Expr.beginning : Expr :=
  .group (some 1) (.rounds 0 none true (.set .any))

/-- What comes behind the first group. -/
def Expr.ending (part tail : Expr) : Expr :=
  .sequence [.group (some 2) part, .group (some 3) tail, .look .textEnd]

/-- A text is cut before and behind a part. -/
structure Expr.Cuts (part tail : Expr) (text u w r : List Char) : Prop where
  text_eq : u ++ (w ++ r) = text
  part : part.Reads w
  tail : tail.Reads r

theorem Expr.flat_cut (hpart : part.Wordy) (htail : tail.Wordy) : (cut part tail).Flat := by
  refine .sequence ?_
  simp only [List.forall_mem_cons, List.not_mem_nil, false_imp_iff, implies_true, and_true]
  exact ⟨.look _, .group _ (.star _ _), .group _ hpart.flat, .group _ htail.flat, .look _⟩

theorem Expr.groups_cut (hpart : part.Wordy) (htail : tail.Wordy) : (cut part tail).groups = 3 := by
  simp [cut, groups, hpart.groups, htail.groups]

/-! ## Only from the start -/

theorem firstFrom?_eq_none {p : Pattern}
    (h : ∀ c position cs, p.matchAt (some c) position cs = none)
    (c : Char) (position : Nat) (cs : List Char) : p.firstFrom? (some c) position cs = none := by
  induction cs generalizing c position with
  | nil => exact h c position []
  | cons d cs ih => rw [firstFrom?, h, ih]

/-- A pattern that matches only at the start of a text is looked for there. -/
theorem find?_eq_matchAt {p : Pattern} (h : ∀ c position cs, p.matchAt (some c) position cs = none)
    (text : List Char) : p.find? text = p.matchAt none 0 text := by
  cases text with
  | nil => rfl
  | cons c cs =>
    rw [find?, firstFrom?, firstFrom?_eq_none h]
    cases p.matchAt none 0 (c :: cs) <;> rfl

theorem Expr.runs_cut (s : State) :
    (cut part tail).runs s =
      if s.before = none then (beginning.runs s).flatMap (ending part tail).runs else [] := by
  rw [cut, ending, beginning, runs_sequence_cons, runs]
  by_cases hbefore : s.before = none
  · simp only [Look.holds, hbefore, beq_self_eq_true, if_true, List.flatMap_singleton,
      runs_sequence_cons _ [_, _, _]]
  · simp [Look.holds, hbefore]

/-! ## Groups -/

/-- The state behind a group with a number, after it has read some characters. -/
def State.group (s : State) (n : Nat) (w : List Char) : State :=
  ((s.write (2 * n)).after w).write (2 * n + 1)

theorem Expr.Wordy.mem_runs_group_iff {e : Expr} (h : e.Wordy) {n : Nat} {s s' : State} :
    s' ∈ (Expr.group (some n) e).runs s ↔ ∃ w, e.Reads w ∧ w <+: s.rest ∧ s' = s.group n w := by
  rw [Expr.runs, List.mem_map]
  constructor
  · rintro ⟨_, hmem, rfl⟩
    obtain ⟨w, hw, hstarts, rfl⟩ := h.mem_runs_iff.1 hmem
    exact ⟨w, hw, hstarts, rfl⟩
  · rintro ⟨w, hw, hstarts, rfl⟩
    exact ⟨_, h.mem_runs_iff.2 ⟨w, hw, hstarts, rfl⟩, rfl⟩

theorem State.rest_group (s : State) (n : Nat) (w : List Char) :
    (s.group n w).rest = s.rest.drop w.length := rfl

theorem Expr.mem_runs_textEnd_iff {s s' : State} :
    s' ∈ (Expr.look .textEnd).runs s ↔ s.rest = [] ∧ s' = s := by
  rw [Expr.runs]
  cases hrest : s.rest <;> simp [Look.holds]

/-- Behind the first group, the part and the tail read all that is left. -/
theorem Expr.mem_runs_ending_iff (hpart : part.Wordy) (htail : tail.Wordy) {s s' : State} :
    s' ∈ (ending part tail).runs s ↔
      ∃ w r, part.Reads w ∧ tail.Reads r ∧ w ++ r = s.rest ∧ s' = (s.group 2 w).group 3 r := by
  simp only [ending, runs_sequence_cons _ [_, _], runs_sequence_cons _ [_], sequence_singleton,
    List.mem_flatMap, hpart.mem_runs_group_iff, htail.mem_runs_group_iff, mem_runs_textEnd_iff]
  constructor
  · rintro ⟨_, ⟨w, hw, ⟨v, hv⟩, rfl⟩, _, ⟨r, hr, ⟨z, hz⟩, rfl⟩, hend, rfl⟩
    rw [State.rest_group, State.rest_group, ← hv, List.drop_left] at hend
    rw [State.rest_group, ← hv, List.drop_left] at hz
    rw [← hz, List.drop_left] at hend
    rw [hend, List.append_nil] at hz
    exact ⟨w, r, hw, hr, by rw [hz, hv], rfl⟩
  · rintro ⟨w, r, hw, hr, hrest, rfl⟩
    have hleft : (s.group 2 w).rest = r := by
      rw [State.rest_group, ← hrest, List.drop_left]
    refine ⟨_, ⟨w, hw, ⟨r, hrest⟩, rfl⟩, _, ⟨r, hr, hleft ▸ List.prefix_rfl, rfl⟩, ?_, rfl⟩
    rw [State.rest_group, hleft, List.drop_length]

/-- A greedy loop gets furthest first. -/
theorem pairwise_readMany (t : CharSet) (slots : Slots) (rest : List Char) (position : Nat)
    (before : Option Char) :
    (readMany t true position before slots rest).Pairwise fun s s' => s'.position < s.position := by
  induction rest generalizing position before with
  | nil => exact List.pairwise_singleton _ _
  | cons c cs ih =>
    rw [readMany, prefer, if_pos rfl, List.pairwise_append]
    refine ⟨?_, List.pairwise_singleton _ _, fun s hs s' hs' => ?_⟩
    · split_ifs
      · exact ih _ _
      · exact .nil
    · rw [List.mem_singleton.1 hs']
      split_ifs at hs
      · obtain ⟨w, -, -, rfl⟩ := State.mem_readMany_iff _ _ _ _ |>.1 hs
        exact Nat.lt_of_lt_of_le (Nat.lt_succ_self position) (Nat.le_add_right _ _)
      · cases hs

/-- The first group reads any beginning of a text. -/
theorem Expr.mem_runs_beginning_iff {s s' : State} :
    s' ∈ beginning.runs s ↔ ∃ u, u <+: s.rest ∧ s' = s.group 1 u := by
  rw [beginning, (Expr.Wordy.star true .any).mem_runs_group_iff]
  simp [Expr.Reads, CharSet.contains_any]

/-- It reads a longer one before a shorter one. -/
theorem Expr.pairwise_runs_beginning (s : State) :
    (beginning.runs s).Pairwise fun a b => b.position < a.position := by
  rw [beginning, Expr.runs, List.pairwise_map]
  exact pairwise_readMany _ _ _ _ _

/-! ## The match -/

/-- The start of a text, with empty slots for three groups. -/
def State.start (text : List Char) : State :=
  ⟨0, none, text, Array.replicate 8 none⟩

/-- The match that ends in a state. -/
def State.found (s : State) : Match :=
  ⟨0, s.position, [slotRange s.slots 1, slotRange s.slots 2, slotRange s.slots 3]⟩

/-- The match that cuts a text behind `u` and `w`. -/
def Match.cut (u w r : List Char) : Match :=
  ⟨0, (u ++ (w ++ r)).length, [some (0, u.length), some (u.length, (u ++ w).length),
    some ((u ++ w).length, (u ++ (w ++ r)).length)]⟩

theorem State.found_group (text u w r : List Char) :
    ((((State.start text).group 1 u).group 2 w).group 3 r).found = .cut u w r := by
  simp [group, write, after, start, found, slotRange, Match.cut, Nat.add_assoc]

section

variable (hpart : part.Wordy) (htail : tail.Wordy)

include hpart htail

theorem find?_cut_eq (text : List Char) :
    (ofExpr (.cut part tail)).find? text =
      (Expr.beginning.runs (.start text)).findSome? fun s =>
        ((Expr.ending part tail).runs s).head?.map State.found := by
  have hflat := Expr.flat_cut hpart htail
  have hlater : ∀ c position cs,
      (ofExpr (.cut part tail)).matchAt (some c) position cs = none := by
    intro c position cs
    rw [matchAt_ofExpr hflat, Expr.runs_cut, if_neg nofun]
    rfl
  have hfirst : ((Expr.cut part tail).runs (.start text)).head?.map State.found =
      (Expr.beginning.runs (.start text)).findSome? fun s =>
        ((Expr.ending part tail).runs s).head?.map State.found := by
    rw [Expr.runs_cut, if_pos (show (State.start text).before = none from rfl), List.head?_flatMap,
      List.map_findSome?]
    rfl
  rw [find?_eq_matchAt hlater, matchAt_ofExpr hflat, Expr.groups_cut hpart htail, ← hfirst]
  rfl

/-- From a beginning that some cut allows, the pattern goes on to the end. -/
theorem Expr.Cuts.mem_runs {u w r : List Char} (h : Expr.Cuts part tail text u w r) :
    (State.start text).group 1 u ∈ Expr.beginning.runs (.start text) ∧
      (((State.start text).group 1 u).group 2 w).group 3 r ∈
        (Expr.ending part tail).runs ((State.start text).group 1 u) := by
  obtain ⟨rfl, hw, hr⟩ := h
  refine ⟨Expr.mem_runs_beginning_iff.2 ⟨u, ⟨w ++ r, rfl⟩, rfl⟩,
    (Expr.mem_runs_ending_iff hpart htail).2 ⟨w, r, hw, hr, ?_, rfl⟩⟩
  rw [State.rest_group]
  exact List.drop_left.symm

/-- **The cut that is made.** The pattern matches a text when some cut of it is allowed, and then it
cuts the text as far to the right as any. -/
theorem find?_cut (text : List Char) :
    (∃ u w r, (ofExpr (.cut part tail)).find? text = some (.cut u w r) ∧
      Expr.Cuts part tail text u w r ∧
      ∀ u' w' r', Expr.Cuts part tail text u' w' r' → u'.length ≤ u.length) ∨
    (ofExpr (.cut part tail)).find? text = none ∧ ∀ u w r, ¬ Expr.Cuts part tail text u w r := by
  have hpairwise := Expr.pairwise_runs_beginning (.start text)
  rw [find?_cut_eq hpart htail]
  cases hfound : (Expr.beginning.runs (.start text)).findSome? fun s =>
      ((Expr.ending part tail).runs s).head?.map State.found with
  | none =>
    refine .inr ⟨rfl, fun u w r hcuts => ?_⟩
    obtain ⟨hbeginning, hending⟩ := hcuts.mem_runs hpart htail
    have hnone := List.findSome?_eq_none_iff.1 hfound _ hbeginning
    rw [Option.map_eq_none_iff, List.head?_eq_none_iff] at hnone
    exact List.not_mem_nil (hnone ▸ hending)
  | some m =>
    obtain ⟨earlier, s, later, hruns, hs, hearlier⟩ := List.findSome?_eq_some_iff.1 hfound
    obtain ⟨s', hhead, rfl⟩ := Option.map_eq_some_iff.1 hs
    have hmem : s ∈ Expr.beginning.runs (.start text) :=
      hruns ▸ List.mem_append_right _ List.mem_cons_self
    obtain ⟨u, hu, rfl⟩ := Expr.mem_runs_beginning_iff.1 hmem
    obtain ⟨w, r, hw, hr, hrest, rfl⟩ :=
      (Expr.mem_runs_ending_iff hpart htail).1 (List.mem_of_head? hhead)
    rw [State.found_group]
    refine .inl ⟨u, w, r, rfl, ⟨?_, hw, hr⟩, fun u' w' r' hcuts => ?_⟩
    · rw [hrest, State.rest_group]
      exact List.prefix_iff_eq_append.1 hu
    · obtain ⟨hbeginning, hending⟩ := hcuts.mem_runs hpart htail
      rw [hruns, List.mem_append, List.mem_cons] at hbeginning
      have hplace : ∀ v, ((State.start text).group 1 v).position = v.length := fun v =>
        Nat.zero_add _
      rcases hbeginning with hbefore | heq | hafter
      · -- no way before the one that was found leads on
        have hnone := hearlier _ hbefore
        rw [Option.map_eq_none_iff, List.head?_eq_none_iff] at hnone
        exact absurd (hnone ▸ hending) List.not_mem_nil
      · exact Nat.le_of_eq (by rw [← hplace u', heq, hplace])
      · rw [hruns, List.pairwise_append, List.pairwise_cons] at hpairwise
        have hless := hpairwise.2.1.1 _ hafter
        rw [hplace, hplace] at hless
        exact Nat.le_of_lt hless

end

end Stencil.Pattern
