import Stencil.Proofs.Pattern.Literal
import Stencil.Proofs.Pattern.Replacement

/-!
# Characters that no match holds

An expression that takes no character `a` is laid out as instructions that take none
(`Expr.Avoids.program`), so no thread gets past an `a` and no match holds one
(`notMem_text_of_mem_findAll`). Then an edit leaves every `a` of its subject in place
(`mem_replace`). A bar in a pattern is such a character: it stands between the branches of a choice
and is taken by none of them (`avoids_bar_of_read?`).
-/

namespace Stencil.Pattern

variable {a : Char}

/-! ## Expressions and instructions -/

/-- No character or set of the expression takes the character `a`. -/
def Expr.Avoids (a : Char) : Expr → Prop
  | .empty => True
  | .char c => c ≠ a
  | .set s => s.contains a = false
  | .look _ => True
  | .group _ e => e.Avoids a
  | .seq e f => e.Avoids a ∧ f.Avoids a
  | .alt e f => e.Avoids a ∧ f.Avoids a
  | .rounds _ _ _ e => e.Avoids a

def Instr.Avoids (a : Char) : Instr → Prop
  | .char c _ => c ≠ a
  | .set s _ => s.contains a = false
  | _ => True

def Fragment.Avoids (a : Char) (f : Fragment) : Prop :=
  ∀ base next, ∀ i ∈ f.code base next, i.Avoids a

namespace Fragment.Avoids

variable {f g : Fragment}

theorem single {instr : Nat → Instr} (h : ∀ next, (instr next).Avoids a) :
    (single instr).Avoids a := by
  intro base next i hi
  obtain rfl := List.mem_singleton.1 hi
  exact h next

theorem seq (hf : f.Avoids a) (hg : g.Avoids a) : (f.seq g).Avoids a := by
  intro base next i hi
  rcases List.mem_append.1 hi with hi | hi
  · exact hf _ _ i hi
  · exact hg _ _ i hi

theorem fork (greedy : Bool) (inside outside : Nat) :
    (Fragment.fork greedy inside outside).Avoids a := by
  cases greedy <;> trivial

theorem alt (hf : f.Avoids a) (hg : g.Avoids a) : (f.alt g).Avoids a := by
  intro base next i hi
  rcases List.mem_cons.1 hi with rfl | hi
  · trivial
  rcases List.mem_append.1 hi with hi | hi
  · exact hf _ _ i hi
  · exact hg _ _ i hi

theorem optional (greedy : Bool) (hf : f.Avoids a) : (optional greedy f).Avoids a := by
  intro base next i hi
  rcases List.mem_cons.1 hi with rfl | hi
  · exact fork greedy _ _
  · exact hf _ _ i hi

theorem plus (greedy : Bool) (hf : f.Avoids a) : (plus greedy f).Avoids a := by
  intro base next i hi
  rcases List.mem_append.1 hi with hi | hi
  · exact hf _ _ i hi
  · obtain rfl := List.mem_singleton.1 hi
    exact fork greedy _ _

theorem star (greedy : Bool) (hf : f.Avoids a) : (star greedy f).Avoids a := by
  intro base next i hi
  rcases List.mem_cons.1 hi with rfl | hi
  · exact fork greedy _ _
  · exact hf _ _ i hi

theorem copies (hf : f.Avoids a) (hg : g.Avoids a) (n : Nat) : (f.copies g n).Avoids a := by
  induction n with
  | zero => exact hg
  | succ n ih => exact hf.seq ih

theorem upTo (greedy : Bool) (hf : f.Avoids a) (n : Nat) : (upTo greedy f n).Avoids a := by
  induction n with
  | zero => exact hf.optional greedy
  | succ n ih => exact (hf.seq ih).optional greedy

end Fragment.Avoids

/-- What takes no `a` is laid out as instructions that take none. -/
theorem Expr.Avoids.fragment {e : Expr} (h : e.Avoids a) : e.fragment.Avoids a := by
  induction e with
  | empty => exact .single fun _ => trivial
  | char c => exact .single fun _ => h
  | set s => exact .single fun _ => h
  | look l => exact .single fun _ => trivial
  | group number e ih =>
    cases number with
    | none => exact ih h
    | some n => exact .seq (.single fun _ => trivial) ((ih h).seq (.single fun _ => trivial))
  | seq e f ihe ihf => exact (ihe h.1).seq (ihf h.2)
  | alt e f ihe ihf => exact (ihe h.1).alt (ihf h.2)
  | rounds least most greedy e ih =>
    have he := ih h
    have hupTo : ∀ least k, (e.fragment.copies (.upTo greedy e.fragment k) least).Avoids a :=
      fun least k => he.copies (he.upTo greedy k) least
    rcases most with _ | most <;> rcases least with _ | least <;> rw [Expr.fragment]
    · split_ifs
      · exact (he.plus greedy).optional greedy
      · exact he.star greedy
    · exact he.copies (he.plus greedy) least
    · split
      · exact .single fun _ => trivial
      · exact hupTo _ _
    · split
      · exact he.copies he least
      · exact hupTo _ _

theorem Expr.Avoids.program {e : Expr} (h : e.Avoids a) : ∀ i ∈ e.program, i.Avoids a := by
  intro i hi
  rw [Expr.program, List.mem_toArray] at hi
  rcases List.mem_append.1 hi with hi | hi
  · exact h.fragment _ _ i hi
  · obtain rfl := List.mem_singleton.1 hi
    trivial

/-! ## Matches -/

section

variable {program : Array Instr}

theorem step?_of_avoids (h : ∀ i ∈ program, i.Avoids a) (t : Thread) :
    t.step? program a = none := by
  unfold Thread.step?
  split
  · rename_i hinstr
    exact if_neg fun heq => h _ (Array.mem_of_getElem? hinstr) heq.symm
  · rename_i s next hinstr
    have hset : s.contains a = false := h _ (Array.mem_of_getElem? hinstr)
    simp [hset]
  · rfl

/-- What was accepted ends here or before. -/
theorem stop_le_of_mem_accepted {position : Nat} {best : Option Outcome} {threads : List Thread}
    (hbest : ∀ o ∈ best, o.stop ≤ position) :
    ∀ o ∈ accepted program position best threads, o.stop ≤ position := by
  unfold accepted
  split
  · rintro o ⟨⟩
    exact Nat.le_refl position
  · exact hbest

theorem notMem_take_of_mem_accepted {position : Nat} {best : Option Outcome}
    {threads : List Thread} {cs : List Char} (hbest : ∀ o ∈ best, o.stop ≤ position) :
    ∀ o ∈ accepted program position best threads, a ∉ cs.take (o.stop - position) := by
  intro o ho
  rw [Nat.sub_eq_zero_of_le (stop_le_of_mem_accepted hbest o ho)]
  exact List.not_mem_nil

/-- No run gets past a character that is not taken. -/
theorem notMem_take_of_mem_runThreads (h : ∀ i ∈ program, i.Avoids a) (text : List Char)
    {position : Nat} {best : Option Outcome} {threads : List Thread}
    (hbest : ∀ o ∈ best, o.stop ≤ position) :
    ∀ o ∈ runThreads program position best threads text, a ∉ text.take (o.stop - position) := by
  induction text generalizing position best threads with
  | nil => exact notMem_take_of_mem_accepted hbest
  | cons c cs ih =>
    simp only [runThreads]
    split
    · exact notMem_take_of_mem_accepted hbest
    · rename_i moved hmoved
      -- a thread that moves takes `c`, so that `c` is another character
      have hc : c ≠ a := by
        rintro rfl
        refine hmoved ?_
        rw [List.filterMap_eq_nil_iff]
        exact fun t _ => step?_of_avoids h t
      intro o ho
      have hrest := ih (fun o ho => Nat.le_succ_of_le (stop_le_of_mem_accepted hbest o ho)) o ho
      cases hn : o.stop - position with
      | zero => exact List.not_mem_nil
      | succ n =>
        rw [show o.stop - (position + 1) = n by omega] at hrest
        exact List.not_mem_cons_of_ne_of_not_mem hc.symm hrest

end

section

variable {p : Pattern}

theorem notMem_of_matchAt (h : ∀ i ∈ p.program, i.Avoids a) {before : Option Char} {position : Nat}
    {text : List Char} {m : Match} (hm : p.matchAt before position text = some m) :
    a ∉ text.take (m.stop - m.start) := by
  simp only [matchAt] at hm
  obtain ⟨o, ho, rfl⟩ := Option.map_eq_some_iff.1 hm
  exact notMem_take_of_mem_runThreads h text (fun o ho => by cases ho) o ho

/-- No match holds a character that the pattern does not take. -/
theorem notMem_text_of_mem_findAll (h : ∀ i ∈ p.program, i.Avoids a) {subject : List Char}
    {m : Match} (hm : m ∈ p.findAll subject) : a ∉ m.text subject := by
  obtain ⟨u, v, before, rfl, hmatch⟩ := exists_matchAt_of_mem_matchesFrom hm
  have hstart := (matchAt_within hmatch).1
  have hnot := notMem_of_matchAt h hmatch
  rw [Nat.zero_add] at hstart
  rw [Match.text, between, List.drop_take, hstart, List.drop_left]
  rwa [hstart] at hnot

/-! ## Edits -/

theorem mem_weave_of_mem_gap {gs ts : List (List Char)} {g : List Char} (hg : g ∈ gs)
    (ha : a ∈ g) : a ∈ weave gs ts := by
  induction gs generalizing ts with
  | nil => cases hg
  | cons g' gs ih =>
    cases ts with
    | nil => exact List.mem_flatten.2 ⟨g, hg, ha⟩
    | cons t ts =>
      rw [weave, List.mem_append, List.mem_append]
      rcases List.mem_cons.1 hg with rfl | hg
      · exact .inl ha
      · exact .inr (.inr (ih hg))

theorem exists_of_mem_weave {gs ts : List (List Char)} (ha : a ∈ weave gs ts) :
    (∃ g ∈ gs, a ∈ g) ∨ ∃ t ∈ ts, a ∈ t := by
  induction gs generalizing ts with
  | nil => cases ts <;> cases ha
  | cons g gs ih =>
    cases ts with
    | nil => exact .inl (List.mem_flatten.1 ha)
    | cons t ts =>
      rw [weave, List.mem_append, List.mem_append] at ha
      rcases ha with ha | ha | ha
      · exact .inl ⟨g, List.mem_cons_self, ha⟩
      · exact .inr ⟨t, List.mem_cons_self, ha⟩
      · rcases ih ha with ⟨g', hg, ha⟩ | ⟨t', ht, ha⟩
        · exact .inl ⟨g', List.mem_cons_of_mem _ hg, ha⟩
        · exact .inr ⟨t', List.mem_cons_of_mem _ ht, ha⟩

/-- A character that the pattern does not take stays in the subject. -/
theorem mem_replace (h : ∀ i ∈ p.program, i.Avoids a) {subject : String}
    (ha : a ∈ subject.toList) (everywhere : Bool) (parts : List Part) :
    a ∈ (p.replace everywhere parts subject).toList := by
  rw [replace_eq_weave, String.toList_ofList]
  rw [← weave_gaps_chosen p everywhere subject.toList] at ha
  rcases exists_of_mem_weave ha with ⟨g, hg, ha⟩ | ⟨t, ht, ha⟩
  · exact mem_weave_of_mem_gap hg ha
  · obtain ⟨m, hm, rfl⟩ := List.mem_map.1 ht
    have hfound : m ∈ p.findAll subject.toList := by
      unfold chosen at hm
      split_ifs at hm
      · exact hm
      · exact List.mem_of_mem_take hm
    exact absurd ha (notMem_text_of_mem_findAll h hfound)

end

/-! ## Bars -/

def Item.Avoids (a : Char) (i : Item) : Prop :=
  ∀ e ∈ i.expr?, e.Avoids a

theorem Expr.avoids_sequence {es : List Expr} (h : ∀ e ∈ es, e.Avoids a) :
    (Expr.sequence es).Avoids a :=
  forall_sequence (P := Expr.Avoids a) trivial And.intro h

theorem Expr.avoids_choice {es : List Expr} (h : ∀ e ∈ es, e.Avoids a) :
    (Expr.choice es).Avoids a := by
  induction es with
  | nil => trivial
  | cons e es ih =>
    obtain ⟨he, hes⟩ := List.forall_mem_cons.1 h
    cases es with
    | nil => exact he
    | cons f fs => exact ⟨he, ih hes⟩

theorem Item.Avoids.getD {i : Item} (h : i.Avoids a) : (i.expr?.getD .empty).Avoids a := by
  cases hi : i.expr? with
  | none => trivial
  | some e => exact h e hi

section

variable {items : List Item}

theorem avoids_filterMap (h : ∀ i ∈ items, i.Avoids a) :
    ∀ e ∈ items.filterMap (·.expr?), e.Avoids a := by
  intro e he
  obtain ⟨i, hi, hie⟩ := List.mem_filterMap.1 he
  exact h i hi e hie

theorem avoids_itemSequence (h : ∀ i ∈ items, i.Avoids a) : (Item.sequence items).Avoids a := by
  rcases items with _ | ⟨i, _ | ⟨j, items⟩⟩
  · rintro e ⟨⟩
    trivial
  · rintro e ⟨⟩
    exact (h i List.mem_cons_self).getD
  · rintro e ⟨⟩
    exact Expr.avoids_sequence (avoids_filterMap h)

theorem avoids_itemChoice (h : ∀ i ∈ items, i.Avoids a) : (Item.choice items).Avoids a := by
  rcases items with _ | ⟨i, _ | ⟨j, items⟩⟩
  · rintro e ⟨⟩
    trivial
  · exact h i List.mem_cons_self
  · rintro e ⟨⟩
    exact Expr.avoids_choice (avoids_filterMap h)

end

/-- Nothing in the innermost group of a draft takes the character `a`, and no group is open. -/
structure Draft.Avoids (a : Char) (r : Draft) : Prop where
  items : ∀ i ∈ r.level.items, i.Avoids a
  branches : ∀ i ∈ r.level.branches, i.Avoids a
  stack : r.stack = []

namespace Draft.Avoids

variable {r : Draft}

/-- The branches of the group with the one that is being read. -/
theorem all_branches (h : r.Avoids a) :
    ∀ i ∈ Item.sequence r.level.items.reverse :: r.level.branches, i.Avoids a :=
  List.forall_mem_cons.2
    ⟨avoids_itemSequence fun i hi => h.items i (List.mem_reverse.1 hi), h.branches⟩

theorem finish (h : r.Avoids a) : r.level.finish.Avoids a :=
  avoids_itemChoice fun i hi => h.all_branches i (List.mem_reverse.1 hi)

/-- A bar ends a branch and takes nothing. -/
theorem readPlain (h : r.Avoids '|') (c : Char) : (r.readPlain c).Avoids '|' := by
  unfold Draft.readPlain
  split_ifs with hc
  · exact ⟨fun i hi => (List.not_mem_nil hi).elim, h.all_branches, h.stack⟩
  · have hitem : (⟨some (.char c), 0⟩ : Item).Avoids '|' := by
      rintro e ⟨⟩
      exact hc
    exact ⟨List.forall_mem_cons.2 ⟨hitem, h.items⟩, h.branches, h.stack⟩

theorem foldl_readPlain (h : r.Avoids '|') (w : List Char) :
    (w.foldl Draft.readPlain r).Avoids '|' := by
  induction w generalizing r with
  | nil => exact h
  | cons c cs ih => exact ih (h.readPlain c)

end Draft.Avoids

/-- The pattern of a text of plain characters and bars takes no bar. -/
theorem avoids_bar_of_read? {w : List Char} (hw : ∀ c ∈ w, IsPlain c ∨ c = '|') {p : Pattern}
    (h : Pattern.read? false (String.ofList w) = some p) : ∀ i ∈ p.program, i.Avoids '|' := by
  have hstart : Draft.start.Avoids '|' :=
    ⟨fun i hi => (List.not_mem_nil hi).elim, fun i hi => (List.not_mem_nil hi).elim, rfl⟩
  have hdraft := hstart.foldl_readPlain w
  rw [Pattern.read?, String.toList_ofList,
    Expr.read?_of_pieces (pieces?_plain hw rfl rfl) hdraft.stack] at h
  split_ifs at h
  · cases h
    exact hdraft.finish.getD.program
  · cases h

end Stencil.Pattern
