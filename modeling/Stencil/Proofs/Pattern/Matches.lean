import Mathlib.Tactic.Common
import Stencil.Pattern.Matching

/-!
# Where matches lie

A thread writes the place where it stands into a slot, so the slots of a match hold places between
its start and its end (`matchAt_within`), and a thread gets no further than the end of the text. A
search goes on where the match before ended. So the matches of a text lie one after the other inside
it, each with its groups inside the match: the main statement is `succeed_findAll`.
-/

namespace Stencil.Pattern

/-! ## Slots -/

/-- The places in the slots lie from `start` up to `stop`. -/
def SlotsWithin (start stop : Nat) (slots : Slots) : Prop :=
  ∀ i, some i ∈ slots → start ≤ i ∧ i ≤ stop

/-- The places in the slots of all threads lie from `start` up to `stop`. -/
def ThreadsWithin (start stop : Nat) (threads : List Thread) : Prop :=
  ∀ t ∈ threads, SlotsWithin start stop t.slots

section

variable {start stop : Nat}

theorem SlotsWithin.mono {stop' : Nat} {slots : Slots} (h : SlotsWithin start stop slots)
    (hstop : stop ≤ stop') : SlotsWithin start stop' slots :=
  fun i hi => ⟨(h i hi).1, Nat.le_trans (h i hi).2 hstop⟩

/-- The last place may be written into any slot. -/
theorem SlotsWithin.write {slots : Slots} (h : SlotsWithin start stop slots) (hle : start ≤ stop)
    (n : Nat) : SlotsWithin start stop (slots.setIfInBounds n (some stop)) := by
  intro i hi
  rcases Array.mem_or_eq_of_mem_setIfInBounds hi with hold | hnew
  · exact h i hold
  · cases hnew
    exact ⟨hle, Nat.le_refl _⟩

namespace ThreadsWithin

theorem nil : ThreadsWithin start stop [] :=
  fun _ ht => by cases ht

variable {t : Thread} {ts : List Thread}

theorem cons (hts : ThreadsWithin start stop ts) (ht : SlotsWithin start stop t.slots) :
    ThreadsWithin start stop (t :: ts) :=
  List.forall_mem_cons.2 ⟨ht, hts⟩

theorem head (h : ThreadsWithin start stop (t :: ts)) : SlotsWithin start stop t.slots :=
  h t List.mem_cons_self

theorem tail (h : ThreadsWithin start stop (t :: ts)) : ThreadsWithin start stop ts :=
  (List.forall_mem_cons.1 h).2

end ThreadsWithin

end

/-! ## Threads -/

section

variable {program : Array Instr} {start : Nat}

/-- Only `save` changes slots, and it writes the place of the thread. -/
theorem follow_within {place : Place} (hle : start ≤ place.position) (fuel : Nat)
    (todo : List Thread) (seen : Array Bool) (found : List Thread)
    (htodo : ThreadsWithin start place.position todo)
    (hfound : ThreadsWithin start place.position found) :
    ThreadsWithin start place.position (follow program place fuel todo seen found).2 := by
  fun_induction follow program place fuel todo seen found
  case case1 | case2 => exact hfound
  case case3 ih | case4 ih | case9 ih => exact ih htodo.tail hfound
  case case5 ih | case8 ih => exact ih (htodo.tail.cons htodo.head) hfound
  case case6 ih => exact ih (.cons (.cons htodo.tail htodo.head) htodo.head) hfound
  case case7 slot next _ ih => exact ih (htodo.tail.cons (htodo.head.write hle slot)) hfound
  case case10 ih => exact ih htodo.tail (hfound.cons htodo.head)

theorem threadsFrom_within {place : Place} (hle : start ≤ place.position) {starts : List Thread}
    (h : ThreadsWithin start place.position starts) :
    ThreadsWithin start place.position (threadsFrom program place starts) := by
  intro t ht
  rw [threadsFrom, List.mem_reverse] at ht
  revert t
  refine List.foldlRecOn (motive := fun state : Array Bool × List Thread =>
    ThreadsWithin start place.position state.2) starts _ .nil ?_
  intro state hstate t ht
  exact follow_within hle _ _ _ _ (ThreadsWithin.nil.cons (h t ht)) hstate

theorem Thread.slots_step {c : Char} {t t' : Thread} (h : t.step? program c = some t') :
    t'.slots = t.slots := by
  unfold step? at h
  split at h
  · split at h <;> cases h
    rfl
  · split at h <;> cases h
    rfl
  · cases h

/-- The run ended from `start` up to `stop`, and its slots hold places up to its end. -/
def Outcome.Within (start stop : Nat) (o : Outcome) : Prop :=
  start ≤ o.stop ∧ o.stop ≤ stop ∧ SlotsWithin start o.stop o.slots

theorem accepted_within {position : Nat} {best : Option Outcome} {threads : List Thread}
    (hle : start ≤ position) (hbest : ∀ o ∈ best, o.Within start position)
    (h : ThreadsWithin start position threads) :
    ∀ o ∈ accepted program position best threads, o.Within start position := by
  unfold accepted
  split
  · rename_i t ht
    rintro o ⟨⟩
    exact ⟨hle, Nat.le_refl _, h t (List.mem_of_find?_eq_some ht)⟩
  · exact hbest

/-- A run over a text ends in it. -/
theorem runThreads_within {position : Nat} {best : Option Outcome} {threads : List Thread}
    (text : List Char) (hle : start ≤ position) (hbest : ∀ o ∈ best, o.Within start position)
    (h : ThreadsWithin start position threads) :
    ∀ o ∈ runThreads program position best threads text,
      o.Within start (position + text.length) := by
  induction text generalizing position best threads with
  | nil => exact accepted_within hle hbest h
  | cons c cs ih =>
    have hlonger : ∀ {o : Outcome} {n : Nat}, n ≤ position + (c :: cs).length →
        o.Within start n → o.Within start (position + (c :: cs).length) :=
      fun hn ho => ⟨ho.1, Nat.le_trans ho.2.1 hn, ho.2.2⟩
    have haccepted : ∀ o ∈ accepted program position best threads, o.Within start position :=
      accepted_within hle hbest h
    simp only [runThreads]
    split
    · exact fun o ho => hlonger (Nat.le_add_right _ _) (haccepted o ho)
    · have hmoved : ThreadsWithin start (position + 1)
          ((threads.takeWhile fun t => !t.accepts program).filterMap (·.step? program c)) := by
        intro t' ht'
        obtain ⟨t, ht, hstep⟩ := List.mem_filterMap.1 ht'
        rw [Thread.slots_step hstep]
        exact (h t (List.takeWhile_subset _ ht)).mono (Nat.le_succ _)
      have hnext : start ≤ position + 1 := Nat.le_succ_of_le hle
      intro o ho
      refine hlonger ?_ (ih hnext (fun o ho => ?_) (threadsFrom_within hnext hmoved) o ho)
      · rw [List.length_cons]
        omega
      · have hold := haccepted o ho
        exact ⟨hold.1, Nat.le_succ_of_le hold.2.1, hold.2.2⟩

end

/-! ## Matches -/

theorem mem_of_slotRange {slots : Slots} {n a b : Nat} (h : slotRange slots n = some (a, b)) :
    some a ∈ slots ∧ some b ∈ slots := by
  unfold slotRange at h
  split at h
  · rename_i ha hb
    cases h
    exact ⟨Array.mem_of_getElem? (Option.join_eq_some_iff.1 ha),
      Array.mem_of_getElem? (Option.join_eq_some_iff.1 hb)⟩
  · cases h

/-- The ranges of the groups lie in the match. -/
def Match.HoldsGroups (m : Match) : Prop :=
  ∀ a b, some (a, b) ∈ m.groups → (m.start ≤ a ∧ a ≤ m.stop) ∧ m.start ≤ b ∧ b ≤ m.stop

/-- A match starts where it is looked for, and ends in the text. -/
theorem matchAt_within {p : Pattern} {before : Option Char} {position : Nat} {text : List Char}
    {m : Match} (h : p.matchAt before position text = some m) :
    m.start = position ∧ position ≤ m.stop ∧ m.stop ≤ position + text.length ∧ m.HoldsGroups := by
  simp only [matchAt] at h
  obtain ⟨o, ho, rfl⟩ := Option.map_eq_some_iff.1 h
  have hblank : SlotsWithin position position (Array.replicate (2 * (p.groups + 1)) none) := by
    intro i hi
    cases (Array.mem_replicate.1 hi).2
  have hfirst : ThreadsWithin position position
      [⟨0, Array.replicate (2 * (p.groups + 1)) none⟩] := ThreadsWithin.nil.cons hblank
  have hthreads : ThreadsWithin position position
      (threadsFrom p.program ⟨position, before, text.head?⟩ _) :=
    threadsFrom_within (Nat.le_refl position) hfirst
  obtain ⟨hstart, hstop, hslots⟩ :=
    runThreads_within text (Nat.le_refl position) (fun o ho => by cases ho) hthreads o ho
  refine ⟨rfl, hstart, hstop, fun a b hab => ?_⟩
  obtain ⟨n, -, hn⟩ := List.mem_map.1 hab
  have hmem := mem_of_slotRange hn
  exact ⟨hslots a hmem.1, hslots b hmem.2⟩

/-- The matches lie one after the other from the place `a` up to the place `b`, each with its groups
in it. -/
def Succeed : Nat → List Match → Nat → Prop
  | a, [], b => a ≤ b
  | a, m :: ms, b => a ≤ m.start ∧ m.start ≤ m.stop ∧ m.HoldsGroups ∧ Succeed m.stop ms b

theorem Succeed.le {a b : Nat} {ms : List Match} (h : Succeed a ms b) : a ≤ b := by
  induction ms generalizing a with
  | nil => exact h
  | cons m ms ih =>
    obtain ⟨hstart, hstop, -, hrest⟩ := h
    have hle := ih hrest
    omega

theorem Succeed.take {a b : Nat} {ms : List Match} (h : Succeed a ms b) (n : Nat) :
    Succeed a (ms.take n) b := by
  induction ms generalizing a n with
  | nil => simpa using h
  | cons m ms ih =>
    cases n with
    | zero => exact h.le
    | succ n => exact ⟨h.1, h.2.1, h.2.2.1, ih h.2.2.2 n⟩

section

variable {p : Pattern} {before : Option Char} {position : Nat} {last : Option Nat}

/-- A match that may follow another one is a match, and does not start before the end of it. -/
theorem matchAt_of_freshMatchAt {text : List Char} {m : Match}
    (h : p.freshMatchAt before position last text = some m) :
    p.matchAt before position text = some m ∧ ¬ last.any (position < ·) := by
  unfold freshMatchAt at h
  split at h
  · cases h
  · rename_i hlast
    exact ⟨(Option.filter_eq_some_iff.1 h).1, hlast⟩

theorem freshMatchAt_within {text : List Char} {m : Match} {a : Nat}
    (h : p.freshMatchAt before position last text = some m)
    (ha : a ≤ position ∨ last = some a) :
    m.start = position ∧ a ≤ position ∧ position ≤ m.stop ∧ m.stop ≤ position + text.length ∧
      m.HoldsGroups := by
  obtain ⟨hmatch, hlast⟩ := matchAt_of_freshMatchAt h
  obtain ⟨hstart, hin⟩ := matchAt_within hmatch
  refine ⟨hstart, ?_, hin⟩
  rcases ha with hle | rfl
  · exact hle
  · simpa using hlast

theorem start_of_freshMatchAt {text : List Char} {m : Match}
    (h : p.freshMatchAt before position last text = some m) : m.start = position :=
  (freshMatchAt_within h (.inl (Nat.le_refl _))).1

/-- Matches from a place on, when the one before ended at `last`, begin there or later. -/
theorem succeed_matchesFrom (text : List Char) {a : Nat} (ha : a ≤ position ∨ last = some a)
    (hend : a ≤ position + text.length) :
    Succeed a (p.matchesFrom before position last text) (position + text.length) := by
  induction text generalizing before position last a with
  | nil =>
    rw [matchesFrom]
    cases hm : p.freshMatchAt before position last [] with
    | none => exact hend
    | some m =>
      obtain ⟨rfl, hle, hstop, hin, hgroups⟩ := freshMatchAt_within hm ha
      exact ⟨hle, hstop, hgroups, hin⟩
  | cons c cs ih =>
    have hlength : position + (c :: cs).length = position + 1 + cs.length := by
      rw [List.length_cons]
      omega
    rw [matchesFrom]
    cases hm : p.freshMatchAt before position last (c :: cs) with
    | none =>
      rw [hlength] at hend ⊢
      exact ih (ha.imp_left Nat.le_succ_of_le) hend
    | some m =>
      obtain ⟨rfl, hle, hstop, hin, hgroups⟩ := freshMatchAt_within hm ha
      rw [hlength] at hin ⊢
      exact ⟨hle, hstop, hgroups, ih (.inr rfl) hin⟩

/-- What is found from a place on is a match at its own place. -/
theorem exists_matchAt_of_mem_matchesFrom {text : List Char} {m : Match}
    (hm : m ∈ p.matchesFrom before position last text) :
    ∃ u v before, text = u ++ v ∧ p.matchAt before (position + u.length) v = some m := by
  induction text generalizing before position last with
  | nil =>
    rw [matchesFrom, Option.mem_toList] at hm
    exact ⟨[], [], before, rfl, (matchAt_of_freshMatchAt hm).1⟩
  | cons c cs ih =>
    have hlater : ∀ {last : Option Nat}, m ∈ p.matchesFrom (some c) (position + 1) last cs →
        ∃ u v before, c :: cs = u ++ v ∧ p.matchAt before (position + u.length) v = some m := by
      intro last hm
      obtain ⟨u, v, before, rfl, hmatch⟩ := ih hm
      refine ⟨c :: u, v, before, rfl, ?_⟩
      rwa [List.length_cons, Nat.add_comm u.length, ← Nat.add_assoc]
    rw [matchesFrom] at hm
    cases hfirst : p.freshMatchAt before position last (c :: cs) with
    | none =>
      rw [hfirst] at hm
      exact hlater hm
    | some m' =>
      rw [hfirst] at hm
      rcases List.mem_cons.1 hm with rfl | hm
      · exact ⟨[], c :: cs, before, rfl, (matchAt_of_freshMatchAt hfirst).1⟩
      · exact hlater hm

theorem le_start_of_mem_matchesFrom {text : List Char} {m : Match}
    (hm : m ∈ p.matchesFrom before position last text) : position ≤ m.start := by
  obtain ⟨u, v, before, -, hmatch⟩ := exists_matchAt_of_mem_matchesFrom hm
  rw [(matchAt_within hmatch).1]
  exact Nat.le_add_right position u.length

/-- After a match the search goes on behind its first place, also when it is empty. -/
theorem pairwise_matchesFrom (text : List Char) :
    (p.matchesFrom before position last text).Pairwise fun m m' => m.start < m'.start := by
  induction text generalizing before position last with
  | nil =>
    rw [matchesFrom]
    cases p.freshMatchAt before position last [] <;> simp
  | cons c cs ih =>
    rw [matchesFrom]
    cases hm : p.freshMatchAt before position last (c :: cs) with
    | none => exact ih
    | some m =>
      refine List.pairwise_cons.2 ⟨fun m' hm' => ?_, ih⟩
      rw [start_of_freshMatchAt hm]
      exact le_start_of_mem_matchesFrom hm'

end

/-- **The matches of a text** lie one after the other inside it. -/
theorem succeed_findAll (p : Pattern) (text : List Char) :
    Succeed 0 (p.findAll text) text.length := by
  have h : Succeed 0 (p.matchesFrom none 0 none text) (0 + text.length) :=
    succeed_matchesFrom text (.inl (Nat.le_refl 0)) (Nat.zero_le _)
  rwa [Nat.zero_add] at h

end Stencil.Pattern
