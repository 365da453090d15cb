import Stencil.Pattern.Parser
import Stencil.Proofs.Pattern.Preference

/-!
# The runs of an expression

`Expr.runs` lists the ways to go through an expression from a place on, in the order of preference.
It speaks of no program and no threads. The main statement is `matchAt_ofExpr`: the match at a place
is the first of the runs. It is about flat expressions, which repeat without bound only sets of
characters (`Expr.Flat`): their programs lead forward, and each fragment of one goes through its
expression and on to the next address (`best_fragment`, by induction on the expression).

Without groups and conditions, the runs of an expression read its words (`mem_runs_iff`).
-/

namespace Stencil.Pattern

/-! ## Flat expressions -/

/-- Expressions that repeat without bound only sets of characters, and anything else at most
once. -/
inductive Expr.Flat : Expr → Prop
  | empty : Flat .empty
  | char (c) : Flat (.char c)
  | set (t) : Flat (.set t)
  | look (l) : Flat (.look l)
  | group {e} (number) : Flat e → Flat (.group number e)
  | seq {a b} : Flat a → Flat b → Flat (.seq a b)
  | alt {a b} : Flat a → Flat b → Flat (.alt a b)
  | star (greedy t) : Flat (.rounds 0 none greedy (.set t))
  | optional {e} (greedy) : Flat e → Flat (.rounds 0 (some 1) greedy e)

/-- What holds of the empty expression and of sequences of two holds of longer sequences. -/
theorem Expr.forall_sequence {P : Expr → Prop} (hempty : P .empty)
    (hseq : ∀ {a b}, P a → P b → P (.seq a b)) {es : List Expr} (h : ∀ e ∈ es, P e) :
    P (sequence es) := by
  induction es with
  | nil => exact hempty
  | cons e es ih =>
    obtain ⟨he, hes⟩ := List.forall_mem_cons.1 h
    cases es with
    | nil => exact he
    | cons f fs =>
      rw [sequence_cons_cons]
      exact hseq he (ih hes)

theorem Expr.Flat.sequence {es : List Expr} (h : ∀ e ∈ es, e.Flat) : (sequence es).Flat :=
  forall_sequence .empty .seq h

/-- The ways inside a repetition and those past it, in the order of preference. -/
def prefer (greedy : Bool) (inside outside : List State) : List State :=
  if greedy then inside ++ outside else outside ++ inside

/-- The states after any number of characters of a set. `rest` is what is left to be read. -/
def readMany (t : CharSet) (greedy : Bool) (position : Nat) (before : Option Char) (slots : Slots)
    (rest : List Char) : List State :=
  match rest with
  | [] => [⟨position, before, [], slots⟩]
  | c :: cs =>
    prefer greedy
      (if t.contains c then readMany t greedy (position + 1) (some c) slots cs else [])
      [⟨position, before, c :: cs, slots⟩]

/-- The states in which the ways through a flat expression end, in the order of preference. -/
def Expr.runs : Expr → State → List State
  | .empty, s => [s]
  | .char c, s => s.read (· == c)
  | .set t, s => s.read t.contains
  | .look l, s => if l.holds s.before s.rest.head? then [s] else []
  | .group none e, s => e.runs s
  | .group (some n) e, s => (e.runs (s.write (2 * n))).map (·.write (2 * n + 1))
  | .seq a b, s => (a.runs s).flatMap b.runs
  | .alt a b, s => a.runs s ++ b.runs s
  | .rounds 0 none greedy (.set t), s => readMany t greedy s.position s.before s.slots s.rest
  | .rounds 0 (some 1) greedy e, s => prefer greedy (e.runs s) [s]
  | .rounds _ _ _ _, _ => []

theorem Expr.runs_sequence_cons (e : Expr) (es : List Expr) (s : State) :
    (sequence (e :: es)).runs s = (e.runs s).flatMap (sequence es).runs := by
  cases es with
  | nil => exact (List.flatMap_singleton' _).symm
  | cons f fs => rw [sequence_cons_cons, runs]

/-! ## Fragments lead forward -/

/-- Wherever a fragment is laid out before the address that it goes on to, it leads forward. -/
def Fragment.Forward (f : Fragment) : Prop :=
  ∀ base next, base + f.size ≤ next → ∀ k (i : Instr), (f.code base next)[k]? = some i →
    i.Forward (base + k)

namespace Fragment.Forward

variable {f g : Fragment}

theorem single {instr : Nat → Instr} (h : ∀ a next, a < next → (instr next).Forward a) :
    (single instr).Forward := by
  intro base next hnext k i hi
  obtain ⟨rfl, rfl⟩ : k = 0 ∧ instr next = i := by
    simpa [Fragment.single, List.getElem?_singleton] using hi
  exact h _ _ hnext

theorem seq (hf : f.Forward) (hg : g.Forward) : (f.seq g).Forward := by
  intro base next hnext k i hi
  rw [Fragment.seq, List.getElem?_append] at hi
  split_ifs at hi with hk
  · exact hf _ _ (Nat.le_refl _) k i hi
  · rw [f.length_code] at hi hk
    have hadd : base + f.size + (k - f.size) = base + k := by omega
    have hnext' : base + f.size + g.size ≤ next := by
      simp only [Fragment.seq] at hnext
      omega
    exact hadd ▸ hg _ _ hnext' _ i hi

theorem fork {greedy : Bool} {a inside outside : Nat} (hin : a < inside) (hout : a < outside) :
    (Fragment.fork greedy inside outside).Forward a := by
  cases greedy
  · exact ⟨hout, hin⟩
  · exact ⟨hin, hout⟩

/-- A fork in front of a fragment. -/
theorem cons {first i : Instr} {base next k : Nat} {a : Fragment} (hfirst : first.Forward base)
    (ha : ∀ k (i : Instr), (a.code (base + 1) next)[k]? = some i → i.Forward (base + 1 + k))
    (hi : (first :: a.code (base + 1) next)[k]? = some i) : i.Forward (base + k) := by
  cases k with
  | zero =>
    obtain rfl : first = i := by simpa using hi
    exact hfirst
  | succ k =>
    have hadd : base + 1 + k = base + (k + 1) := by omega
    rw [List.getElem?_cons_succ] at hi
    exact hadd ▸ ha k i hi

theorem optional (greedy : Bool) (hf : f.Forward) : (optional greedy f).Forward := by
  intro base next hnext k i hi
  simp only [Fragment.optional] at hnext hi
  exact cons (fork (by omega) (by omega)) (hf _ _ (by omega)) hi

/-- A set in a loop goes back, but only by reading. -/
theorem star (greedy : Bool) (t : CharSet) : (star greedy (.single (.set t))).Forward := by
  intro base next hnext k i hi
  have hset : ∀ k (i : Instr),
      ((Fragment.single (.set t)).code (base + 1) base)[k]? = some i →
        i.Forward (base + 1 + k) := by
    intro k i hi
    obtain ⟨rfl, rfl⟩ : k = 0 ∧ Instr.set t base = i := by
      simpa [Fragment.single, List.getElem?_singleton] using hi
    trivial
  simp only [Fragment.star, Fragment.single] at hnext hi
  exact cons (fork (by omega) (by omega)) hset hi

theorem alt (hf : f.Forward) (hg : g.Forward) : (f.alt g).Forward := by
  intro base next hnext k i hi
  simp only [Fragment.alt] at hnext hi
  cases k with
  | zero =>
    obtain rfl : Instr.split (base + 1) (base + 1 + f.size) = i := by simpa using hi
    exact ⟨by omega, by omega⟩
  | succ k =>
    rw [List.getElem?_cons_succ, List.getElem?_append] at hi
    split_ifs at hi with hk
    · have hadd : base + 1 + k = base + (k + 1) := by omega
      exact hadd ▸ hf _ _ (by omega) k i hi
    · rw [f.length_code] at hi hk
      have hadd : base + 1 + f.size + (k - f.size) = base + (k + 1) := by omega
      exact hadd ▸ hg _ _ (by omega) _ i hi

end Fragment.Forward

theorem Expr.Flat.forward_fragment {e : Expr} (h : e.Flat) : e.fragment.Forward := by
  induction h with
  | empty => exact .single fun _ _ h => h
  | char c => exact .single fun _ _ _ => trivial
  | set t => exact .single fun _ _ _ => trivial
  | look l => exact .single fun _ _ h => h
  | group number _ ih =>
    cases number with
    | none => exact ih
    | some n => exact .seq (.single fun _ _ h => h) (.seq ih (.single fun _ _ h => h))
  | seq _ _ iha ihb => exact .seq iha ihb
  | alt _ _ iha ihb => exact .alt iha ihb
  | star greedy t => exact .star greedy t
  | optional greedy _ ih => exact .optional greedy ih

theorem Expr.Flat.forward_program {e : Expr} (h : e.Flat) : Forward e.program := by
  intro a i hi
  rw [Expr.program, List.getElem?_toArray, List.getElem?_append] at hi
  split_ifs at hi with ha
  · have hforward := h.forward_fragment 0 _ (Nat.le_of_eq (Nat.zero_add _)) a i hi
    rwa [Nat.zero_add] at hforward
  · have hmem := List.mem_of_getElem? hi
    obtain rfl := List.mem_singleton.1 hmem
    trivial

/-! ## Fragments in a program -/

/-- A program holds some instructions from an address on. -/
def Holds (program : Array Instr) (base : Nat) (code : List Instr) : Prop :=
  ∀ k i, code[k]? = some i → program[base + k]? = some i

section

variable {program : Array Instr} {base : Nat} {code code' : List Instr} {i : Instr} {s : State}

theorem Holds.head (h : Holds program base (i :: code)) : program[base]? = some i :=
  h 0 i rfl

theorem Holds.tail (h : Holds program base (i :: code)) : Holds program (base + 1) code := by
  intro k j hj
  have hadd : base + 1 + k = base + (k + 1) := by omega
  rw [hadd]
  exact h (k + 1) j hj

theorem Holds.left (h : Holds program base (code ++ code')) : Holds program base code := by
  intro k j hj
  refine h k j ?_
  rw [List.getElem?_append_left (List.getElem?_eq_some_iff.1 hj).1, hj]

theorem Holds.right (h : Holds program base (code ++ code')) :
    Holds program (base + code.length) code' := by
  intro k j hj
  rw [Nat.add_assoc]
  refine h _ j ?_
  rw [List.getElem?_append_right (Nat.le_add_right _ _), Nat.add_sub_cancel_left, hj]

theorem findSome?_flatMap {α β γ : Type} (l : List α) (f : α → List β) (g : β → Option γ) :
    (l.flatMap f).findSome? g = l.findSome? fun x => (f x).findSome? g := by
  induction l with
  | nil => rfl
  | cons x l ih => rw [List.flatMap_cons, List.findSome?_append, ih, findSome?_cons_or]

/-- From a fork the best way is the preferred one of two that leads to the end. -/
theorem best_fork (hforward : Forward program) {greedy : Bool} {inside outside : Nat}
    (h : program[base]? = some (Fragment.fork greedy inside outside)) {as bs : List State}
    {f : State → Option State} (hin : best program inside s = as.findSome? f)
    (hout : best program outside s = bs.findSome? f) :
    best program base s = (prefer greedy as bs).findSome? f := by
  have hne : Fragment.fork greedy inside outside ≠ .accept := by
    cases greedy <;> simp [Fragment.fork]
  cases greedy with
  | false =>
    rw [best_of_moves hforward h hne, prefer, if_neg Bool.false_ne_true, List.findSome?_append,
      ← hin, ← hout]
    simp only [Fragment.fork, Bool.false_eq_true, if_false, Instr.moves, findSome?_cons_or,
      List.findSome?_nil, Option.or_none]
  | true =>
    rw [best_of_moves hforward h hne, prefer, if_pos rfl, List.findSome?_append, ← hin, ← hout]
    simp only [Fragment.fork, if_true, Instr.moves, findSome?_cons_or, List.findSome?_nil,
      Option.or_none]

/-- A loop over a set goes on after any number of its characters. -/
theorem best_star (hforward : Forward program) {greedy : Bool} {t : CharSet} {next : Nat}
    (hfork : program[base]? = some (Fragment.fork greedy (base + 1) next))
    (hset : program[base + 1]? = some (.set t base)) (rest : List Char) (position : Nat)
    (before : Option Char) (slots : Slots) :
    best program base ⟨position, before, rest, slots⟩ =
      (readMany t greedy position before slots rest).findSome? (best program next) := by
  induction rest generalizing position before with
  | nil =>
    have hin : best program (base + 1) ⟨position, before, [], slots⟩ =
        ([] : List State).findSome? (best program next) := best_of_moves hforward hset (by simp)
    rw [best_fork hforward hfork hin (List.findSome?_singleton).symm, prefer, readMany]
    cases greedy <;> rfl
  | cons c cs ih =>
    have hin : best program (base + 1) ⟨position, before, c :: cs, slots⟩ =
        (if t.contains c then readMany t greedy (position + 1) (some c) slots cs
          else []).findSome? (best program next) := by
      rw [best_of_moves hforward hset (by simp)]
      by_cases hc : t.contains c
      · simp [Instr.moves, State.read, hc, ih]
      · simp [Instr.moves, State.read, hc]
    rw [best_fork hforward hfork hin (List.findSome?_singleton).symm, readMany]

/-- **A fragment goes through its expression and on to the next address.** -/
theorem best_fragment (hforward : Forward program) {e : Expr} (h : e.Flat) {next : Nat}
    (hholds : Holds program base (e.fragment.code base next)) (s : State) :
    best program base s = (e.runs s).findSome? (best program next) := by
  induction h generalizing base next s with
  | empty =>
    rw [best_of_moves hforward hholds.head (by simp)]
    rfl
  | char c =>
    rw [best_of_moves hforward hholds.head (by simp), Instr.moves, List.findSome?_map]
    rfl
  | set t =>
    rw [best_of_moves hforward hholds.head (by simp), Instr.moves, List.findSome?_map]
    rfl
  | look l =>
    rw [best_of_moves hforward hholds.head (by simp), Instr.moves, Expr.runs]
    split_ifs <;> rfl
  | @group e number _ ih =>
    cases number with
    | none => exact ih hholds s
    | some n =>
      have hseq : Holds program base (.save (2 * n) (base + 1) ::
          (e.fragment.code (base + 1) (base + 1 + e.fragment.size) ++ [.save (2 * n + 1) next])) :=
        hholds
      have hclose := hseq.tail.right.head
      rw [e.fragment.length_code] at hclose
      rw [best_of_moves hforward hseq.head (by simp), Instr.moves, List.findSome?_singleton,
        ih hseq.tail.left, Expr.runs, List.findSome?_map]
      refine findSome?_congr fun s' _ => ?_
      rw [best_of_moves hforward hclose (by simp), Instr.moves, List.findSome?_singleton]
      rfl
  | @seq a b _ _ iha ihb =>
    have hseq : Holds program base (a.fragment.code base (base + a.fragment.size) ++
        b.fragment.code (base + a.fragment.size) next) := hholds
    have hright := hseq.right
    rw [a.fragment.length_code] at hright
    rw [iha hseq.left, Expr.runs, findSome?_flatMap]
    exact findSome?_congr fun s' _ => ihb hright s'
  | @alt a b _ _ iha ihb =>
    have halt : Holds program base (.split (base + 1) (base + 1 + a.fragment.size) ::
        (a.fragment.code (base + 1) next ++ b.fragment.code (base + 1 + a.fragment.size) next)) :=
      hholds
    have hright := halt.tail.right
    rw [a.fragment.length_code] at hright
    have hfork : program[base]? =
        some (Fragment.fork true (base + 1) (base + 1 + a.fragment.size)) := halt.head
    exact best_fork hforward hfork (iha halt.tail.left s) (ihb hright s)
  | star greedy t =>
    have hstar : Holds program base [Fragment.fork greedy (base + 1) next, .set t base] := hholds
    exact best_star hforward hstar.head hstar.tail.head _ _ _ _
  | @optional e greedy _ ih =>
    have hoptional : Holds program base
        (Fragment.fork greedy (base + 1) next :: e.fragment.code (base + 1) next) := hholds
    exact best_fork hforward hoptional.head (ih hoptional.tail s) List.findSome?_singleton.symm

end

/-- **The match at a place is the first run** of a flat expression. -/
theorem matchAt_ofExpr {e : Expr} (h : e.Flat) (before : Option Char) (position : Nat)
    (text : List Char) :
    (ofExpr e).matchAt before position text =
      (e.runs ⟨position, before, text, Array.replicate (2 * (e.groups + 1)) none⟩).head?.map
        fun s => ⟨position, s.position, (List.range e.groups).map fun n =>
          slotRange s.slots (n + 1)⟩ := by
  have hcode : Holds e.program 0 (e.fragment.code 0 e.fragment.size ++ [.accept]) := by
    intro k i hk
    rw [Nat.zero_add, Expr.program, List.getElem?_toArray, hk]
  have haccept := hcode.right.head
  rw [e.fragment.length_code, Nat.zero_add] at haccept
  have hfirst : ∀ ss : List State, ss.findSome? (best e.program e.fragment.size) = ss.head? := by
    intro ss
    cases ss with
    | nil => rfl
    | cons s ss => rw [findSome?_cons_or, best_of_accept haccept, Option.some_or, List.head?_cons]
  rw [matchAt_eq_best (p := ofExpr e) h.forward_program]
  exact congrArg (Option.map _)
    ((best_fragment h.forward_program h hcode.left _).trans (hfirst _))

/-! ## Words -/

/-- Flat expressions without groups and conditions. -/
inductive Expr.Wordy : Expr → Prop
  | empty : Wordy .empty
  | char (c) : Wordy (.char c)
  | set (t) : Wordy (.set t)
  | seq {a b} : Wordy a → Wordy b → Wordy (.seq a b)
  | alt {a b} : Wordy a → Wordy b → Wordy (.alt a b)
  | star (greedy t) : Wordy (.rounds 0 none greedy (.set t))
  | optional {e} (greedy) : Wordy e → Wordy (.rounds 0 (some 1) greedy e)

theorem Expr.Wordy.flat {e : Expr} (h : e.Wordy) : e.Flat := by
  induction h with
  | empty => exact .empty
  | char c => exact .char c
  | set t => exact .set t
  | seq _ _ iha ihb => exact .seq iha ihb
  | alt _ _ iha ihb => exact .alt iha ihb
  | star greedy t => exact .star greedy t
  | optional greedy _ ih => exact .optional greedy ih

theorem Expr.Wordy.groups {e : Expr} (h : e.Wordy) : e.groups = 0 := by
  induction h with
  | empty | char | set | star => rfl
  | seq _ _ iha ihb => rw [Expr.groups, iha, ihb, Nat.max_self]
  | alt _ _ iha ihb => rw [Expr.groups, iha, ihb, Nat.max_self]
  | optional greedy _ ih => exact ih

/-- A flat expression without groups and conditions reads a word. -/
def Expr.Reads : Expr → List Char → Prop
  | .empty, w => w = []
  | .char c, w => w = [c]
  | .set t, w => ∃ c, t.contains c = true ∧ w = [c]
  | .look _, _ => False
  | .group _ e, w => e.Reads w
  | .seq a b, w => ∃ u v, w = u ++ v ∧ a.Reads u ∧ b.Reads v
  | .alt a b, w => a.Reads w ∨ b.Reads w
  | .rounds 0 none _ (.set t), w => ∀ c ∈ w, t.contains c = true
  | .rounds 0 (some 1) _ e, w => w = [] ∨ e.Reads w
  | .rounds _ _ _ _, _ => False

theorem Expr.Wordy.sequence {es : List Expr} (h : ∀ e ∈ es, e.Wordy) : (sequence es).Wordy :=
  forall_sequence .empty .seq h

/-- A sequence reads a word of its first expression, and then a word of the others. -/
theorem Expr.reads_sequence_cons {e : Expr} {es : List Expr} {w : List Char} :
    (sequence (e :: es)).Reads w ↔ ∃ u v, w = u ++ v ∧ e.Reads u ∧ (sequence es).Reads v := by
  cases es with
  | nil => simp [Expr.Reads]
  | cons f fs => rw [sequence_cons_cons, Expr.Reads]

/-- The state after some characters. -/
def State.after (s : State) (w : List Char) : State :=
  ⟨s.position + w.length, w.getLast?.or s.before, s.rest.drop w.length, s.slots⟩

/-- A state is reached by reading a word of a language. -/
def State.Reads (s : State) (words : List Char → Prop) (s' : State) : Prop :=
  ∃ w, words w ∧ w <+: s.rest ∧ s' = s.after w

namespace State

variable {s s' : State}

theorem after_nil (s : State) : s.after [] = s := by
  simp [after]

theorem after_append (s : State) (u v : List Char) : (s.after u).after v = s.after (u ++ v) := by
  simp [after, Nat.add_assoc, List.getLast?_append, Option.or_assoc]

theorem append_prefix_iff {u v r : List Char} :
    u ++ v <+: r ↔ u <+: r ∧ v <+: r.drop u.length := by
  constructor
  · rintro ⟨t, rfl⟩
    exact ⟨⟨v ++ t, by rw [List.append_assoc]⟩, ⟨t, by simp⟩⟩
  · rintro ⟨⟨t, rfl⟩, hv⟩
    rw [List.drop_left] at hv
    exact (List.prefix_append_right_inj u).2 hv

theorem mem_read_iff {p : Char → Bool} :
    s' ∈ s.read p ↔ s.Reads (fun w => ∃ c, p c = true ∧ w = [c]) s' := by
  obtain ⟨position, before, rest, slots⟩ := s
  simp only [Reads]
  constructor
  · intro h
    cases rest with
    | nil => cases h
    | cons c cs =>
      simp only [read] at h
      split_ifs at h with hc
      · obtain rfl := List.mem_singleton.1 h
        exact ⟨[c], ⟨c, hc, rfl⟩, ⟨cs, rfl⟩, rfl⟩
      · cases h
  · rintro ⟨_, ⟨c, hc, rfl⟩, ⟨cs, rfl⟩, rfl⟩
    simp [read, after, hc]

theorem mem_prefer_iff {greedy : Bool} {as bs : List State} :
    s' ∈ prefer greedy as bs ↔ s' ∈ as ∨ s' ∈ bs := by
  cases greedy <;> simp [prefer, or_comm]

theorem mem_readMany_iff {t : CharSet} {greedy : Bool} (rest : List Char) (position : Nat)
    (before : Option Char) (slots : Slots) :
    s' ∈ readMany t greedy position before slots rest ↔
      (⟨position, before, rest, slots⟩ : State).Reads
        (fun w => ∀ c ∈ w, t.contains c = true) s' := by
  induction rest generalizing position before with
  | nil => simp [readMany, Reads, List.prefix_nil, after_nil]
  | cons c cs ih =>
    have hnext : ∀ w, (⟨position, before, c :: cs, slots⟩ : State).after (c :: w) =
        (⟨position + 1, some c, cs, slots⟩ : State).after w :=
      fun w => (after_append ⟨position, before, c :: cs, slots⟩ [c] w).symm
    rw [readMany, mem_prefer_iff, List.mem_singleton]
    constructor
    · rintro (h | rfl)
      · split_ifs at h with hc
        · obtain ⟨w, hw, ⟨r, hr⟩, rfl⟩ := (ih _ _).1 h
          exact ⟨c :: w, List.forall_mem_cons.2 ⟨hc, hw⟩, ⟨r, by rw [List.cons_append, hr]⟩,
            (hnext w).symm⟩
        · cases h
      · exact ⟨[], nofun, List.nil_prefix, (after_nil _).symm⟩
    · rintro ⟨w, hw, hstarts, rfl⟩
      cases w with
      | nil => exact .inr (after_nil _)
      | cons d w =>
        obtain ⟨hd, hw⟩ := List.forall_mem_cons.1 hw
        obtain ⟨rfl, htail⟩ := List.cons_prefix_cons.1 hstarts
        rw [if_pos hd]
        exact .inl ((ih _ _).2 ⟨w, hw, htail, hnext w⟩)

end State

/-- **Runs read words.** -/
theorem Expr.Wordy.mem_runs_iff {e : Expr} (h : e.Wordy) {s s' : State} :
    s' ∈ e.runs s ↔ s.Reads e.Reads s' := by
  induction h generalizing s s' with
  | empty => simp [Expr.runs, Expr.Reads, State.Reads, State.after_nil]
  | char c =>
    rw [Expr.runs, State.mem_read_iff]
    simp [State.Reads, Expr.Reads]
  | set t => exact State.mem_read_iff
  | seq _ _ iha ihb =>
    simp only [Expr.runs, List.mem_flatMap, iha, ihb]
    constructor
    · rintro ⟨_, ⟨u, hu, hstarts, rfl⟩, v, hv, hstarts', rfl⟩
      exact ⟨u ++ v, ⟨u, v, rfl, hu, hv⟩, State.append_prefix_iff.2 ⟨hstarts, hstarts'⟩,
        State.after_append _ _ _⟩
    · rintro ⟨_, ⟨u, v, rfl, hu, hv⟩, hstarts, rfl⟩
      obtain ⟨hstarts, hstarts'⟩ := State.append_prefix_iff.1 hstarts
      exact ⟨_, ⟨u, hu, hstarts, rfl⟩, v, hv, hstarts', (State.after_append _ _ _).symm⟩
  | alt _ _ iha ihb =>
    rw [Expr.runs, List.mem_append, iha, ihb]
    simp only [State.Reads, Expr.Reads, or_and_right, exists_or]
  | star greedy t => exact State.mem_readMany_iff _ _ _ _
  | @optional e greedy _ ih =>
    rw [Expr.runs, State.mem_prefer_iff, List.mem_singleton, ih]
    simp only [State.Reads, Expr.Reads, or_and_right, exists_or]
    simp [State.after_nil, or_comm]

end Stencil.Pattern
