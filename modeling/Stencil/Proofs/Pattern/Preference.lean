import Stencil.Proofs.Pattern.Matches

/-!
# What a run prefers

A run follows all threads of a program at once, and drops a thread where another one has stood
before. Read alone, a program is simpler: from an address on, `best` tries one way after the other
and takes the first that comes to the end. The main statement is `matchAt_eq_best`: both find the
same. A dropped thread is superfluous for it, whichever slots it carries, since the one that stood
there before comes first.

That takes programs in which every step that reads nothing leads forward (`Forward`). Then an
address met before, from which a way leads to the end, lies before the first thread still to be
followed that leads there too (`Covered`), so that this thread is none of those that are dropped.
Each step of `follow` keeps this (`bestOf_follow`), and a run goes from one character to the next
(`runThreads_eq`).
-/

namespace Stencil.Pattern

/-! ## One way after the other -/

/-- A place in a text, with what is left to be read there and what the groups have met so far. -/
structure State where
  position : Nat
  before : Option Char
  rest : List Char
  slots : Slots

namespace State

def place (s : State) : Place :=
  ⟨s.position, s.before, s.rest.head?⟩

/-- The state after a character of a class, if one comes next. -/
def read (s : State) (p : Char → Bool) : List State :=
  match s.rest with
  | c :: cs => if p c then [⟨s.position + 1, some c, cs, s.slots⟩] else []
  | [] => []

def write (s : State) (slot : Nat) : State :=
  { s with slots := s.slots.setIfInBounds slot (some s.position) }

def outcome (s : State) : Outcome :=
  ⟨s.position, s.slots⟩

end State

namespace Instr

/-- Where an instruction leads, the preferred way first. -/
def moves (s : State) : Instr → List (Nat × State)
  | .char c next => (s.read (· == c)).map (next, ·)
  | .set t next => (s.read t.contains).map (next, ·)
  | .look l next => if l.holds s.before s.rest.head? then [(next, s)] else []
  | .save slot next => [(next, s.write slot)]
  | .jump next => [(next, s)]
  | .split first second => [(first, s), (second, s)]
  | .accept => []

/-- Whether an instruction leads no further without a character. -/
def Rests : Instr → Prop
  | .char _ _ | .set _ _ | .accept => True
  | _ => False

instance : DecidablePred Rests := fun i => by
  cases i <;> unfold Rests <;> infer_instance

/-- At an address, an instruction reads a character or leads forward. -/
def Forward (address : Nat) : Instr → Prop
  | .look _ next | .save _ next | .jump next => address < next
  | .split first second => address < first ∧ address < second
  | _ => True

end Instr

/-- Every step of a program reads a character or leads forward. -/
def Forward (program : Array Instr) : Prop :=
  ∀ a (i : Instr), program[a]? = some i → i.Forward a

/-- The end of the preferred way from an address through a program. Steps that neither read nor lead
forward are not taken. -/
def best (program : Array Instr) (a : Nat) (s : State) : Option State :=
  match program[a]? with
  | none => none
  | some .accept => some s
  | some i =>
    (i.moves s).findSome? fun m =>
      if m.2.rest.length < s.rest.length ∨
          m.2.rest.length = s.rest.length ∧ program.size - m.1 < program.size - a then
        best program m.1 m.2
      else none
termination_by (s.rest.length, program.size - a)
decreasing_by
  rename_i h
  rcases h with hread | ⟨hrest, hnext⟩
  · exact .left _ _ hread
  · rw [hrest]
    exact .right _ hnext

section

variable {program : Array Instr} {a : Nat} {s : State} {i : Instr}

theorem best_of_none (h : program[a]? = none) : best program a s = none := by
  rw [best, h]

theorem best_of_accept (h : program[a]? = some .accept) : best program a s = some s := by
  rw [best, h]

theorem State.length_of_mem_read {p : Char → Bool} {s' : State} (h : s' ∈ s.read p) :
    s'.rest.length < s.rest.length := by
  unfold State.read at h
  split at h
  · split_ifs at h
    · obtain rfl := List.mem_singleton.1 h
      simp_all
    · cases h
  · cases h

/-- An instruction that reads nothing leads forward and changes only slots. -/
theorem Instr.Forward.silent (hi : i.Forward a) (hrests : ¬ i.Rests) {m : Nat × State}
    (hm : m ∈ i.moves s) : m.2 = { s with slots := m.2.slots } ∧ a < m.1 := by
  cases i with
  | char c next => exact absurd trivial hrests
  | set t next => exact absurd trivial hrests
  | accept => exact absurd trivial hrests
  | look l next =>
    rw [Instr.moves] at hm
    split_ifs at hm
    · obtain rfl := List.mem_singleton.1 hm
      exact ⟨rfl, hi⟩
    · cases hm
  | save slot next =>
    obtain rfl := List.mem_singleton.1 hm
    exact ⟨rfl, hi⟩
  | jump next =>
    obtain rfl := List.mem_singleton.1 hm
    exact ⟨rfl, hi⟩
  | split first second =>
    rcases List.mem_cons.1 hm with rfl | hm
    · exact ⟨rfl, hi.1⟩
    · obtain rfl := List.mem_singleton.1 hm
      exact ⟨rfl, hi.2⟩

/-- What an instruction leads to is further on in the text, or at the same place and further on in
the program. -/
theorem Instr.Forward.moves (hi : i.Forward a) {m : Nat × State} (hm : m ∈ i.moves s) :
    m.2.rest.length < s.rest.length ∨ m.2.rest.length = s.rest.length ∧ a < m.1 := by
  by_cases hrests : i.Rests
  · cases i with
    | char c next =>
      obtain ⟨s', hs', rfl⟩ := List.mem_map.1 hm
      exact .inl (State.length_of_mem_read hs')
    | set t next =>
      obtain ⟨s', hs', rfl⟩ := List.mem_map.1 hm
      exact .inl (State.length_of_mem_read hs')
    | accept => cases hm
    | _ => exact hrests.elim
  · obtain ⟨hstate, hnext⟩ := hi.silent hrests hm
    exact .inr ⟨congrArg (·.rest.length) hstate, hnext⟩

/-- Every step of a program that leads forward is taken. -/
theorem Forward.taken (hforward : Forward program) (h : program[a]? = some i) {m : Nat × State}
    (hm : m ∈ i.moves s) : m.2.rest.length < s.rest.length ∨
      m.2.rest.length = s.rest.length ∧ program.size - m.1 < program.size - a := by
  have hlt : a < program.size := (Array.getElem?_eq_some_iff.1 h).1
  rcases (hforward a i h).moves hm with hread | ⟨hrest, hnext⟩
  · exact .inl hread
  · exact .inr ⟨hrest, by omega⟩

theorem findSome?_cons_or {α β : Type} (f : α → Option β) (x : α) (l : List α) :
    (x :: l).findSome? f = (f x).or (l.findSome? f) := by
  rw [← List.singleton_append, List.findSome?_append, List.findSome?_singleton]

theorem findSome?_congr {α β : Type} {f g : α → Option β} {l : List α} (h : ∀ x ∈ l, f x = g x) :
    l.findSome? f = l.findSome? g := by
  induction l with
  | nil => rfl
  | cons x l ih =>
    obtain ⟨hx, hl⟩ := List.forall_mem_cons.1 h
    rw [findSome?_cons_or, findSome?_cons_or, hx, ih hl]

/-- The best way leads on by the first move that has one. -/
theorem best_of_moves (hforward : Forward program) (h : program[a]? = some i) (hne : i ≠ .accept) :
    best program a s = (i.moves s).findSome? fun m => best program m.1 m.2 := by
  rw [best, h]
  split
  · contradiction
  · simp_all
  · rename_i hsome
    cases hsome
    exact findSome?_congr fun m hm => if_pos (hforward.taken h hm)

/-- With other slots an instruction leads to the same places. -/
theorem Instr.exists_moves_with (i : Instr) (s : State) (slots : Slots) :
    ∃ slots', i.moves { s with slots := slots } =
      (i.moves s).map fun m => (m.1, { m.2 with slots := slots' }) := by
  have hread : ∀ (p : Char → Bool) (next : Nat), (State.read { s with slots := slots } p).map
      (next, ·) = ((s.read p).map (next, ·)).map fun m => (m.1, { m.2 with slots := slots }) := by
    intro p next
    obtain ⟨position, before, rest, old⟩ := s
    cases rest with
    | nil => rfl
    | cons c cs => by_cases hc : p c <;> simp [State.read, hc]
  cases i with
  | char c next => exact ⟨slots, hread _ next⟩
  | set t next => exact ⟨slots, hread _ next⟩
  | look l next =>
    refine ⟨slots, ?_⟩
    simp only [moves]
    split_ifs <;> rfl
  | save slot next => exact ⟨_, rfl⟩
  | jump next => exact ⟨slots, rfl⟩
  | split first second => exact ⟨slots, rfl⟩
  | accept => exact ⟨slots, rfl⟩

/-- Whether a way leads to the end does not depend on the slots. -/
theorem isSome_best (hforward : Forward program) (a : Nat) (s : State) (slots : Slots) :
    (best program a { s with slots := slots }).isSome = (best program a s).isSome := by
  induction a, s using best.induct program generalizing slots with
  | case1 a s h => rw [best_of_none h, best_of_none h]
  | case2 a s h =>
    rw [best_of_accept h, best_of_accept h]
    rfl
  | case3 a s i hne h ih =>
    obtain ⟨slots', hmoves⟩ := i.exists_moves_with s slots
    rw [best_of_moves hforward h hne, best_of_moves hforward h hne, hmoves, List.findSome?_map,
      Bool.eq_iff_iff, List.findSome?_isSome_iff, List.findSome?_isSome_iff]
    refine exists_congr fun m => and_congr_right fun hm => ?_
    rw [← ih m (hforward.taken h hm) slots']
    rfl

end

/-! ## Following -/

/-- The number of addresses that were not met. -/
def unseen (seen : Array Bool) : Nat :=
  seen.toList.countP (!·)

theorem unseen_set {seen : Array Bool} {a : Nat} (h : seen.getD a true = false) :
    a < seen.size ∧ unseen (seen.setIfInBounds a true) + 1 = unseen seen := by
  have hlt : a < seen.size := by
    by_contra hge
    simp [hge] at h
  have hlt' : a < seen.toList.length := hlt
  have hfalse : seen.toList[a] = false := by simpa [hlt] using h
  have hpos : 0 < seen.toList.countP (!·) :=
    List.countP_pos_iff.2 ⟨_, List.getElem_mem hlt', by simp [hfalse]⟩
  refine ⟨hlt, ?_⟩
  rw [unseen, Array.toList_setIfInBounds, List.countP_set hlt', hfalse, unseen]
  simp only [Bool.not_false, if_true, Bool.not_true, Bool.false_eq_true, if_false]
  omega

section

variable {program : Array Instr} {s : State} {fuel : Nat} {t : Thread} {todo found : List Thread}
  {seen : Array Bool} {i : Instr}

theorem follow_seen {place : Place} (h : seen.getD t.address true = true) :
    follow program place (fuel + 1) (t :: todo) seen found =
      follow program place fuel todo seen found := by
  rw [follow, if_pos h]

theorem follow_rests {place : Place} (h : seen.getD t.address true = false)
    (hi : program[t.address]? = some i) (hrests : i.Rests) :
    follow program place (fuel + 1) (t :: todo) seen found =
      follow program place fuel todo (seen.setIfInBounds t.address true) (t :: found) := by
  rw [follow, if_neg (by simp [h])]
  cases i <;> first | exact hrests.elim | simp only [hi]

/-- What reads nothing is replaced by the threads that it leads to. -/
theorem follow_moves (h : seen.getD t.address true = false)
    (hi : program[t.address]? = some i) (hrests : ¬ i.Rests) :
    follow program s.place (fuel + 1) (t :: todo) seen found =
      follow program s.place fuel
        ((i.moves { s with slots := t.slots }).map (fun m => ⟨m.1, m.2.slots⟩) ++ todo)
        (seen.setIfInBounds t.address true) found := by
  rw [follow, if_neg (by simp [h])]
  cases i with
  | char c next => exact absurd trivial hrests
  | set t next => exact absurd trivial hrests
  | accept => exact absurd trivial hrests
  | jump next => simp only [hi]; rfl
  | split first second => simp only [hi]; rfl
  | save slot next => simp only [hi]; rfl
  | look l next =>
    by_cases hl : l.holds s.before s.rest.head? <;> simp [hi, hl, Instr.moves, State.place]

end

/-- The end of the best way of the first thread that has one. -/
def bestOf (program : Array Instr) (s : State) (threads : List Thread) : Option State :=
  threads.findSome? fun t => best program t.address { s with slots := t.slots }

/-- Every address met before from which a way leads to the end lies before the first thread still to
be followed that leads there. -/
def Covered (program : Array Instr) (s : State) (todo : List Thread) (seen : Array Bool) : Prop :=
  ∀ a, seen[a]? = some true → (best program a s).isSome →
    ∃ t, todo.find? (fun t => (best program t.address s).isSome) = some t ∧ a < t.address

section

variable {program : Array Instr} {s : State} {fuel : Nat} {t : Thread} {todo found : List Thread}
  {seen : Array Bool} {i : Instr}

theorem bestOf_append (threads threads' : List Thread) :
    bestOf program s (threads ++ threads') =
      (bestOf program s threads).or (bestOf program s threads') :=
  List.findSome?_append

theorem bestOf_singleton (t : Thread) :
    bestOf program s [t] = best program t.address { s with slots := t.slots } :=
  List.findSome?_singleton

/-- What an instruction that reads nothing leads to is as good as the thread that stands there. -/
theorem bestOf_moves (hforward : Forward program) (hi : program[t.address]? = some i)
    (hrests : ¬ i.Rests) :
    bestOf program s ((i.moves { s with slots := t.slots }).map fun m => ⟨m.1, m.2.slots⟩) =
      best program t.address { s with slots := t.slots } := by
  have hne : i ≠ .accept := by
    rintro rfl
    exact hrests trivial
  rw [best_of_moves hforward hi hne, bestOf, List.findSome?_map]
  refine findSome?_congr fun m hm => ?_
  have hstate := ((hforward _ i hi).silent hrests hm).1
  exact congrArg (best program m.1) hstate.symm

theorem Instr.length_moves_le (i : Instr) (s : State) : (i.moves s).length ≤ 2 := by
  have hread : ∀ p, (s.read p).length ≤ 1 := by
    intro p
    unfold State.read
    split
    · split_ifs <;> simp
    · simp
  cases i with
  | char c next => simpa [moves] using Nat.le_succ_of_le (hread _)
  | set t next => simpa [moves] using Nat.le_succ_of_le (hread _)
  | look l next =>
    rw [moves]
    split_ifs <;> simp
  | _ => simp [moves]

/-- A thread that leads to the end and is dropped would be the first of its kind, and lie after
itself. -/
theorem Covered.best_eq_none (hforward : Forward program) (h : Covered program s (t :: todo) seen)
    (hsize : seen.size = program.size) (hseen : seen.getD t.address true = true) (slots : Slots) :
    best program t.address { s with slots := slots } = none := by
  rw [← Option.not_isSome_iff_eq_none, isSome_best hforward]
  intro hsome
  by_cases hlt : t.address < seen.size
  · have hmet : seen[t.address]? = some true := by simpa [hlt] using hseen
    obtain ⟨t', hfirst, hafter⟩ := h t.address hmet hsome
    simp only [List.find?_cons, hsome, Option.some.injEq] at hfirst
    subst hfirst
    exact Nat.lt_irrefl _ hafter
  · rw [best_of_none (Array.getElem?_eq_none (by omega))] at hsome
    cases hsome

/-- Nothing changes for the others when a thread that leads nowhere is left out. -/
theorem Covered.tail (h : Covered program s (t :: todo) seen)
    (hnone : best program t.address s = none) : Covered program s todo seen := by
  intro a hmet hsome
  obtain ⟨t', hfirst, hafter⟩ := h a hmet hsome
  rw [List.find?_cons_of_neg (by simp [hnone])] at hfirst
  exact ⟨t', hfirst, hafter⟩

theorem getElem?_setIfInBounds_true {a b : Nat} (h : (seen.setIfInBounds a true)[b]? = some true) :
    b = a ∨ seen[b]? = some true := by
  by_cases hab : a = b
  · exact .inl hab.symm
  · rw [Array.getElem?_setIfInBounds_ne hab] at h
    exact .inr h

/-- A thread that rests and leads nowhere is no loss. -/
theorem Covered.rests (h : Covered program s (t :: todo) seen)
    (hnone : best program t.address s = none) :
    Covered program s todo (seen.setIfInBounds t.address true) := by
  intro a hmet hsome
  rcases getElem?_setIfInBounds_true hmet with rfl | hmet
  · rw [hnone] at hsome
    cases hsome
  · exact h.tail hnone a hmet hsome

/-- The threads that take the place of another one lie after it. -/
theorem Covered.moves (hforward : Forward program) (h : Covered program s (t :: todo) seen)
    (hi : program[t.address]? = some i) (hrests : ¬ i.Rests) :
    Covered program s
      ((i.moves { s with slots := t.slots }).map (fun m => ⟨m.1, m.2.slots⟩) ++ todo)
      (seen.setIfInBounds t.address true) := by
  let next := (i.moves { s with slots := t.slots }).map fun m => (⟨m.1, m.2.slots⟩ : Thread)
  let leads := fun t : Thread => (best program t.address s).isSome
  have hnext : (∃ t' ∈ next, leads t') ↔ (best program t.address s).isSome := by
    rw [← isSome_best hforward _ s t.slots, ← bestOf_moves hforward hi hrests, bestOf,
      List.findSome?_isSome_iff]
    simp only [isSome_best hforward]
    rfl
  have hafter : ∀ t' ∈ next, t.address < t'.address := by
    intro t' ht'
    obtain ⟨m, hm, rfl⟩ := List.mem_map.1 ht'
    exact ((hforward _ i hi).silent hrests hm).2
  intro a hmet hsome
  show ∃ t', (next ++ todo).find? leads = some t' ∧ a < t'.address
  rw [List.find?_append]
  by_cases hlead : (best program t.address s).isSome
  · -- one of the new threads leads to the end, so the first of these comes first of all
    have hle : a ≤ t.address := by
      rcases getElem?_setIfInBounds_true hmet with rfl | hmet
      · exact Nat.le_refl _
      · obtain ⟨t', hfirst, hlt⟩ := h a hmet hsome
        simp only [List.find?_cons, hlead, Option.some.injEq] at hfirst
        exact hfirst ▸ Nat.le_of_lt hlt
    obtain ⟨t', ht'⟩ := Option.isSome_iff_exists.1 (List.find?_isSome.2 (hnext.2 hlead))
    have hmem := List.mem_of_find?_eq_some ht'
    exact ⟨t', by rw [ht', Option.some_or], Nat.lt_of_le_of_lt hle (hafter t' hmem)⟩
  · have hnone : next.find? leads = none := by
      rw [← Option.not_isSome_iff_eq_none, List.find?_isSome, hnext]
      exact hlead
    rw [hnone, Option.none_or]
    exact h.rests (Option.not_isSome_iff_eq_none.1 hlead) a hmet hsome

/-- **Following threads keeps the best way.** -/
theorem bestOf_follow (hforward : Forward program) (s : State) (fuel : Nat)
    (todo : List Thread) (seen : Array Bool) (found : List Thread)
    (hsize : seen.size = program.size) (hfuel : todo.length + 2 * unseen seen ≤ fuel)
    (hcovered : bestOf program s found.reverse = none → Covered program s todo seen) :
    let r := follow program s.place fuel todo seen found
    r.1.size = program.size ∧
      bestOf program s r.2.reverse = bestOf program s (found.reverse ++ todo) ∧
      (bestOf program s r.2.reverse = none → Covered program s [] r.1) := by
  induction fuel generalizing todo seen found with
  | zero =>
    obtain rfl : todo = [] := List.eq_nil_of_length_eq_zero (by omega)
    exact ⟨hsize, by rw [List.append_nil]; rfl, hcovered⟩
  | succ fuel ih =>
    cases todo with
    | nil => exact ⟨hsize, by rw [List.append_nil]; rfl, hcovered⟩
    | cons t todo =>
      rw [List.length_cons] at hfuel
      cases hseen : seen.getD t.address true with
      | true =>
        rw [follow_seen hseen]
        have hnone : bestOf program s found.reverse = none →
            ∀ slots, best program t.address { s with slots := slots } = none :=
          fun h => (hcovered h).best_eq_none hforward hsize hseen
        obtain ⟨hsize', hbest, hrest⟩ := ih todo seen found hsize (by omega)
          fun h => (hcovered h).tail (hnone h s.slots)
        refine ⟨hsize', hbest.trans ?_, hrest⟩
        rw [bestOf_append, bestOf_append]
        cases hfound : bestOf program s found.reverse with
        | some s' => rfl
        | none =>
          rw [Option.none_or, Option.none_or, ← List.singleton_append, bestOf_append,
            bestOf_singleton, hnone hfound, Option.none_or]
      | false =>
        obtain ⟨hlt, hunseen⟩ := unseen_set hseen
        obtain ⟨i, hi⟩ : ∃ i, program[t.address]? = some i :=
          ⟨_, Array.getElem?_eq_getElem (hsize ▸ hlt)⟩
        have hsize' : (seen.setIfInBounds t.address true).size = program.size := by
          rw [Array.size_setIfInBounds, hsize]
        by_cases hrests : i.Rests
        · rw [follow_rests hseen hi hrests]
          have happend : (t :: found).reverse ++ todo = found.reverse ++ t :: todo := by simp
          rw [← happend]
          refine ih todo _ (t :: found) hsize' (by omega) fun h => ?_
          rw [List.reverse_cons, bestOf_append, Option.or_eq_none_iff, bestOf_singleton] at h
          refine (hcovered h.1).rests ?_
          rw [← Option.not_isSome_iff_eq_none, ← isSome_best hforward _ s t.slots, h.2]
          exact Bool.false_ne_true
        · rw [follow_moves hseen hi hrests]
          have hlength := i.length_moves_le { s with slots := t.slots }
          obtain ⟨hsize'', hbest, hrest⟩ := ih _ _ found hsize'
            (by rw [List.length_append, List.length_map]; omega)
            fun h => (hcovered h).moves hforward hi hrests
          refine ⟨hsize'', hbest.trans ?_, hrest⟩
          rw [bestOf_append, bestOf_append, bestOf_append, bestOf_moves hforward hi hrests,
            ← List.singleton_append, bestOf_append, bestOf_singleton]

end

/-! ## Runs -/

section

variable {program : Array Instr}

/-- The best way of some threads at a place is that of the threads they lead to. -/
theorem bestOf_threadsFrom (hforward : Forward program) (s : State) (starts : List Thread) :
    bestOf program s (threadsFrom program s.place starts) = bestOf program s starts := by
  -- between two starts nothing is left to be followed, and what was met leads nowhere or is found
  suffices h : ∀ (seen : Array Bool) (found : List Thread), seen.size = program.size →
      (bestOf program s found.reverse = none → Covered program s [] seen) →
      bestOf program s (starts.foldl (fun state t => follow program s.place (2 * program.size + 2)
        [t] state.1 state.2) (seen, found)).2.reverse =
        bestOf program s (found.reverse ++ starts) by
    refine h _ [] (by simp) fun _ a hmet => ?_
    simp [Array.getElem?_replicate] at hmet
  induction starts with
  | nil =>
    intro seen found _ _
    rw [List.append_nil]
    rfl
  | cons t starts ih =>
    intro seen found hsize hcovered
    have hunseen : unseen seen ≤ program.size := hsize ▸ List.countP_le_length
    have hfirst : bestOf program s found.reverse = none → Covered program s [t] seen := by
      intro h a hmet hsome
      obtain ⟨t', ht', -⟩ := hcovered h a hmet hsome
      cases ht'
    obtain ⟨hsize', hbest, hrest⟩ := bestOf_follow hforward s (2 * program.size + 2) [t] seen found
      hsize (by rw [List.length_singleton]; omega) hfirst
    rw [List.foldl_cons, ih _ _ hsize' hrest, bestOf_append, hbest, ← bestOf_append,
      List.append_assoc, List.singleton_append]

/-- A thread stands at an instruction that leads no further without a character. -/
def Thread.Rests (program : Array Instr) (t : Thread) : Prop :=
  ∃ i, program[t.address]? = some i ∧ i.Rests

theorem rests_follow {place : Place} (fuel : Nat) (todo : List Thread) (seen : Array Bool)
    (found : List Thread) (hfound : ∀ t ∈ found, t.Rests program) :
    ∀ t ∈ (follow program place fuel todo seen found).2, t.Rests program := by
  fun_induction follow program place fuel todo seen found
  case case1 | case2 => exact hfound
  case case3 ih | case4 ih | case5 ih | case6 ih | case7 ih | case8 ih | case9 ih => exact ih hfound
  case case10 fuel t todo seen found _ _ i _ _ _ _ hi ih =>
    refine ih (List.forall_mem_cons.2 ⟨⟨i, hi, ?_⟩, hfound⟩)
    cases i <;> first | trivial | simp_all

theorem rests_threadsFrom (place : Place) (starts : List Thread) :
    ∀ t ∈ threadsFrom program place starts, t.Rests program := by
  intro t ht
  rw [threadsFrom, List.mem_reverse] at ht
  revert t
  refine List.foldlRecOn (motive := fun state : Array Bool × List Thread =>
    ∀ t ∈ state.2, t.Rests program) starts _ (List.forall_mem_nil _) ?_
  exact fun state hstate t _ => rests_follow _ _ _ _ hstate

theorem accepted_eq_or (position : Nat) (known : Option Outcome) (threads : List Thread) :
    accepted program position known threads =
      (accepted program position none threads).or known := by
  unfold accepted
  split <;> simp

theorem best_of_accepts {t : Thread} (h : t.accepts program = true) (s : State) :
    best program t.address s = some s := by
  unfold Thread.accepts at h
  split at h
  · rename_i hi
    exact best_of_accept hi
  · cases h

/-- A thread that does not accept leads nowhere at the end of a text. -/
theorem best_at_end (hforward : Forward program) {t : Thread} (hrests : t.Rests program)
    (haccepts : t.accepts program = false) (position : Nat) (before : Option Char) :
    best program t.address ⟨position, before, [], t.slots⟩ = none := by
  obtain ⟨i, hi, hi'⟩ := hrests
  cases i with
  | accept => simp [Thread.accepts, hi] at haccepts
  | char d next => exact best_of_moves hforward hi nofun
  | set d next => exact best_of_moves hforward hi nofun
  | _ => exact hi'.elim

/-- Otherwise it goes on when it reads the next character. -/
theorem best_of_step (hforward : Forward program) {t : Thread} (hrests : t.Rests program)
    (haccepts : t.accepts program = false) (position : Nat) (before : Option Char) (c : Char)
    (cs : List Char) :
    best program t.address ⟨position, before, c :: cs, t.slots⟩ =
      (t.step? program c).bind fun t' =>
        best program t'.address ⟨position + 1, some c, cs, t'.slots⟩ := by
  obtain ⟨i, hi, hi'⟩ := hrests
  cases i with
  | accept => simp [Thread.accepts, hi] at haccepts
  | char d next =>
    rw [best_of_moves hforward hi nofun]
    by_cases hc : c = d <;> simp [Instr.moves, State.read, Thread.step?, hi, hc]
  | set d next =>
    rw [best_of_moves hforward hi nofun]
    by_cases hc : d.contains c <;> simp [Instr.moves, State.read, Thread.step?, hi, hc]
  | _ => exact hi'.elim

theorem accepted_cons (t : Thread) (threads : List Thread) (position : Nat) :
    accepted program position none (t :: threads) =
      if t.accepts program then some ⟨position, t.slots⟩
      else accepted program position none threads := by
  unfold accepted
  by_cases h : t.accepts program <;> simp [h]

theorem bestOf_cons (t : Thread) (threads : List Thread) (s : State) :
    bestOf program s (t :: threads) =
      (best program t.address { s with slots := t.slots }).or (bestOf program s threads) :=
  findSome?_cons_or _ _ _

/-- At the end of a text the best way is that of a thread that accepts. -/
theorem bestOf_at_end (hforward : Forward program) {s : State} (hrest : s.rest = [])
    {threads : List Thread} (hrests : ∀ t ∈ threads, t.Rests program) :
    (bestOf program s threads).map State.outcome =
      accepted program s.position none threads := by
  obtain ⟨position, before, rest, slots⟩ := s
  obtain rfl : rest = [] := hrest
  induction threads with
  | nil => rfl
  | cons t threads ih =>
    obtain ⟨ht, hthreads⟩ := List.forall_mem_cons.1 hrests
    rw [bestOf_cons, accepted_cons]
    cases haccepts : t.accepts program with
    | true => simp [best_of_accepts haccepts, State.outcome]
    | false =>
      rw [best_at_end hforward ht haccepts, Option.none_or, if_neg Bool.false_ne_true]
      exact ih hthreads

/-- The best way goes on from one of the threads that read the next character, or else it ends with
a thread that accepts. -/
theorem bestOf_step (hforward : Forward program) {s : State} {c : Char} {cs : List Char}
    (hrest : s.rest = c :: cs) {threads : List Thread} (hrests : ∀ t ∈ threads, t.Rests program) :
    (bestOf program s threads).map State.outcome =
      ((bestOf program ⟨s.position + 1, some c, cs, s.slots⟩
        ((threads.takeWhile fun t => !t.accepts program).filterMap (·.step? program c))).map
          State.outcome).or (accepted program s.position none threads) := by
  obtain ⟨position, before, rest, slots⟩ := s
  obtain rfl : rest = c :: cs := hrest
  induction threads with
  | nil => rfl
  | cons t threads ih =>
    obtain ⟨ht, hthreads⟩ := List.forall_mem_cons.1 hrests
    rw [bestOf_cons, accepted_cons]
    cases haccepts : t.accepts program with
    | true => simp [best_of_accepts haccepts, State.outcome, haccepts, bestOf]
    | false =>
      rw [best_of_step hforward ht haccepts, if_neg Bool.false_ne_true,
        List.takeWhile_cons_of_pos (by simp [haccepts]), List.filterMap_cons, Option.map_or,
        ih hthreads]
      cases t.step? program c with
      | none => simp only [Option.bind_none, Option.map_none, Option.none_or]
      | some t' => simp only [Option.bind_some, bestOf_cons, Option.map_or, Option.or_assoc]

/-- **A run finds the best way.** -/
theorem runThreads_eq (hforward : Forward program) (text : List Char) (s : State)
    (hrest : s.rest = text) (known : Option Outcome) (threads : List Thread)
    (hrests : ∀ t ∈ threads, t.Rests program) :
    runThreads program s.position known threads text =
      ((bestOf program s threads).map State.outcome).or known := by
  induction text generalizing s known threads with
  | nil => rw [bestOf_at_end hforward hrest hrests, runThreads, accepted_eq_or]
  | cons c cs ih =>
    rw [bestOf_step hforward hrest hrests, Option.or_assoc, ← accepted_eq_or]
    simp only [runThreads]
    split
    · rename_i hmoved
      rw [hmoved]
      rfl
    · rename_i hmoved
      let next : State := ⟨s.position + 1, some c, cs, s.slots⟩
      have hkeep := bestOf_threadsFrom hforward next
        ((threads.takeWhile fun t => !t.accepts program).filterMap (·.step? program c))
      refine (ih next rfl _ _ (rests_threadsFrom next.place _)).trans ?_
      exact congrArg (fun o : Option State => (o.map State.outcome).or _) hkeep

end

/-- **The match at a place is read off the best way.** -/
theorem matchAt_eq_best {p : Pattern} (hforward : Forward p.program) (before : Option Char)
    (position : Nat) (text : List Char) :
    p.matchAt before position text =
      (best p.program 0 ⟨position, before, text, Array.replicate (2 * (p.groups + 1)) none⟩).map
        fun s => ⟨position, s.position, (List.range p.groups).map fun n =>
          slotRange s.slots (n + 1)⟩ := by
  let s : State := ⟨position, before, text, Array.replicate (2 * (p.groups + 1)) none⟩
  have hrun := runThreads_eq hforward text s rfl none
    (threadsFrom p.program s.place [⟨0, s.slots⟩]) (rests_threadsFrom _ _)
  rw [bestOf_threadsFrom hforward, bestOf_singleton, Option.or_none] at hrun
  have hmatch : p.matchAt before position text =
      ((best p.program 0 s).map State.outcome).map fun o =>
        ⟨position, o.stop, (List.range p.groups).map fun n => slotRange o.slots (n + 1)⟩ :=
    congrArg (Option.map _) hrun
  rw [hmatch, Option.map_map]
  rfl

end Stencil.Pattern
