import Mathlib.Tactic.Common
import Stencil.Text.Cursor

/-!
# What lies between two places

`c.Reads w c'` says that `w` is the text between the places `c` and `c'`. Readers are specified by
it, so that what a reader has taken and what it has left are named, and no offset is computed twice:
`reads_cons_iff` and `reads_append_iff` cut such a text into parts. `reads_run` is longest match: a
run of one class ends where the class ends, and `run_of_reads` is its converse. `Span.slice_append`
gives a part of a text back from its span.
-/

namespace Stencil

/-! ## Cutting a text -/

theorem takeBytes_append (as bs : List Char) : takeBytes (byteWidth as) (as ++ bs) = as := by
  induction as with
  | nil => simp [takeBytes]
  | cons a as ih =>
    have hpos := a.utf8Size_pos
    obtain ⟨n, hn⟩ : ∃ n, a.utf8Size + byteWidth as = n + 1 :=
      ⟨a.utf8Size + byteWidth as - 1, by omega⟩
    rw [byteWidth_cons, List.cons_append, hn, takeBytes,
      show n + 1 - a.utf8Size = byteWidth as by omega, ih]

theorem dropBytes_append (as bs : List Char) : dropBytes (byteWidth as) (as ++ bs) = bs := by
  have h := takeBytes_append_dropBytes (byteWidth as) (as ++ bs)
  rw [takeBytes_append] at h
  exact List.append_cancel_left h

/-- The span of a part of a text covers that part. -/
theorem Span.slice_append (as bs cs : List Char) (source : String)
    (h : source.toList = as ++ (bs ++ cs)) :
    (⟨byteWidth as, byteWidth as + byteWidth bs⟩ : Span).slice source = String.ofList bs := by
  unfold Span.slice
  rw [h, dropBytes_append, show byteWidth as + byteWidth bs - byteWidth as = byteWidth bs by omega,
    takeBytes_append]

/-! ## Classes of characters -/

/-- The text does not go on with a character of the class `p`. -/
def Stops (p : Char → Bool) (cs : List Char) : Prop :=
  ∀ c ∈ cs.head?, p c = false

@[simp] theorem stops_nil (p : Char → Bool) : Stops p [] := by
  simp [Stops]

@[simp] theorem stops_cons (p : Char → Bool) (c : Char) (cs : List Char) :
    Stops p (c :: cs) ↔ p c = false := by
  simp [Stops]

theorem exists_of_not_stops {p : Char → Bool} {cs : List Char} (h : ¬ Stops p cs) :
    ∃ c, cs.head? = some c ∧ p c = true := by
  simpa [Stops] using h

theorem stops_dropWhile (p : Char → Bool) (cs : List Char) : Stops p (cs.dropWhile p) := by
  induction cs with
  | nil => simp
  | cons a as ih =>
    by_cases h : p a
    · simpa [h] using ih
    · simp [h]

theorem takeWhile_append_of_stops {p : Char → Bool} {as bs : List Char} (has : ∀ a ∈ as, p a)
    (hbs : Stops p bs) : (as ++ bs).takeWhile p = as := by
  rw [List.takeWhile_append_of_pos has]
  cases bs with
  | nil => simp
  | cons b bs => simp [show p b = false from hbs b rfl]

theorem dropWhile_append_of_stops {p : Char → Bool} {as bs : List Char} (has : ∀ a ∈ as, p a)
    (hbs : Stops p bs) : (as ++ bs).dropWhile p = bs := by
  rw [List.dropWhile_append_of_pos has]
  cases bs with
  | nil => rfl
  | cons b bs => simp [show p b = false from hbs b rfl]

/-! ## Reading at a cursor -/

namespace Cursor

/-- From the place `c`, reading the text `w` leads to the place `c'`. -/
structure Reads (c : Cursor) (w : List Char) (c' : Cursor) : Prop where
  rest : c.rest = w ++ c'.rest
  offset : c'.offset = c.offset + byteWidth w

theorem ext {c d : Cursor} (ho : c.offset = d.offset) (hr : c.rest = d.rest) : c = d := by
  cases c
  cases d
  simp_all

theorem reads_nil_iff {c c' : Cursor} : c.Reads [] c' ↔ c' = c := by
  constructor
  · intro h
    exact ext (by simpa using h.offset) (by simpa using h.rest.symm)
  · rintro rfl
    exact ⟨rfl, rfl⟩

theorem Reads.refl (c : Cursor) : c.Reads [] c :=
  reads_nil_iff.2 rfl

theorem Reads.trans {c d e : Cursor} {v w : List Char} (h : c.Reads v d) (h' : d.Reads w e) :
    c.Reads (v ++ w) e :=
  ⟨by rw [h.rest, h'.rest, List.append_assoc],
    by rw [h'.offset, h.offset, byteWidth_append, Nat.add_assoc]⟩

/-- A text fixes the place that it leads to. -/
theorem Reads.unique {c d e : Cursor} {w : List Char} (h : c.Reads w d) (h' : c.Reads w e) :
    d = e :=
  ext (by rw [h.offset, h'.offset]) (List.append_cancel_left (h.rest.symm.trans h'.rest))

theorem reads_append_iff {c e : Cursor} {v w : List Char} :
    c.Reads (v ++ w) e ↔ ∃ d, c.Reads v d ∧ d.Reads w e := by
  constructor
  · intro h
    refine ⟨⟨c.offset + byteWidth v, w ++ e.rest⟩, ⟨?_, rfl⟩, ⟨rfl, ?_⟩⟩
    · rw [h.rest, List.append_assoc]
    · rw [h.offset, byteWidth_append, Nat.add_assoc]
  · rintro ⟨d, h, h'⟩
    exact h.trans h'

theorem reads_skip {c : Cursor} {w r : List Char} (h : c.rest = w ++ r) :
    c.Reads w (c.skip w.length) := by
  obtain ⟨o, cs⟩ := c
  simp only at h
  subst h
  exact ⟨by simp, by simp [skip]⟩

theorem Reads.skip_eq {c c' : Cursor} {w : List Char} (h : c.Reads w c') :
    c.skip w.length = c' :=
  (reads_skip h.rest).unique h

theorem reads_cons_iff {c e : Cursor} {a : Char} {w : List Char} :
    c.Reads (a :: w) e ↔ c.peek? = some a ∧ (c.skip 1).Reads w e := by
  constructor
  · intro h
    have hr : c.rest = [a] ++ (w ++ e.rest) := by simpa using h.rest
    obtain ⟨d, hd, hw⟩ := reads_append_iff.1 (show c.Reads ([a] ++ w) e from h)
    rw [show c.skip 1 = d from hd.skip_eq]
    exact ⟨by simp [peek?, hr], hw⟩
  · rintro ⟨ha, hw⟩
    obtain ⟨r, hr⟩ : ∃ r, c.rest = [a] ++ r := by
      cases hc : c.rest with
      | nil => simp [peek?, hc] at ha
      | cons b r =>
        have hb : b = a := by simpa [peek?, hc] using ha
        exact ⟨r, by rw [hb]; rfl⟩
    exact (reads_skip hr).trans hw

theorem Reads.peek {c e : Cursor} {a : Char} {w : List Char} (h : c.Reads (a :: w) e) :
    c.peek? = some a :=
  (reads_cons_iff.1 h).1

theorem Reads.head_eq {c e : Cursor} {w : List Char} (h : c.Reads w e) (hw : w ≠ []) :
    w.head? = c.peek? := by
  obtain ⟨a, v, rfl⟩ := List.exists_cons_of_ne_nil hw
  exact h.peek.symm

theorem Reads.tail {c e : Cursor} {a : Char} {w : List Char} (h : c.Reads (a :: w) e) :
    (c.skip 1).Reads w e :=
  (reads_cons_iff.1 h).2

/-- A character ahead is read by a step of one. -/
theorem reads_peek {c : Cursor} {a : Char} (h : c.peek? = some a) : c.Reads [a] (c.skip 1) :=
  reads_cons_iff.2 ⟨h, .refl _⟩

theorem rest_of_peek {c : Cursor} {a : Char} (h : c.peek? = some a) :
    c.rest = a :: (c.skip 1).rest :=
  (reads_peek h).rest

theorem skip_skip_one (c : Cursor) : (c.skip 1).skip 1 = c.skip 2 :=
  skip_add 1 1 c

/-- Two characters ahead are read by a step of two. -/
theorem reads_pair {c : Cursor} {a b : Char} (ha : c.peek? = some a)
    (hb : (c.skip 1).peek? = some b) : c.Reads [a, b] (c.skip 2) :=
  skip_skip_one c ▸ (reads_peek ha).trans (reads_peek hb)

/-- A text that goes on with a given one is read over it. -/
theorem exists_reads {c : Cursor} {w r : List Char} (h : c.rest = w ++ r) :
    ∃ d, c.Reads w d ∧ d.rest = r := by
  have hreads := reads_skip h
  exact ⟨_, hreads, (List.append_cancel_left (h.symm.trans hreads.rest)).symm⟩

/-- The longest run of a class is read, and the text does not go on with the class. -/
theorem reads_run (p : Char → Bool) (c : Cursor) : c.Reads (c.run p) (c.skipWhile p) :=
  reads_skip (r := c.rest.dropWhile p) (by rw [run, List.takeWhile_append_dropWhile])

theorem stops_skipWhile (p : Char → Bool) (c : Cursor) : Stops p (c.skipWhile p).rest := by
  rw [rest_skipWhile]
  exact stops_dropWhile p c.rest

theorem mem_run {p : Char → Bool} {c : Cursor} {a : Char} (h : a ∈ c.run p) : p a :=
  List.all_eq_true.1 List.all_takeWhile a h

/-- Characters of a class that the text does not go on with are the longest run of it. -/
theorem run_of_reads {p : Char → Bool} {c c' : Cursor} {w : List Char} (h : c.Reads w c')
    (hw : ∀ a ∈ w, p a) (hs : Stops p c'.rest) : c.run p = w ∧ c.skipWhile p = c' := by
  have hrun : c.run p = w := by rw [run, h.rest, takeWhile_append_of_stops hw hs]
  exact ⟨hrun, by rw [skipWhile, hrun, h.skip_eq]⟩

end Cursor

end Stencil
