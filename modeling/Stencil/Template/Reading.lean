import Stencil.Template.Error

/-!
# Reading at a cursor

A reader takes a place in the source and gives a value with the place after it, or a fault. Places
only ever move forward, character by character, which `Cursor.Reaches` states: whatever a reader
gives, its new place is the old one after some characters. `Step` bundles a reader of one piece with
the proof that it moves on, and `Step.upTo` and `Step.all` read pieces up to a closing character
and up to the end of the source.
-/

namespace Stencil

/-- One place is another one after `n` characters or more, for some number of them. -/
def Cursor.Reaches (least : Nat) (c c' : Cursor) : Prop :=
  ∃ n, c' = c.skip (least + n)

namespace Cursor.Reaches

theorem skip (n : Nat) (c : Cursor) : Reaches n c (c.skip n) :=
  ⟨0, rfl⟩

theorem refl (c : Cursor) : Reaches 0 c c :=
  ⟨0, by simp [Cursor.skip]⟩

theorem skipWhile (p : Char → Bool) (c : Cursor) : Reaches 0 c (c.skipWhile p) :=
  ⟨(c.run p).length, by simp [Cursor.skipWhile]⟩

theorem trans {m n : Nat} {a b c : Cursor} (hab : Reaches m a b) (hbc : Reaches n b c) :
    Reaches (m + n) a c := by
  obtain ⟨i, rfl⟩ := hab
  obtain ⟨j, rfl⟩ := hbc
  exact ⟨i + j, by rw [skip_add]; congr 1; omega⟩

theorem weaken {m n : Nat} {a b : Cursor} (h : Reaches m a b) (hn : n ≤ m) : Reaches n a b := by
  obtain ⟨i, rfl⟩ := h
  exact ⟨m - n + i, by congr 1; omega⟩

theorem length_lt {n : Nat} {a b : Cursor} (h : Reaches (n + 1) a b) (ha : a.rest ≠ []) :
    b.rest.length < a.rest.length := by
  obtain ⟨i, rfl⟩ := h
  have := List.length_pos_iff.2 ha
  rw [length_rest_skip]
  omega

end Cursor.Reaches

/-- What a reader gives. -/
abbrev Reading (α : Type) := Except Fault (α × Cursor)

/-- A reader of one piece, which reads one character at least. -/
structure Step (α : Type) where
  read : Cursor → Reading α
  reaches : ∀ {c c' : Cursor} {a : α}, read c = .ok (a, c') → c.Reaches 1 c'

namespace Step

/-- Reads pieces up to the character `close`, and that character. A source that ends before it has
the fault `atEnd`. -/
def upTo {α : Type} (s : Step α) (close : Char) (atEnd : Fault) (c : Cursor) :
    Reading (List α) :=
  match hc : c.rest with
  | [] => .error atEnd
  | d :: _ =>
    if d = close then .ok ([], c.skip 1)
    else
      match hs : s.read c with
      | .error f => .error f
      | .ok (a, c') =>
        have : c'.rest.length < c.rest.length := (s.reaches hs).length_lt (by simp [hc])
        match s.upTo close atEnd c' with
        | .error f => .error f
        | .ok (as, c'') => .ok (a :: as, c'')
termination_by c.rest.length

/-- Reads pieces up to the end of the source. -/
def all {α : Type} (s : Step α) (c : Cursor) : Except Fault (List α) :=
  match hc : c.rest with
  | [] => .ok []
  | _ :: _ =>
    match hs : s.read c with
    | .error f => .error f
    | .ok (a, c') =>
      have : c'.rest.length < c.rest.length := (s.reaches hs).length_lt (by simp [hc])
      match s.all c' with
      | .error f => .error f
      | .ok as => .ok (a :: as)
termination_by c.rest.length

theorem reaches_upTo {α : Type} (s : Step α) (close : Char) (atEnd : Fault) {c c' : Cursor}
    {as : List α} (h : s.upTo close atEnd c = .ok (as, c')) : c.Reaches 1 c' := by
  fun_induction s.upTo close atEnd c generalizing as with
  | case1 => simp at h
  | case2 c =>
    simp only [Except.ok.injEq, Prod.mk.injEq] at h
    exact h.2 ▸ Cursor.Reaches.skip 1 c
  | case3 => simp at h
  | case4 => simp at h
  | case5 c d rest hc hd a c₁ hs hlt as₁ c₂ hu ih =>
    simp only [Except.ok.injEq, Prod.mk.injEq] at h
    exact ((s.reaches hs).trans (ih (h.2 ▸ hu))).weaken (by omega)

end Step

end Stencil
