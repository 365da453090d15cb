import Stencil.Proofs.Spelling.Reference

/-!
# Writing in pieces

Running text is a sequence of pieces, and its reader goes piece by piece. `Writing` says what one
piece is: its text, the texts that it may stand before, and what it stands for. From the law of one
step (`Writing.ReadBy`) follow the laws of a whole run, up to a closing character
(`Writing.ReadBy.upTo_eq_ok_iff`) and up to the end (`Writing.ReadBy.all_eq_ok_iff`), also when a
piece cannot be read (`Writing.ReadBy.all_eq_error_iff`).
-/

namespace Stencil

namespace Spelling

/-- A way to write things in pieces of the type `π`, at the byte offset where a piece begins. -/
structure Writing (π α : Type) where
  text : π → List Char
  Fits : π → List Char → Prop
  value : Nat → π → α

namespace Writing

variable {π α : Type} (W : Writing π α)

/-- The pieces, one after the other. -/
def texts (ps : List π) : List Char :=
  ps.flatMap W.text

/-- Every piece fits before the pieces after it and the text `rest`. -/
def Fit : List π → List Char → Prop
  | [], _ => True
  | p :: ps, rest => W.Fits p (W.texts ps ++ rest) ∧ Fit ps rest

/-- What the pieces stand for, from the byte `o` on. -/
def values : Nat → List π → List α
  | _, [] => []
  | o, p :: ps => W.value o p :: values (o + byteWidth (W.text p)) ps

@[simp] theorem texts_nil : W.texts [] = [] := rfl

@[simp] theorem texts_cons (p : π) (ps : List π) : W.texts (p :: ps) = W.text p ++ W.texts ps := rfl

theorem texts_append (ps qs : List π) : W.texts (ps ++ qs) = W.texts ps ++ W.texts qs :=
  List.flatMap_append

theorem fit_append (ps qs : List π) (rest : List Char) :
    W.Fit (ps ++ qs) rest ↔ W.Fit ps (W.texts qs ++ rest) ∧ W.Fit qs rest := by
  induction ps with
  | nil => simp [Fit]
  | cons p ps ih => simp [Fit, ih, texts_append, and_assoc]

/-- Pieces that fit before every text fit one after the other. -/
theorem fit_of_forall {ps : List π} (h : ∀ p ∈ ps, ∀ rest, W.Fits p rest) (rest : List Char) :
    W.Fit ps rest := by
  induction ps with
  | nil => trivial
  | cons p ps ih =>
    exact ⟨h p List.mem_cons_self _, ih fun q hq => h q (List.mem_cons_of_mem p hq)⟩

theorem values_append (o : Nat) (ps qs : List π) :
    W.values o (ps ++ qs) = W.values o ps ++ W.values (o + byteWidth (W.texts ps)) qs := by
  induction ps generalizing o with
  | nil => simp [values]
  | cons p ps ih => simp [values, ih, Nat.add_assoc]

@[simp] theorem length_values (o : Nat) (ps : List π) : (W.values o ps).length = ps.length := by
  induction ps generalizing o with
  | nil => rfl
  | cons p ps ih => simp [values, ih]

/-- A change that forgets where pieces stand gives the same for a writing at every place. -/
theorem map_values_congr {β : Type} {f : α → β} (hf : ∀ o k p, f (W.value o p) = f (W.value k p))
    (o k : Nat) (ps : List π) : (W.values o ps).map f = (W.values k ps).map f := by
  induction ps generalizing o k with
  | nil => rfl
  | cons p ps ih => rw [values, values, List.map_cons, List.map_cons, hf o k, ih]

theorem take_values (o n : Nat) (ps : List π) :
    (W.values o ps).take n = W.values o (ps.take n) := by
  induction ps generalizing o n with
  | nil => simp [values]
  | cons p ps ih =>
    cases n with
    | zero => rfl
    | succ n => simp [values, ih]

theorem drop_values (o n : Nat) (ps : List π) :
    (W.values o ps).drop n = W.values (o + byteWidth (W.texts (ps.take n))) (ps.drop n) := by
  induction ps generalizing o n with
  | nil => simp [values]
  | cons p ps ih =>
    cases n with
    | zero => rfl
    | succ n => simp [values, ih, Nat.add_assoc]

theorem getElem?_values (o i : Nat) (ps : List π) :
    (W.values o ps)[i]? = ps[i]?.map (W.value (o + byteWidth (W.texts (ps.take i)))) := by
  induction ps generalizing o i with
  | nil => rfl
  | cons p ps ih =>
    cases i with
    | zero => rfl
    | succ i => simp [values, ih, Nat.add_assoc]

/-- What a writing stands for comes from one of its pieces, which fits before what follows it. -/
theorem exists_of_mem_values {W : Writing π α} {o : Nat} {ps : List π} {rest : List Char} {a : α}
    (hfit : W.Fit ps rest) (ha : a ∈ W.values o ps) :
    ∃ u p w, W.texts ps ++ rest = u ++ (W.text p ++ w) ∧ W.Fits p w ∧
      a = W.value (o + byteWidth u) p := by
  induction ps generalizing o with
  | nil => cases ha
  | cons p ps ih =>
    obtain ⟨hp, hps⟩ := hfit
    rcases List.mem_cons.1 ha with rfl | ha
    · exact ⟨[], p, W.texts ps ++ rest, by simp, hp, by simp⟩
    · obtain ⟨u, q, w, htexts, hfits, rfl⟩ := ih hps ha
      refine ⟨W.text p ++ u, q, w, ?_, hfits, ?_⟩
      · rw [W.texts_cons, List.append_assoc, htexts, List.append_assoc]
      · rw [byteWidth_append, Nat.add_assoc]

/-- A reader of one step reads exactly the pieces of the writing, wherever the text does not
begin with the closing character. -/
structure ReadBy (s : Step α) (close : Option Char) : Prop where
  read_iff : ∀ {c c' : Cursor} {b : Char} {a : α}, c.peek? = some b → some b ≠ close →
    (s.read c = .ok (a, c') ↔
      ∃ p, W.Fits p c'.rest ∧ c.Reads (W.text p) c' ∧ a = W.value c.offset p)
  opens : ∀ {p : π} {rest : List Char}, W.Fits p rest →
    ∃ a w, W.text p = a :: w ∧ some a ≠ close

end Writing

end Spelling

open Spelling

/-! ## From a step to a run -/

theorem Step.upTo_eq {α : Type} (s : Step α) (close : Char) (atEnd : Fault) (c : Cursor) :
    s.upTo close atEnd c =
      match c.peek? with
      | none => .error atEnd
      | some d =>
        if d = close then .ok ([], c.skip 1)
        else
          match s.read c with
          | .error f => .error f
          | .ok (a, c') =>
            match s.upTo close atEnd c' with
            | .error f => .error f
            | .ok (as, c'') => .ok (a :: as, c'') := by
  rw [Step.upTo]
  split
  · rename_i hnil
    have hpeek : c.peek? = none := by rw [Cursor.peek?, hnil]; rfl
    rw [hpeek]
  · rename_i d ds hcons
    have hpeek : c.peek? = some d := by rw [Cursor.peek?, hcons]; rfl
    rw [hpeek]
    dsimp only
    split_ifs
    · rfl
    · split
      · rename_i hread
        rw [hread]
      · rename_i hread
        exact hread ▸ rfl

theorem Step.upTo_close {α : Type} (s : Step α) {close : Char} (atEnd : Fault) {c : Cursor}
    (h : c.peek? = some close) : s.upTo close atEnd c = .ok ([], c.skip 1) := by
  rw [s.upTo_eq, h]
  exact if_pos rfl

theorem Step.upTo_of_read {α : Type} (s : Step α) {close d : Char} (atEnd : Fault) {c c' : Cursor}
    {a : α} (hd : c.peek? = some d) (hne : d ≠ close) (h : s.read c = .ok (a, c')) :
    s.upTo close atEnd c =
      match s.upTo close atEnd c' with
      | .error f => .error f
      | .ok (as, c'') => .ok (a :: as, c'') := by
  rw [s.upTo_eq, hd, h]
  exact if_neg hne

theorem Step.all_eq {α : Type} (s : Step α) (c : Cursor) :
    s.all c =
      match c.peek? with
      | none => .ok []
      | some _ =>
        match s.read c with
        | .error f => .error f
        | .ok (a, c') =>
          match s.all c' with
          | .error f => .error f
          | .ok as => .ok (a :: as) := by
  rw [Step.all]
  split
  · rename_i hnil
    have hpeek : c.peek? = none := by rw [Cursor.peek?, hnil]; rfl
    rw [hpeek]
  · rename_i d ds hcons
    have hpeek : c.peek? = some d := by rw [Cursor.peek?, hcons]; rfl
    rw [hpeek]
    split
    · rename_i hread
      rw [hread]
    · rename_i hread
      dsimp only
      exact hread ▸ rfl

theorem Step.all_nil {α : Type} (s : Step α) {c : Cursor} (h : c.rest = []) : s.all c = .ok [] := by
  rw [s.all_eq, show c.peek? = none by rw [Cursor.peek?, h]; rfl]

theorem Step.all_of_read {α : Type} (s : Step α) {d : Char} {c c' : Cursor} {a : α}
    (hd : c.peek? = some d) (h : s.read c = .ok (a, c')) :
    s.all c =
      match s.all c' with
      | .error f => .error f
      | .ok as => .ok (a :: as) := by
  rw [s.all_eq, hd, h]

theorem Step.all_of_fault {α : Type} (s : Step α) {d : Char} {c : Cursor} {f : Fault}
    (hd : c.peek? = some d) (h : s.read c = .error f) : s.all c = .error f := by
  rw [s.all_eq, hd, h]

namespace Spelling.Writing.ReadBy

variable {π α : Type} {W : Writing π α} {s : Step α}

/-- Pieces up to a closing character. -/
theorem upTo_eq_ok_iff {close : Char} (h : W.ReadBy s (some close)) {atEnd : Fault} {c c' : Cursor}
    {as : List α} :
    s.upTo close atEnd c = .ok (as, c') ↔
      ∃ ps, W.Fit ps (close :: c'.rest) ∧ c.Reads (W.texts ps ++ [close]) c' ∧
        as = W.values c.offset ps := by
  constructor
  · intro hread
    fun_induction s.upTo close atEnd c generalizing as with
    | case1 => cases hread
    | case2 c rest hrest =>
      cases hread
      have hpeek : c.peek? = some close := by rw [Cursor.peek?, hrest]; rfl
      exact ⟨[], trivial, Cursor.reads_peek hpeek, rfl⟩
    | case3 => cases hread
    | case4 => cases hread
    | case5 c d rest hrest hne a c₁ hstep _ as₁ c₂ hrun ih =>
      cases hread
      have hpeek : c.peek? = some d := by rw [Cursor.peek?, hrest]; rfl
      obtain ⟨p, hp, hreads, rfl⟩ := (h.read_iff hpeek (by simpa using hne)).1 hstep
      obtain ⟨ps, hps, hreads', rfl⟩ := ih hrun
      refine ⟨p :: ps, ⟨?_, hps⟩, ?_, ?_⟩
      · simpa [hreads'.rest] using hp
      · simpa using hreads.trans hreads'
      · rw [values, hreads.offset]
  · rintro ⟨ps, hps, hreads, rfl⟩
    induction ps generalizing c with
    | nil =>
      rw [s.upTo_close atEnd hreads.peek]
      exact congrArg Except.ok (Prod.ext rfl hreads.skip_eq)
    | cons p ps ih =>
      rw [texts_cons, List.append_assoc] at hreads
      obtain ⟨d, hd, hrest⟩ := Cursor.reads_append_iff.1 hreads
      obtain ⟨a, w, hw, ha⟩ := h.opens hps.1
      have hpeek : c.peek? = some a := (hw ▸ hd).peek
      have hp : W.Fits p d.rest := by
        have hfits := hps.1
        rw [hrest.rest]
        simpa using hfits
      have hstep := (h.read_iff hpeek ha).2 ⟨p, hp, hd, rfl⟩
      rw [s.upTo_of_read atEnd hpeek (by simpa using ha) hstep, ih hps.2 hrest, values, hd.offset]

/-- Pieces up to the end of the source. -/
theorem all_eq_ok_iff (h : W.ReadBy s none) {c : Cursor} {as : List α} :
    s.all c = .ok as ↔ ∃ ps, W.Fit ps [] ∧ c.rest = W.texts ps ∧ as = W.values c.offset ps := by
  constructor
  · intro hread
    fun_induction s.all c generalizing as with
    | case1 c hrest =>
      cases hread
      exact ⟨[], trivial, hrest, rfl⟩
    | case2 => cases hread
    | case3 => cases hread
    | case4 c d rest hrest a c₁ hstep _ as₁ hrun ih =>
      cases hread
      have hpeek : c.peek? = some d := by rw [Cursor.peek?, hrest]; rfl
      obtain ⟨p, hp, hreads, rfl⟩ := (h.read_iff hpeek (by simp)).1 hstep
      obtain ⟨ps, hps, htexts, rfl⟩ := ih hrun
      refine ⟨p :: ps, ⟨?_, hps⟩, ?_, ?_⟩
      · simpa [htexts] using hp
      · rw [hreads.rest, htexts, texts_cons]
      · rw [values, hreads.offset]
  · rintro ⟨ps, hps, htexts, rfl⟩
    induction ps generalizing c with
    | nil => exact s.all_nil htexts
    | cons p ps ih =>
      obtain ⟨d, hd, hrest⟩ := Cursor.exists_reads htexts
      obtain ⟨a, w, hw, ha⟩ := h.opens hps.1
      have hpeek : c.peek? = some a := (hw ▸ hd).peek
      have hp : W.Fits p d.rest := by
        have hfits := hps.1
        rw [List.append_nil] at hfits
        rw [hrest]
        exact hfits
      have hstep := (h.read_iff hpeek ha).2 ⟨p, hp, hd, rfl⟩
      rw [s.all_of_read hpeek hstep, ih hps.2 hrest, values, hd.offset]

/-- Reading fails at the first place that no piece can be read from. -/
theorem all_eq_error_iff (h : W.ReadBy s none) {c : Cursor} {f : Fault} :
    s.all c = .error f ↔ ∃ ps d, W.Fit ps d.rest ∧ c.Reads (W.texts ps) d ∧ d.rest ≠ [] ∧
      s.read d = .error f := by
  constructor
  · intro hread
    fun_induction s.all c with
    | case1 => cases hread
    | case2 c d rest hrest f' hstep =>
      cases hread
      exact ⟨[], c, trivial, .refl c, by rw [hrest]; exact List.cons_ne_nil _ _, hstep⟩
    | case3 c d rest hrest a c₁ hstep _ f' hrun ih =>
      cases hread
      have hpeek : c.peek? = some d := by rw [Cursor.peek?, hrest]; rfl
      obtain ⟨p, hp, hreads, -⟩ := (h.read_iff hpeek (by simp)).1 hstep
      obtain ⟨ps, e, hps, hreads', hne, hfault⟩ := ih hrun
      refine ⟨p :: ps, e, ⟨?_, hps⟩, hreads.trans hreads', hne, hfault⟩
      rwa [← hreads'.rest]
    | case4 => cases hread
  · rintro ⟨ps, e, hps, hreads, hne, hfault⟩
    induction ps generalizing c with
    | nil =>
      obtain rfl := Cursor.reads_nil_iff.1 hreads
      obtain ⟨a, w, hw⟩ := List.exists_cons_of_ne_nil hne
      exact s.all_of_fault (d := a) (by rw [Cursor.peek?, hw]; rfl) hfault
    | cons p ps ih =>
      obtain ⟨d, hd, hrest⟩ := Cursor.reads_append_iff.1 hreads
      obtain ⟨a, w, hw, ha⟩ := h.opens hps.1
      have hpeek : c.peek? = some a := (hw ▸ hd).peek
      have hp : W.Fits p d.rest := hrest.rest ▸ hps.1
      rw [s.all_of_read hpeek ((h.read_iff hpeek ha).2 ⟨p, hp, hd, rfl⟩), ih hps.2 hrest]

end Spelling.Writing.ReadBy

end Stencil
