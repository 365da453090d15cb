import Stencil.Template.Reading

/-!
# Reading references

Names, subscripts and references to variables: `$name`, `$` with a name in braces, and a name in
braces with a subscript. Every reader comes with a lemma that it moves forward.
-/

namespace Stencil

/-- The end of the branch of a reader that fails. -/
def fault {α : Type} (c : Cursor) (reason : Reason) : Except Fault α :=
  .error ⟨c.offset, reason⟩

/-- Reads the longest name; it may be empty. -/
def readName (c : Cursor) : String × Cursor :=
  (String.ofList (c.run isNameChar), c.skipWhile isNameChar)

/-- The number that decimal digits stand for. -/
def decimal (ds : List Char) : Nat :=
  ds.foldl (fun n d => 10 * n + (d.toNat - '0'.toNat)) 0

/-- Whether a number fits in 64 bits with a sign. -/
def isWord (i : Int) : Bool :=
  -Int.pow 2 63 ≤ i && i < Int.pow 2 63

/-- Reads the digits at `d` of a number that starts at `c`, with or without a minus sign. -/
def readDigits (negative : Bool) (c d : Cursor) : Reading (Option Int) :=
  let digits := d.run Char.isDigit
  if digits.isEmpty then
    if negative then fault c .missingDigits else .ok (none, d)
  else
    let n : Int := decimal digits
    let i := if negative then -n else n
    if isWord i then .ok (some i, d.skipWhile Char.isDigit) else fault c .subscriptRange

/-- Reads a number with an optional minus sign, or nothing. -/
def readIndex (c : Cursor) : Reading (Option Int) :=
  if c.peek? = some '-' then readDigits true c (c.skip 1) else readDigits false c c

/-- Reads the bracket that ends a subscript. -/
def closeSubscript (s : Subscript) (c : Cursor) : Reading Subscript :=
  if c.peek? = some ']' then .ok (s, c.skip 1) else fault c .invalidSubscript

/-- Reads a subscript at its opening bracket. -/
def readSubscript (c : Cursor) : Reading Subscript :=
  match readIndex (c.skip 1) with
  | .error f => .error f
  | .ok (start, d) =>
    if d.peek? = some ':' then
      match readIndex (d.skip 1) with
      | .error f => .error f
      | .ok (stop, e) =>
        if e.peek? = some ':' then fault e .stride
        else closeSubscript (.slice start stop) e
    else
      match start with
      | some i => closeSubscript (.index i) d
      | none => if d.peek? = some ']' then fault c .emptySubscript else fault d .invalidSubscript

/-- Reads a subscript where one begins. -/
def readSubscript? (c : Cursor) : Reading (Option Subscript) :=
  if c.peek? = some '[' then
    match readSubscript c with
    | .error f => .error f
    | .ok (s, d) => .ok (some s, d)
  else .ok (none, c)

/-- Reads `$name` at the dollar sign. -/
def readBare (c : Cursor) : VariableRef × Cursor :=
  let (name, d) := readName (c.skip 1)
  (⟨name, none, false, ⟨c.offset, d.offset⟩⟩, d)

/-- Reads a name in braces, with or without a subscript, at the dollar sign. Anything else in braces
is no simple reference, but a faulty subscript is a fault. -/
def readSimple (c : Cursor) : Except Fault (Option (VariableRef × Cursor)) :=
  let (name, d) := readName (c.skip 2)
  if name = "" then .ok none
  else
    match readSubscript? d with
    | .error f => .error f
    | .ok (s, e) =>
      if e.peek? = some '}' then
        .ok (some (⟨name, s, true, ⟨c.offset, (e.skip 1).offset⟩⟩, e.skip 1))
      else .ok none

/-- Reads a reference inside a string or a replacement, at the dollar sign. A doubled dollar sign is
a dollar sign, and so is one that starts no simple reference. -/
def readNested {α : Type} (ofRef : VariableRef → α) (c : Cursor) : Reading (Char ⊕ α) :=
  match (c.skip 1).peek? with
  | some '$' => .ok (.inl '$', c.skip 2)
  | some '{' =>
    match readSimple c with
    | .error f => .error f
    | .ok (some (v, d)) => .ok (.inr (ofRef v), d)
    | .ok none => .ok (.inl '$', c.skip 1)
  | some d =>
    if isNameChar d then .ok (.inr (ofRef (readBare c).1), (readBare c).2)
    else .ok (.inl '$', c.skip 1)
  | none => .ok (.inl '$', c.skip 1)

/-! ## Readers move forward -/

theorem reaches_readDigits {negative : Bool} {c d c' : Cursor} {i : Option Int}
    (h : readDigits negative c d = .ok (i, c')) : d.Reaches 0 c' := by
  simp only [readDigits, fault] at h
  split at h
  · split at h
    · simp at h
    · simp only [Except.ok.injEq, Prod.mk.injEq] at h
      exact h.2 ▸ .refl d
  · split at h <;> split at h <;> simp only [reduceCtorEq, Except.ok.injEq, Prod.mk.injEq] at h
    all_goals exact h.2 ▸ .skipWhile _ _

theorem reaches_readIndex {c c' : Cursor} {i : Option Int} (h : readIndex c = .ok (i, c')) :
    c.Reaches 0 c' := by
  simp only [readIndex] at h
  split at h
  · exact ((Cursor.Reaches.skip 1 c).trans (reaches_readDigits h)).weaken (by omega)
  · exact reaches_readDigits h

theorem reaches_closeSubscript {s s' : Subscript} {c c' : Cursor}
    (h : closeSubscript s c = .ok (s', c')) : c.Reaches 1 c' := by
  simp only [closeSubscript, fault] at h
  split at h
  · simp only [Except.ok.injEq, Prod.mk.injEq] at h
    exact h.2 ▸ .skip 1 c
  · simp at h

theorem reaches_readSubscript {c c' : Cursor} {s : Subscript}
    (h : readSubscript c = .ok (s, c')) : c.Reaches 1 c' := by
  simp only [readSubscript, fault] at h
  split at h
  · simp at h
  · rename_i start d hd
    have h₁ : c.Reaches 1 d := (Cursor.Reaches.skip 1 c).trans (reaches_readIndex hd)
    split at h
    · split at h
      · simp at h
      · rename_i stop e he
        have h₂ : c.Reaches 1 e :=
          (h₁.trans ((Cursor.Reaches.skip 1 d).trans (reaches_readIndex he))).weaken (by omega)
        split at h
        · simp at h
        · exact (h₂.trans (reaches_closeSubscript h)).weaken (by omega)
    · split at h
      · exact (h₁.trans (reaches_closeSubscript h)).weaken (by omega)
      · split at h <;> simp at h

theorem reaches_readSubscript? {c c' : Cursor} {s : Option Subscript}
    (h : readSubscript? c = .ok (s, c')) : c.Reaches 0 c' := by
  simp only [readSubscript?] at h
  split at h
  · split at h
    · simp at h
    · rename_i s₁ d hd
      simp only [Except.ok.injEq, Prod.mk.injEq] at h
      exact (h.2 ▸ reaches_readSubscript hd).weaken (by omega)
  · simp only [Except.ok.injEq, Prod.mk.injEq] at h
    exact h.2 ▸ .refl c

theorem reaches_readName (c : Cursor) : c.Reaches 0 (readName c).2 :=
  .skipWhile _ _

theorem reaches_readBare (c : Cursor) : c.Reaches 1 (readBare c).2 :=
  (Cursor.Reaches.skip 1 c).trans (reaches_readName _)

theorem reaches_readSimple {c c' : Cursor} {v : VariableRef}
    (h : readSimple c = .ok (some (v, c'))) : c.Reaches 3 c' := by
  simp only [readSimple] at h
  split at h
  · simp at h
  · split at h
    · simp at h
    · rename_i s e he
      split at h
      · simp only [Except.ok.injEq, Option.some.injEq, Prod.mk.injEq] at h
        have h₁ := (Cursor.Reaches.skip 2 c).trans
          ((reaches_readName _).trans (reaches_readSubscript? he))
        exact h.2 ▸ h₁.trans (.skip 1 e)
      · simp at h

theorem reaches_readNested {α : Type} {ofRef : VariableRef → α} {c c' : Cursor} {p : Char ⊕ α}
    (h : readNested ofRef c = .ok (p, c')) : c.Reaches 1 c' := by
  simp only [readNested] at h
  split at h
  · simp only [Except.ok.injEq, Prod.mk.injEq] at h
    exact h.2 ▸ (Cursor.Reaches.skip 2 c).weaken (by omega)
  · split at h
    · simp at h
    · rename_i v d hd
      simp only [Except.ok.injEq, Prod.mk.injEq] at h
      exact h.2 ▸ (reaches_readSimple hd).weaken (by omega)
    · simp only [Except.ok.injEq, Prod.mk.injEq] at h
      exact h.2 ▸ .skip 1 c
  · split at h
    · simp only [Except.ok.injEq, Prod.mk.injEq] at h
      exact h.2 ▸ reaches_readBare c
    · simp only [Except.ok.injEq, Prod.mk.injEq] at h
      exact h.2 ▸ .skip 1 c
  · simp only [Except.ok.injEq, Prod.mk.injEq] at h
    exact h.2 ▸ .skip 1 c

end Stencil
