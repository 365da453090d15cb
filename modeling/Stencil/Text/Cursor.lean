/-!
# Places in a text

A text is read as a list of characters, while positions in it count UTF-8 bytes. A `Cursor` holds
both: the byte offset reached and the characters still to be read. The main statements say that
moving a cursor loses nothing: `Cursor.skip_add` (two moves are one), `byteWidth_append`, and
`takeBytes_append_dropBytes` (a text cut at an offset is the text).
-/

namespace Stencil

/-- The number of bytes that the characters take in UTF-8. -/
def byteWidth (cs : List Char) : Nat :=
  cs.foldr (fun c n => c.utf8Size + n) 0

@[simp] theorem byteWidth_nil : byteWidth [] = 0 := rfl

@[simp] theorem byteWidth_cons (c : Char) (cs : List Char) :
    byteWidth (c :: cs) = c.utf8Size + byteWidth cs := rfl

@[simp] theorem byteWidth_append (as bs : List Char) :
    byteWidth (as ++ bs) = byteWidth as + byteWidth bs := by
  induction as with
  | nil => simp
  | cons a as ih => simp [ih, Nat.add_assoc]

theorem byteWidth_replicate (n : Nat) (c : Char) :
    byteWidth (List.replicate n c) = n * c.utf8Size := by
  induction n with
  | zero => simp
  | succ n ih => rw [List.replicate_succ, byteWidth_cons, ih, Nat.succ_mul, Nat.add_comm]

/-- The characters that start within the first `n` bytes. -/
def takeBytes : Nat → List Char → List Char
  | 0, _ => []
  | _ + 1, [] => []
  | n + 1, c :: cs => c :: takeBytes (n + 1 - c.utf8Size) cs

def dropBytes : Nat → List Char → List Char
  | 0, cs => cs
  | _ + 1, [] => []
  | n + 1, c :: cs => dropBytes (n + 1 - c.utf8Size) cs

theorem takeBytes_append_dropBytes (n : Nat) (cs : List Char) :
    takeBytes n cs ++ dropBytes n cs = cs := by
  induction cs generalizing n with
  | nil => cases n <;> simp [takeBytes, dropBytes]
  | cons c cs ih =>
    cases n with
    | zero => simp [takeBytes, dropBytes]
    | succ n => simp [takeBytes, dropBytes, ih]

/-- A range of bytes: the offset of the first one and the offset after the last one. -/
structure Span where
  start : Nat
  stop : Nat
  deriving DecidableEq, Repr

/-- The part of a text that a span covers. -/
def Span.slice (span : Span) (text : String) : String :=
  String.ofList (takeBytes (span.stop - span.start) (dropBytes span.start text.toList))

/-- A place in a text: the byte offset reached and the characters still to be read. -/
structure Cursor where
  offset : Nat
  rest : List Char
  deriving DecidableEq, Repr

namespace Cursor

/-- The place before the first character. -/
def ofText (text : String) : Cursor :=
  ⟨0, text.toList⟩

/-- The place `n` characters further on, or the end. -/
def skip (n : Nat) (c : Cursor) : Cursor :=
  ⟨c.offset + byteWidth (c.rest.take n), c.rest.drop n⟩

def peek? (c : Cursor) : Option Char :=
  c.rest.head?

/-- The longest run of characters in the class `p`. -/
def run (p : Char → Bool) (c : Cursor) : List Char :=
  c.rest.takeWhile p

/-- The place after the longest run of characters in the class `p`. -/
def skipWhile (p : Char → Bool) (c : Cursor) : Cursor :=
  c.skip (c.run p).length

@[simp] theorem rest_skip (n : Nat) (c : Cursor) : (c.skip n).rest = c.rest.drop n := rfl

theorem length_rest_skip (n : Nat) (c : Cursor) :
    (c.skip n).rest.length = c.rest.length - n := by simp

theorem skip_add (m n : Nat) (c : Cursor) : (c.skip m).skip n = c.skip (m + n) := by
  obtain ⟨o, cs⟩ := c
  simp [skip, List.take_add, Nat.add_assoc]

theorem rest_skipWhile (p : Char → Bool) (c : Cursor) :
    (c.skipWhile p).rest = c.rest.dropWhile p := by
  obtain ⟨o, cs⟩ := c
  simp only [skipWhile, rest_skip, run]
  induction cs with
  | nil => rfl
  | cons a cs ih => by_cases h : p a <;> simp [h, ih]

end Cursor

end Stencil
