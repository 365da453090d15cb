import Stencil.Proofs.Template.Moved

/-!
# The bytes of a text

A scanner looks at bytes and cuts texts out at byte offsets, and a cut inside a character must not
happen. Here are the bytes of a text (`bytes`), the offsets at which it can be cut (`Boundary`) and
the cut that is checked (`cut?`). The main statements are about a cursor in the text: its offset is
a boundary (`Cursor.Within.boundary`), a byte below 128 is the character there
(`Cursor.Within.byteAt?_eq`), and a run of bytes ends where the run of characters ends
(`Cursor.Within.runEnd_eq`).
-/

namespace Stencil

/-! ## Encoding -/

/-- The bytes of a character, each as the character of its number. -/
def encode (c : Char) : List Char :=
  (String.utf8EncodeChar c).map fun b => Char.ofNat b.toNat

/-- The bytes of a text, each as the character of its number. -/
def bytes (source : String) : List Char :=
  source.toByteArray.data.toList.map fun b => Char.ofNat b.toNat

theorem toNat_ofNat_byte (b : UInt8) : (Char.ofNat b.toNat).toNat = b.toNat := by
  have hb := b.toNat_lt
  rw [Char.ofNat, dif_pos (Or.inl (by omega))]
  rfl

theorem encode_of_lt {c : Char} (h : c.toNat < 128) : encode c = [c] := by
  have hval : c.val.toNat = c.toNat := rfl
  have hbyte : (UInt8.ofNat c.val.toNat).toNat = c.toNat := by
    rw [UInt8.toNat_ofNat', hval]
    omega
  rw [encode, String.utf8EncodeChar.eq_1, if_pos (by omega), List.map_singleton, hbyte,
    Char.ofNat_toNat]

/-- A character from 128 on has no byte below 128. -/
theorem le_of_mem_encode {c b : Char} (h : 128 ≤ c.toNat) (hb : b ∈ encode c) :
    128 ≤ b.toNat := by
  have hval : c.val.toNat = c.toNat := rfl
  obtain ⟨a, ha, rfl⟩ := List.mem_map.1 hb
  rw [toNat_ofNat_byte]
  rw [String.utf8EncodeChar.eq_1] at ha
  split_ifs at ha
  · omega
  all_goals
    simp only [List.mem_cons, List.not_mem_nil, or_false] at ha
    rcases ha with rfl | rfl | rfl | rfl <;> rw [UInt8.toNat_ofNat'] <;> omega

theorem length_encode (c : Char) : (encode c).length = c.utf8Size := by
  rw [encode, List.length_map, String.length_utf8EncodeChar]

theorem encode_ne_nil (c : Char) : encode c ≠ [] := by
  have hpos := c.utf8Size_pos
  rw [← length_encode] at hpos
  exact List.ne_nil_of_length_pos hpos

theorem flatMap_encode_of_lt {cs : List Char} (h : ∀ c ∈ cs, c.toNat < 128) :
    cs.flatMap encode = cs := by
  induction cs with
  | nil => rfl
  | cons c cs ih =>
    rw [List.flatMap_cons, encode_of_lt (h c List.mem_cons_self),
      ih fun d hd => h d (List.mem_cons_of_mem c hd), List.singleton_append]

/-- A byte below 128 is a character of the text. -/
theorem mem_flatMap_encode {cs : List Char} {b : Char} (hb : b.toNat < 128) :
    b ∈ cs.flatMap encode ↔ b ∈ cs := by
  rw [List.mem_flatMap]
  constructor
  · rintro ⟨c, hc, hmem⟩
    have hlt : c.toNat < 128 := by
      by_contra h
      have hle := le_of_mem_encode (Nat.le_of_not_lt h) hmem
      omega
    rw [encode_of_lt hlt, List.mem_singleton] at hmem
    exact hmem ▸ hc
  · exact fun h => ⟨b, h, by rw [encode_of_lt hb]; exact List.mem_singleton_self b⟩

theorem length_flatMap_encode (cs : List Char) : (cs.flatMap encode).length = byteWidth cs := by
  induction cs with
  | nil => rfl
  | cons c cs ih => rw [List.flatMap_cons, List.length_append, length_encode, ih, byteWidth_cons]

theorem bytes_eq (source : String) : bytes source = source.toList.flatMap encode := by
  have hbytes : source.toByteArray = (source.toList.flatMap String.utf8EncodeChar).toByteArray := by
    conv => lhs; rw [← String.ofList_toList (s := source)]
    exact String.toByteArray_ofList
  rw [bytes, hbytes, List.toList_data_toByteArray, List.map_flatMap]
  rfl

/-- The first byte of a character. -/
def lead (c : Char) : Char :=
  (encode c).head (encode_ne_nil c)

theorem lead_eq_iff {c b : Char} (hb : b.toNat < 128) : lead c = b ↔ c = b := by
  by_cases hc : c.toNat < 128
  · simp only [lead, encode_of_lt hc, List.head_cons]
  · have hlead : 128 ≤ (lead c).toNat := le_of_mem_encode (by omega) (List.head_mem _)
    constructor
    · rintro rfl
      omega
    · rintro rfl
      omega

theorem utf8ByteSize_eq (source : String) : source.utf8ByteSize = byteWidth source.toList := by
  rw [← length_flatMap_encode, ← bytes_eq, bytes, List.length_map, Array.length_toList]
  rfl

/-! ## Classes of bytes -/

/-- All characters from 128 on are alike to the class, so it is a class of bytes too. -/
def Bytewise (p : Char → Bool) : Prop :=
  ∃ v, ∀ c : Char, 128 ≤ c.toNat → p c = v

theorem Bytewise.apply_eq {p : Char → Bool} (hp : Bytewise p) {c b : Char} (hb : b ∈ encode c) :
    p b = p c := by
  obtain ⟨v, hv⟩ := hp
  by_cases h : c.toNat < 128
  · rw [encode_of_lt h, List.mem_singleton] at hb
    rw [hb]
  · have hc : 128 ≤ c.toNat := by omega
    rw [hv c hc, hv b (le_of_mem_encode hc hb)]

/-- A run in a text whose characters are written out ends where a run of characters does, when each
character is in the class with all that it is written as. -/
theorem takeWhile_flatMap {p : Char → Bool} {f : Char → List Char} (hf : ∀ c, f c ≠ [])
    (hp : ∀ c, ∀ b ∈ f c, p b = p c) (cs : List Char) :
    (cs.flatMap f).takeWhile p = (cs.takeWhile p).flatMap f := by
  induction cs with
  | nil => rfl
  | cons c cs ih =>
    rw [List.flatMap_cons]
    by_cases hc : p c
    · have hall : ∀ b ∈ f c, p b = true := fun b hb => (hp c b hb).trans hc
      rw [List.takeWhile_append_of_pos hall, ih, List.takeWhile_cons_of_pos hc, List.flatMap_cons]
    · obtain ⟨b, bs, hbs⟩ := List.exists_cons_of_ne_nil (hf c)
      have hb : ¬ p b := by
        rw [hp c b (hbs ▸ List.mem_cons_self)]
        exact hc
      rw [hbs, List.cons_append, List.takeWhile_cons_of_neg hb, List.takeWhile_cons_of_neg hc]
      rfl

theorem takeWhile_flatMap_encode {p : Char → Bool} (hp : Bytewise p) (cs : List Char) :
    (cs.flatMap encode).takeWhile p = (cs.takeWhile p).flatMap encode :=
  takeWhile_flatMap encode_ne_nil (fun _ _ hb => hp.apply_eq hb) cs

theorem Bytewise.lead_eq {p : Char → Bool} (hp : Bytewise p) (c : Char) : p (lead c) = p c :=
  hp.apply_eq (List.head_mem _)

/-- A class of characters below 128 is a class of bytes. -/
theorem bytewise_of_lt {p : Char → Bool} (h : ∀ c, p c = true → c.toNat < 128) : Bytewise p := by
  refine ⟨false, fun c hc => ?_⟩
  by_cases hp : p c
  · have hlt := h c hp
    omega
  · simpa using hp

theorem bytewise_ne {b : Char} (hb : b.toNat < 128) : Bytewise (· != b) := by
  refine ⟨true, fun c hc => bne_iff_ne.2 ?_⟩
  rintro rfl
  omega

theorem Bytewise.and {p q : Char → Bool} (hp : Bytewise p) (hq : Bytewise q) :
    Bytewise fun c => p c && q c := by
  obtain ⟨v, hv⟩ := hp
  obtain ⟨w, hw⟩ := hq
  exact ⟨v && w, fun c hc => congrArg₂ Bool.and (hv c hc) (hw c hc)⟩

theorem lt_of_isNameChar {c : Char} (h : isNameChar c = true) : c.toNat < 128 := by
  have hval : c.val.toNat = c.toNat := rfl
  have hranges : ((decide ('A'.val ≤ c.val ∧ c.val ≤ 'Z'.val) ||
      ('a'.val ≤ c.val && c.val ≤ 'z'.val)) || ('0'.val ≤ c.val && c.val ≤ '9'.val) ||
      c == '_') = true := h
  simp only [Bool.or_eq_true, Bool.and_eq_true, decide_eq_true_eq, UInt32.le_iff_toNat_le,
    beq_iff_eq] at hranges
  have hZ : 'Z'.val.toNat = 90 := rfl
  have hz : 'z'.val.toNat = 122 := rfl
  have h9 : '9'.val.toNat = 57 := rfl
  rcases hranges with h | rfl
  · omega
  · decide

/-! ## Cutting -/

/-- A byte offset at which the text can be cut: not after the end, and not inside a character. -/
def Boundary (source : String) (offset : Nat) : Prop :=
  String.Pos.Raw.IsValid source ⟨offset⟩

instance (source : String) (offset : Nat) : Decidable (Boundary source offset) :=
  decidable_of_iff _ String.Pos.Raw.isValid_eq_true_iff

/-- The text between two byte offsets, where it can be cut out. -/
def cut? (source : String) (start stop : Nat) : Option String :=
  if start ≤ stop ∧ Boundary source start ∧ Boundary source stop then
    some ((⟨start, stop⟩ : Span).slice source)
  else none

/-- The byte at an offset, as the character of its number. -/
def byteAt? (source : String) (offset : Nat) : Option Char :=
  (bytes source)[offset]?

/-- The bytes of a class from an offset on. -/
def byteRun (source : String) (p : Char → Bool) (offset : Nat) : List Char :=
  ((bytes source).drop offset).takeWhile p

/-- The offset after the bytes of a class. -/
def runEnd (source : String) (p : Char → Bool) (offset : Nat) : Nat :=
  offset + (byteRun source p offset).length

theorem Boundary.le {source : String} {offset : Nat} (h : Boundary source offset) :
    offset ≤ source.utf8ByteSize :=
  h.le_utf8ByteSize

/-! ## At a cursor -/

/-- The place is one of the text. -/
def Cursor.Within (source : String) (c : Cursor) : Prop :=
  (ofText source).Reaches 0 c

namespace Cursor.Within

variable {source : String} {c d : Cursor}

theorem ofText (source : String) : (Cursor.ofText source).Within source :=
  .refl _

theorem further {n : Nat} (hc : c.Within source) (h : c.Reaches n d) : d.Within source :=
  Reaches.further hc h

theorem reads {w : List Char} (hc : c.Within source) (h : c.Reads w d) : d.Within source := by
  rw [← h.skip_eq]
  exact hc.further (.skip _ c)

/-- What is before the place and what is after it are the text. -/
theorem exists_before (hc : c.Within source) :
    ∃ before, source.toList = before ++ c.rest ∧ c.offset = byteWidth before := by
  obtain ⟨n, rfl⟩ := hc
  refine ⟨source.toList.take (0 + n), (List.take_append_drop _ _).symm, ?_⟩
  exact Nat.zero_add _

theorem boundary (hc : c.Within source) : Boundary source c.offset := by
  obtain ⟨before, hsource, hoffset⟩ := hc.exists_before
  refine String.Pos.Raw.isValid_iff_exists_append.2
    ⟨String.ofList before, String.ofList c.rest, ?_, ?_⟩
  · rw [← String.ofList_append, ← hsource, String.ofList_toList]
  · have hsize : (String.ofList before).utf8ByteSize = c.offset := by
      rw [utf8ByteSize_eq, String.toList_ofList, hoffset]
    exact String.Pos.Raw.ext hsize.symm

theorem drop_bytes (hc : c.Within source) :
    (bytes source).drop c.offset = c.rest.flatMap encode := by
  obtain ⟨before, hsource, hoffset⟩ := hc.exists_before
  rw [bytes_eq, hsource, List.flatMap_append, hoffset, ← length_flatMap_encode, List.drop_left]

/-- The byte at a place is the first byte of the character there. -/
theorem byteAt?_eq (hc : c.Within source) : byteAt? source c.offset = c.peek?.map lead := by
  rw [byteAt?, ← List.head?_drop, hc.drop_bytes, peek?]
  cases c.rest with
  | nil => rfl
  | cons a as =>
    rw [List.flatMap_cons, List.head?_append, List.head?_eq_some_head (encode_ne_nil a)]
    rfl

/-- A byte below 128 is the character at the place. -/
theorem byteAt?_eq_some_iff (hc : c.Within source) {b : Char} (hb : b.toNat < 128) :
    byteAt? source c.offset = some b ↔ c.peek? = some b := by
  rw [hc.byteAt?_eq, Option.map_eq_some_iff]
  constructor
  · rintro ⟨a, ha, hlead⟩
    rw [ha, (lead_eq_iff hb).1 hlead]
  · exact fun h => ⟨b, h, (lead_eq_iff hb).2 rfl⟩

/-- What is read from a place on can be cut out. -/
theorem cut?_eq {w : List Char} (hc : c.Within source) (h : c.Reads w d) :
    cut? source c.offset d.offset = some (String.ofList w) := by
  have hd := hc.reads h
  obtain ⟨before, hsource, hoffset⟩ := hc.exists_before
  have hslice := Span.slice_append before w d.rest source (by rw [hsource, h.rest])
  have hle : c.offset ≤ d.offset := by
    rw [h.offset]
    exact Nat.le_add_right _ _
  rw [cut?, if_pos ⟨hle, hc.boundary, hd.boundary⟩, h.offset, hoffset, hslice]

example : cut? "é$" 0 2 = some "é" ∧ cut? "é$" 1 3 = none := by decide

theorem byteRun_eq (hc : c.Within source) {p : Char → Bool} (hp : Bytewise p) :
    byteRun source p c.offset = (c.run p).flatMap encode := by
  rw [byteRun, hc.drop_bytes, takeWhile_flatMap_encode hp, run]

/-- A run of bytes ends where the run of characters ends. -/
theorem runEnd_eq (hc : c.Within source) {p : Char → Bool} (hp : Bytewise p) :
    runEnd source p c.offset = (c.skipWhile p).offset := by
  rw [runEnd, hc.byteRun_eq hp, length_flatMap_encode, (reads_run p c).offset]

/-- No byte of the class is read only where no character of it is. -/
theorem runEnd_eq_iff (hc : c.Within source) {p : Char → Bool} (hp : Bytewise p) :
    runEnd source p c.offset = c.offset ↔ c.run p = [] := by
  rw [runEnd, hc.byteRun_eq hp, Nat.add_eq_left, List.length_eq_zero_iff]
  cases c.run p with
  | nil => simp
  | cons a as => simp [encode_ne_nil]

end Cursor.Within

theorem utf8Size_of_lt {c : Char} (h : c.toNat < 128) : c.utf8Size = 1 := by
  rw [← length_encode, encode_of_lt h, List.length_singleton]

/-- A character below 128 takes one byte. -/
theorem Cursor.offset_skip_one {c : Cursor} {a : Char} (h : c.peek? = some a)
    (ha : a.toNat < 128) : (c.skip 1).offset = c.offset + 1 := by
  rw [(reads_peek h).offset, byteWidth_cons, utf8Size_of_lt ha, byteWidth_nil]

/-- The byte after a character below 128 is the first byte of the character after it. -/
theorem Cursor.Within.byteAt?_next {source : String} {c : Cursor} {a : Char}
    (hc : c.Within source) (h : c.peek? = some a) (ha : a.toNat < 128 := by decide) :
    byteAt? source (c.offset + 1) = (c.skip 1).peek?.map lead := by
  rw [← offset_skip_one h ha, (hc.further (.skip 1 c)).byteAt?_eq]

end Stencil
