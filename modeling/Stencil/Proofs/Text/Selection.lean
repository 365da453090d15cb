import Mathlib.Tactic.Common
import Stencil.Template.Reference

/-!
# What subscripts select

A bound of a subscript is a position that is moved by the length of the value when it is negative,
and then clamped. So an index selects the character at a clamped position (`toList_apply_index`) and
a range the characters between two of them (`getElem?_apply_slice`), and the laws of ranges follow
from those of `take` and `drop`.

A subscript is applied in words of 64 bits, where a sum can overflow and a position can lie outside
the value. `Subscript.applied?` is given with every such step checked, and it gives nothing where
one of them fails. The main statement is `subscripts_clamp`.
-/

namespace Stencil

theorem isWord_iff {i : Int} :
    isWord i ↔ -9223372036854775808 ≤ i ∧ i < 9223372036854775808 := by
  have hpow : Int.pow 2 63 = 9223372036854775808 := by decide
  rw [isWord, hpow, Bool.and_eq_true, decide_eq_true_iff, decide_eq_true_iff]

namespace Subscript

/-! ## Checked steps -/

/-- A number as a word. -/
def word? (i : Int) : Option Int :=
  if isWord i then some i else none

/-- The sum of two words, or the word that is nearest to it. -/
def saturatingAdd (i j : Int) : Int :=
  max (-Int.pow 2 63) (min (i + j) (Int.pow 2 63 - 1))

/-- The number nearest to `i` between two others, which have to be in order. -/
def clamp? (low high i : Int) : Option Int :=
  if low ≤ high then some (max low (min i high)) else none

/-- A word as a position. -/
def position? (i : Int) : Option Nat :=
  if 0 ≤ i then some i.toNat else none

/-- The characters from one position up to another one. -/
def range? (cs : List Char) (a b : Nat) : Option (List Char) :=
  if a ≤ b ∧ b ≤ cs.length then some ((cs.drop a).take (b - a)) else none

/-- The bound of a range in a value of `n` characters. -/
def bound? (n i : Int) : Option Nat := do
  let k ← clamp? 0 n (if i < 0 then saturatingAdd n i else i)
  position? k

/-- The position of an index in a value of `n` characters. -/
def index? (n i : Int) : Option Nat :=
  if i < 0 then position? (max (saturatingAdd n i) 0)
  else do
    let last ← word? (n - 1)
    position? (min i last)

/-- The selected characters, with every step checked. -/
def select? (cs : List Char) (s : Subscript) : Option (List Char) :=
  if cs.isEmpty then some []
  else do
    let n ← word? cs.length
    match s with
    | .index i => do
      let k ← index? n i
      let c ← cs[k]?
      pure [c]
    | .slice start stop => do
      let a ← bound? n (start.getD 0)
      let b ← bound? n (stop.getD n)
      if b ≤ a then pure [] else range? cs a b

/-- The selected part of a value, with every step checked. -/
def applied? (s : Subscript) (value : String) : Option String :=
  (s.select? value.toList).map String.ofList

/-! ## Positions -/

/-- The position of a bound, clamped to a value of `n` characters. -/
theorem bound_eq (n : Nat) (i : Int) : (bound n i : Int) = max 0 (min (n : Int) (fromEnd n i)) := by
  unfold bound
  omega

theorem bound_le (n : Nat) (i : Int) : bound n i ≤ n :=
  Nat.min_le_right _ n

theorem bound_zero (n : Nat) : bound n 0 = 0 := by
  simp [bound, fromEnd]

theorem bound_length (n : Nat) : bound n n = n := by
  have hpos : ¬ (n : Int) < 0 := by omega
  simp [bound, fromEnd, hpos]

/-- A bound that is not negative is moved to the end only. -/
theorem bound_of_nonneg (n : Nat) {i : Int} (hi : 0 ≤ i) : bound n i = min i.toNat n := by
  rw [bound, fromEnd, if_neg (by omega)]

theorem select_nil (s : Subscript) : s.select [] = [] := by
  cases s <;> simp [select]

/-! ## The steps succeed -/

theorem bound?_eq {n : Nat} (hn : isWord n) (i : Int) : bound? n i = some (bound n i) := by
  have hword := isWord_iff.1 hn
  have hpow : Int.pow 2 63 = 9223372036854775808 := by decide
  have hclamp : ∀ j : Int, clamp? 0 n j = some (max 0 (min j n)) := fun j =>
    if_pos (by omega)
  have hposition : ∀ j : Int, position? (max 0 (min j n)) = some (max 0 (min j n)).toNat :=
    fun j => if_pos (by omega)
  simp only [bound?, hclamp, Option.bind_eq_bind, Option.bind_some, hposition, Option.some.injEq]
  have hbound := bound_eq n i
  unfold fromEnd at hbound
  unfold saturatingAdd
  split_ifs at hbound ⊢ <;> omega

theorem index?_eq {n : Nat} (hn : isWord n) (hpos : 0 < n) (i : Int) :
    index? n i = some (min (fromEnd n i).toNat (n - 1)) := by
  have hword := isWord_iff.1 hn
  have hpow : Int.pow 2 63 = 9223372036854775808 := by decide
  unfold index? fromEnd
  split_ifs with hneg
  · have hsum : max (saturatingAdd n i) 0 = max (n + i) 0 := by
      unfold saturatingAdd
      omega
    rw [hsum, position?, if_pos (by omega), Option.some.injEq]
    omega
  · have hlast : word? (n - 1) = some ((n : Int) - 1) :=
      if_pos (isWord_iff.2 (by omega))
    rw [hlast, Option.bind_eq_bind, Option.bind_some, position?, if_pos (by omega),
      Option.some.injEq]
    omega

/-- In a value whose length is a word no step overflows, and none is out of range. -/
theorem select?_eq {cs : List Char} (hcs : isWord cs.length) (s : Subscript) :
    s.select? cs = some (s.select cs) := by
  by_cases hne : cs = []
  · rw [hne, select_nil]
    rfl
  have hpos := List.length_pos_iff.2 hne
  have hlength : word? cs.length = some (cs.length : Int) := if_pos hcs
  unfold select?
  rw [if_neg (by simpa using hne), hlength, Option.bind_eq_bind, Option.bind_some]
  cases s with
  | index i =>
    have hlt : min (fromEnd cs.length i).toNat (cs.length - 1) < cs.length := by omega
    simp only [index?_eq hcs hpos, Option.bind_eq_bind, Option.bind_some,
      List.getElem?_eq_getElem hlt, Option.pure_def, select, List.drop_eq_getElem_cons hlt,
      List.take_succ_cons, List.take_zero]
  | slice start stop =>
    simp only [bound?_eq hcs, Option.bind_eq_bind, Option.bind_some, select]
    have hle := bound_le cs.length (stop.getD cs.length)
    split_ifs with hempty
    · rw [Nat.sub_eq_zero_of_le hempty, List.take_zero, Option.pure_def]
    · exact if_pos ⟨by omega, hle⟩

theorem applied?_eq {value : String} (h : isWord value.length) (s : Subscript) :
    s.applied? value = some (s.apply value) := by
  rw [applied?, select?_eq (by rwa [String.length_toList]), Option.map_some, apply]

/-! ## What is selected -/

theorem toList_apply (s : Subscript) (value : String) :
    (s.apply value).toList = s.select value.toList :=
  String.toList_ofList

/-- An index selects the character at its clamped position. -/
theorem toList_apply_index {value : String} (h : value ≠ "") (i : Int) :
    ∃ (k : Nat) (c : Char),
      (k : Int) = max 0 (min ((value.length : Int) - 1) (fromEnd value.length i)) ∧
      value.toList[k]? = some c ∧ ((index i).apply value).toList = [c] := by
  have hpos : 0 < value.toList.length := List.length_pos_iff.2 (by simpa using h)
  have hlt : min (fromEnd value.toList.length i).toNat (value.toList.length - 1) <
      value.toList.length := by omega
  refine ⟨_, _, ?_, List.getElem?_eq_getElem hlt, ?_⟩
  · rw [String.length_toList] at hpos ⊢
    omega
  · rw [toList_apply, select, List.drop_eq_getElem_cons hlt, List.take_succ_cons, List.take_zero]

/-- A range selects the characters from its clamped start up to its clamped end. -/
theorem getElem?_apply_slice (value : String) (start stop : Option Int) (k : Nat) :
    ((slice start stop).apply value).toList[k]? =
      if bound value.length (start.getD 0) + k < bound value.length (stop.getD value.length) then
        value.toList[bound value.length (start.getD 0) + k]?
      else none := by
  rw [toList_apply, select, List.getElem?_take, List.getElem?_drop, String.length_toList]
  congr 1
  rw [eq_iff_iff]
  omega

/-- The part before a bound and the part after it make up the value. -/
theorem apply_slice_append (value : String) (k : Int) :
    (slice none (some k)).apply value ++ (slice (some k) none).apply value = value := by
  have hrest : bound value.toList.length value.toList.length - bound value.toList.length k =
      (value.toList.drop (bound value.toList.length k)).length := by
    rw [bound_length, List.length_drop]
  simp only [apply, select, Option.getD_none, Option.getD_some, bound_zero, List.drop_zero,
    Nat.sub_zero, hrest, List.take_length]
  rw [← String.ofList_append, List.take_append_drop, String.ofList_toList]

/-- A range that starts at no negative position is a start of the value with its own start left
off. -/
theorem apply_slice_slice (value : String) {a : Int} (ha : 0 ≤ a) (stop : Option Int) :
    (slice (some a) stop).apply value =
      (slice (some a) none).apply ((slice none stop).apply value) := by
  rw [apply, apply, toList_apply, String.ofList_inj]
  generalize value.toList = cs
  have hle := bound_le cs.length (stop.getD cs.length)
  simp only [select, Option.getD_some, Option.getD_none, bound_zero, List.drop_zero, Nat.sub_zero,
    bound_length, List.length_take, Nat.min_eq_left hle, bound_of_nonneg _ ha]
  generalize bound cs.length (stop.getD cs.length) = b at hle
  by_cases hab : a.toNat ≤ b
  · rw [Nat.min_eq_left hab, Nat.min_eq_left (Nat.le_trans hab hle), List.drop_take, List.take_take,
      Nat.min_self]
  · have hleft : b - min a.toNat cs.length = 0 := by omega
    have hright : b - min a.toNat b = 0 := by omega
    rw [hleft, hright, List.take_zero, List.take_zero]

end Subscript

open Subscript

/-- **Subscripts are clamped slices.** No step of a subscript overflows or is out of range when the
length of the value is a word, as it is for every text in memory. The empty value has only empty
parts, an index selects the character at its clamped position, and a range the characters from its
clamped start up to its clamped end. So a value is cut by every bound, and a range that starts at no
negative position can be selected by its end first. -/
theorem subscripts_clamp (value : String) :
    (isWord value.length → ∀ s : Subscript, s.applied? value = some (s.apply value)) ∧
      (∀ s : Subscript, s.apply "" = "") ∧
      (value ≠ "" → ∀ i, ∃ (k : Nat) (c : Char),
        (k : Int) = max 0 (min ((value.length : Int) - 1) (fromEnd value.length i)) ∧
        value.toList[k]? = some c ∧ ((index i).apply value).toList = [c]) ∧
      (∀ start stop, ∃ a b : Nat,
        (a : Int) = max 0 (min (value.length : Int) (fromEnd value.length (start.getD 0))) ∧
        (b : Int) =
          max 0 (min (value.length : Int) (fromEnd value.length (stop.getD value.length))) ∧
        ∀ k, ((slice start stop).apply value).toList[k]? =
          if a + k < b then value.toList[a + k]? else none) ∧
      (∀ k, (slice none (some k)).apply value ++ (slice (some k) none).apply value = value) ∧
      ∀ a stop, 0 ≤ a → (slice (some a) stop).apply value =
        (slice (some a) none).apply ((slice none stop).apply value) := by
  refine ⟨fun h s => applied?_eq h s, fun s => ?_, fun h i => toList_apply_index h i,
    fun start stop => ⟨_, _, bound_eq _ _, bound_eq _ _, getElem?_apply_slice value start stop⟩,
    apply_slice_append value, fun a stop ha => apply_slice_slice value ha stop⟩
  show String.ofList (s.select []) = ""
  rw [select_nil]

/-- The least and the greatest word as bounds in a value of three characters. -/
theorem subscripts_clamp_extremes :
    isWord "日本語".length ∧ "日本語" ≠ "" ∧ (0 : Int) ≤ 1 ∧
      (index (-9223372036854775808)).applied? "日本語" = some "日" ∧
      (slice (some (-2)) (some 9223372036854775807)).applied? "日本語" = some "本語" ∧
      ((index 9223372036854775807).apply "日本語").toList = ['語'] ∧
      (slice (some 1) (some (-1))).apply "日本語" = (slice (some 1) none).apply "日本" := by
  have hword : isWord "日本語".length := by decide +kernel
  have hne : "日本語" ≠ "" := by decide +kernel
  obtain ⟨hsteps, -, hindex, -, -, hslice⟩ := subscripts_clamp "日本語"
  refine ⟨hword, hne, by decide, ?_, ?_, ?_, ?_⟩
  · rw [hsteps hword]
    decide +kernel
  · rw [hsteps hword]
    decide +kernel
  · obtain ⟨k, c, hk, hc, happly⟩ := hindex hne 9223372036854775807
    have hlast : k = 2 := by
      have hmax : max 0 (min (("日本語".length : Int) - 1)
          (fromEnd "日本語".length 9223372036854775807)) = 2 := by decide +kernel
      omega
    subst hlast
    have hthird : "日本語".toList[2]? = some '語' := by decide +kernel
    rw [happly, Option.some.inj (hc.symm.trans hthird)]
  · have hstart : (slice none (some (-1))).apply "日本語" = "日本" := by decide +kernel
    rw [hslice 1 (some (-1)) (by decide), hstart]

end Stencil
