import Mathlib.Tactic.Common
import Stencil.Unicode.Property

/-!
# Bisection of tables

A look-up bisects a table, and in a table whose ranges are in order it finds the range that a
character lies in (`contains_iff`). For the digits and the blanks it follows which of the characters
below 128 belong to them (`Property.digit_contains_iff`, `Property.whiteSpace_contains_iff`).
-/

namespace Stencil.Unicode

namespace Ranges

/-- The ranges are not empty, and each one ends before the next begins. -/
structure Ordered (r : Ranges) : Prop where
  nonempty : ∀ p ∈ r.bounds.toList, p.1 ≤ p.2
  pairwise : r.bounds.toList.Pairwise fun p q => p.2 < q.1

variable {r : Ranges}

theorem Ordered.lt (hr : r.Ordered) {i j : Nat} (hi : i < r.bounds.size) (hj : j < r.bounds.size)
    (hij : i < j) : r.bounds[i].2 < r.bounds[j].1 := by
  have hpair := List.pairwise_iff_getElem.1 hr.pairwise i j (by simpa using hi) (by simpa using hj)
    hij
  simpa using hpair

theorem bisect_sound {n lo hi : Nat} (h : r.bisect n lo hi = true) :
    ∃ p ∈ r.bounds.toList, p.1 ≤ n ∧ n ≤ p.2 := by
  fun_induction bisect r n lo hi with
  | case1 => cases h
  | case2 lo hi _ mid a b hmid hlt ih => exact ih h
  | case3 lo hi _ mid a b hmid hlt hgt ih => exact ih h
  | case4 lo hi _ mid a b hmid hlt hgt =>
    have hmem : (a, b) ∈ r.bounds := Array.mem_of_getElem? hmid
    exact ⟨(a, b), hmem.val, Nat.le_of_not_lt hlt, Nat.le_of_not_lt hgt⟩
  | case5 => cases h

/-- The range that a number lies in stays between the bounds of the search. -/
theorem bisect_complete (hr : r.Ordered) {n i lo hi : Nat} (hn : i < r.bounds.size)
    (h₁ : r.bounds[i].1 ≤ n) (h₂ : n ≤ r.bounds[i].2) (hlo : lo ≤ i) (hhi : i < hi)
    (hsize : hi ≤ r.bounds.size) : r.bisect n lo hi = true := by
  fun_induction bisect r n lo hi with
  | case1 lo hi _ mid hmid =>
    have hlt : mid < r.bounds.size := by omega
    rw [Array.getElem?_eq_getElem hlt] at hmid
    cases hmid
  | case2 lo hi _ mid a b hmid hlt ih =>
    obtain ⟨hmid', hget⟩ := Array.getElem?_eq_some_iff.1 hmid
    have hle : a ≤ b := hr.nonempty _ (Array.mem_of_getElem? hmid).val
    have hleft : i < mid := by
      rcases Nat.lt_trichotomy i mid with h | h | h
      · exact h
      · simp only [h, hget] at h₁
        omega
      · have hgap := hr.lt hmid' hn h
        rw [hget] at hgap
        omega
    exact ih hlo hleft (by omega)
  | case3 lo hi _ mid a b hmid _ hgt ih =>
    obtain ⟨hmid', hget⟩ := Array.getElem?_eq_some_iff.1 hmid
    have hle : a ≤ b := hr.nonempty _ (Array.mem_of_getElem? hmid).val
    have hright : mid < i := by
      rcases Nat.lt_trichotomy i mid with h | h | h
      · have hgap := hr.lt hn hmid' h
        rw [hget] at hgap
        omega
      · simp only [h, hget] at h₂
        omega
      · exact h
    exact ih hright hhi hsize
  | case4 => rfl
  | case5 => omega

/-- A character belongs to ordered ranges when it lies in one of them. -/
theorem contains_iff (hr : r.Ordered) {c : Char} :
    r.contains c ↔ ∃ p ∈ r.bounds.toList, p.1 ≤ c.toNat ∧ c.toNat ≤ p.2 := by
  refine ⟨bisect_sound, fun ⟨p, hp, h₁, h₂⟩ => ?_⟩
  obtain ⟨i, hi, rfl⟩ := Array.mem_iff_getElem.1 (Array.mem_toList_iff.1 hp)
  exact bisect_complete hr hi h₁ h₂ (Nat.zero_le i) hi (Nat.le_refl _)

/-- Below the place where the ranges past the first `k` begin, the first `k` decide. -/
theorem contains_iff_of_lt (hr : r.Ordered) {k n : Nat} {c : Char}
    (hrest : ∀ q ∈ r.bounds.toList.drop k, n ≤ q.1) (hc : c.toNat < n) :
    r.contains c ↔ ∃ p ∈ r.bounds.toList.take k, p.1 ≤ c.toNat ∧ c.toNat ≤ p.2 := by
  rw [contains_iff hr]
  constructor
  · rintro ⟨p, hp, h₁, h₂⟩
    rw [← List.take_append_drop k r.bounds.toList] at hp
    rcases List.mem_append.1 hp with hp | hp
    · exact ⟨p, hp, h₁, h₂⟩
    · have hfar := hrest p hp
      omega
  · rintro ⟨p, hp, h⟩
    exact ⟨p, List.mem_of_mem_take hp, h⟩

end Ranges

/-! ## Digits and blanks below 128 -/

namespace Property

/-- The digits below 128 are the digits of decimal numerals. -/
theorem digit_contains_iff {c : Char} (hc : c.toNat < 128) : digit.contains c ↔ c.isDigit := by
  have htable : (∀ p ∈ Category.decimalNumber.bounds.toList, p.1 ≤ p.2) ∧
      (Category.decimalNumber.bounds.toList.Pairwise fun p q => p.2 < q.1) ∧
      Category.decimalNumber.bounds.toList.take 1 = [(48, 57)] ∧
      ∀ q ∈ Category.decimalNumber.bounds.toList.drop 1, 128 ≤ q.1 := by
    unfold Category.decimalNumber Ranges.ofLines
    simp only [List.flatMap_cons, List.flatMap_nil]
    -- the texts of the table as lists, which can be evaluated
    repeat rw [String.toList_ofList]
    decide +kernel
  obtain ⟨hnonempty, hpairwise, hfirst, hrest⟩ := htable
  have hiff := Ranges.contains_iff_of_lt ⟨hnonempty, hpairwise⟩ hrest hc
  rw [hfirst] at hiff
  have hdigit : c.isDigit ↔ 48 ≤ c.toNat ∧ c.toNat ≤ 57 := by
    rw [Char.isDigit, Bool.and_eq_true, decide_eq_true_iff, decide_eq_true_iff]
    rfl
  rw [hdigit]
  simp only [List.mem_singleton, exists_eq_left] at hiff
  exact hiff

/-- The blanks below 128 are the controls from the tab to the carriage return, and the space. -/
theorem whiteSpace_contains_iff {c : Char} (hc : c.toNat < 128) :
    whiteSpace.contains c ↔ (9 ≤ c.toNat ∧ c.toNat ≤ 13) ∨ c.toNat = 32 := by
  have htable : (∀ p ∈ Binary.whiteSpace.bounds.toList, p.1 ≤ p.2) ∧
      (Binary.whiteSpace.bounds.toList.Pairwise fun p q => p.2 < q.1) ∧
      Binary.whiteSpace.bounds.toList.take 2 = [(9, 13), (32, 32)] ∧
      ∀ q ∈ Binary.whiteSpace.bounds.toList.drop 2, 128 ≤ q.1 := by
    unfold Binary.whiteSpace Ranges.ofText
    rw [String.toList_ofList]
    decide +kernel
  obtain ⟨hnonempty, hpairwise, hfirst, hrest⟩ := htable
  have hiff := Ranges.contains_iff_of_lt ⟨hnonempty, hpairwise⟩ hrest hc
  rw [hfirst] at hiff
  have hspace : c.toNat = 32 ↔ 32 ≤ c.toNat ∧ c.toNat ≤ 32 := by omega
  rw [hspace]
  simp only [List.mem_cons, List.not_mem_nil, or_false, exists_eq_or_imp, exists_eq_left] at hiff
  exact hiff

end Property

end Stencil.Unicode
