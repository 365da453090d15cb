import Mathlib.Data.List.Basic
import Stencil.Build.Load
import Stencil.Proofs.Template.Occurrence

/-!
# Values of variables and flags

What a draft may give to a variable or to a flag, said without the functions that read it. Tags are
taken off first (`untagged`); then a value that is no collection has a text (`HasText`), and some
values are true or false (`HasTruth`). The main statements are `scalarText?_eq_some_iff` and
`flag_eq_ok_iff`, and `flag_eq_error` for what is neither true nor false.
-/

namespace Stencil

/-! ## Names -/

/-- A text of ASCII letters, ASCII digits and underscores, with at least one of them. -/
def NameText (name : String) : Prop :=
  name ≠ "" ∧ ∀ c ∈ name.toList,
    ('A' ≤ c ∧ c ≤ 'Z') ∨ ('a' ≤ c ∧ c ≤ 'z') ∨ ('0' ≤ c ∧ c ≤ '9') ∨ c = '_'

theorem isName_iff {name : String} : isName name ↔ NameText name := by
  rw [isName, Bool.and_eq_true, List.all_eq_true, NameText]
  refine and_congr ?_ (forall₂_congr fun c _ => isNameChar_iff)
  simp

namespace Yaml.Value

/-! ## Texts -/

/-- A value without the tags that are on it. -/
def untagged : Value → Value
  | .tagged _ v => v.untagged
  | v => v

/-- A value that is no collection, and its text. -/
inductive HasText : Value → String → Prop
  | null : HasText .null ""
  | bool (b : Bool) : HasText (.bool b) (toString b)
  | number (n : Number) : HasText (.number n) n.text
  | string (s : String) : HasText (.string s) s

theorem scalarText?_eq_some_iff {v : Value} {text : String} :
    v.scalarText? = some text ↔ v.untagged.HasText text := by
  fun_induction untagged v with
  | case1 tag v ih => exact ih
  | case2 v hv =>
    cases v with
    | tagged tag w => exact (hv tag w rfl).elim
    | sequence vs => exact ⟨nofun, nofun⟩
    | mapping ps => exact ⟨nofun, nofun⟩
    | null | bool _ | number _ | string _ =>
      refine ⟨?_, ?_⟩
      · rintro ⟨⟩
        constructor
      · rintro ⟨⟩
        rfl

/-! ## Flags -/

/-- A value that is true or false. Whole numbers are, if 64 bits with a sign hold them, and so are
eight words in any case. -/
inductive HasTruth : Value → Bool → Prop
  | bool (b : Bool) : HasTruth (.bool b) b
  | integer {i : Int} : i < Int.pow 2 63 → HasTruth (.number (.integer i)) (i != 0)
  | yes {s : String} : s.toLower ∈ ["t", "true", "1", "yes"] → HasTruth (.string s) true
  | no {s : String} : s.toLower ∈ ["f", "false", "0", "no"] → HasTruth (.string s) false

/-- How a value is shown where it should have been a flag. -/
def shown : Value → String
  | .number n => n.text
  | .string s => s
  | v => Description.value v

theorem flag?_eq_some_iff {s : String} {b : Bool} :
    flag? s = some b ↔ (Value.string s).HasTruth b := by
  have hword : String.ofList (s.toList.map Char.toLower) = s.toLower :=
    String.toList_inj.1 (String.toList_ofList.trans String.toList_map.symm)
  have hdisjoint : ∀ w ∈ ["t", "true", "1", "yes"], w ∉ ["f", "false", "0", "no"] := by decide
  unfold flag?
  simp only [hword, List.contains_iff_mem]
  constructor
  · intro h
    split_ifs at h with hyes hno <;> cases h
    · exact .yes hyes
    · exact .no hno
  · rintro (_ | _ | hyes | hno)
    · rw [if_pos hyes]
    · rw [if_neg fun hyes => hdisjoint _ hyes hno, if_pos hno]

/-- A value that is true or false is read as such. -/
theorem flag_eq_ok_iff {v : Value} {b : Bool} : v.flag = .ok b ↔ v.untagged.HasTruth b := by
  fun_induction untagged v with
  | case1 tag v ih => exact ih
  | case2 v hv =>
    cases v with
    | tagged tag w => exact (hv tag w rfl).elim
    | null => exact ⟨nofun, nofun⟩
    | sequence vs => exact ⟨nofun, nofun⟩
    | mapping ps => exact ⟨nofun, nofun⟩
    | bool c =>
      refine ⟨?_, ?_⟩
      · rintro ⟨⟩
        constructor
      · rintro ⟨⟩
        rfl
    | number n =>
      cases n with
      | integer i =>
        show (if i < Int.pow 2 63 then Except.ok (i != 0) else .error _) = .ok b ↔ _
        refine ⟨fun h => ?_, ?_⟩
        · split_ifs at h with hi
          cases h
          exact .integer hi
        · rintro (_ | hi)
          exact if_pos hi
      | finite negative x => exact ⟨nofun, nofun⟩
      | infinite negative => exact ⟨nofun, nofun⟩
      | undefined => exact ⟨nofun, nofun⟩
    | string s =>
      rw [← flag?_eq_some_iff]
      show readFlag s = .ok b ↔ _
      unfold readFlag
      cases flag? s <;> simp

theorem flag_eq_error {v : Value} (h : ¬ ∃ b, v.untagged.HasTruth b) :
    v.flag = .error (.badFlag v.untagged.shown) := by
  fun_induction untagged v with
  | case1 tag v ih => exact ih h
  | case2 v hv =>
    cases v with
    | tagged tag w => exact (hv tag w rfl).elim
    | null => rfl
    | sequence vs => rfl
    | mapping ps => rfl
    | bool c => exact (h ⟨c, .bool c⟩).elim
    | number n =>
      cases n with
      | integer i =>
        have hi : ¬ i < Int.pow 2 63 := fun hi => h ⟨_, .integer hi⟩
        exact if_neg hi
      | finite negative x => rfl
      | infinite negative => rfl
      | undefined => rfl
    | string s =>
      have hnone : flag? s = none :=
        Option.eq_none_iff_forall_ne_some.2 fun b hb => h ⟨b, flag?_eq_some_iff.1 hb⟩
      show readFlag s = _
      unfold readFlag
      rw [hnone]
      rfl

end Yaml.Value

end Stencil
