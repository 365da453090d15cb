import Stencil.Proofs.Build.Values
import Stencil.Standalone

/-!
# The flag of one notebook

What the flag of a notebook does to the loading of a build, everything else being the same. A flag
that is true or false only sets the notebook's own `skip` (`check_setSkip_of_ok`); one that is
neither is reported once everything before it is checked (`check_setSkip_of_error`). The main
statement is `skip_follows_value`: which of the two happens for whole numbers, other numbers and
texts.
-/

namespace Stencil

/-! ## Changing one flag -/

/-- The flag of the notebook at a position. -/
def Draft.skip? (d : Draft) (i : Nat) : Option Yaml.Value :=
  d.notebooks[i]?.bind (·.skip)

def NotebookDraft.setSkip (n : NotebookDraft) (skip : Option Yaml.Value) : NotebookDraft :=
  { n with skip }

/-- The draft with another flag of the notebook at a position. -/
def Draft.setSkip (d : Draft) (i : Nat) (skip : Option Yaml.Value) : Draft :=
  { d with notebooks := d.notebooks.modify i (·.setSkip skip) }

def Notebook.setSkip (n : Notebook) (skip : Bool) : Notebook :=
  { n with skip }

/-- The build in which the notebook at a position is skipped or not. -/
def Build.setSkip (b : Build) (i : Nat) (skip : Bool) : Build :=
  { b with notebooks := b.notebooks.modify i (·.setSkip skip) }

/-- What of a notebook is checked before its flag. -/
def NotebookDraft.beforeSkip (n : NotebookDraft) : NotebookDraft :=
  { n with locals := .empty, skip := none }

/-- What of a draft is checked before the flag of the notebook at a position. -/
def Draft.beforeSkip (d : Draft) (i : Nat) : Draft :=
  { d with notebooks := (d.notebooks.take (i + 1)).modify i NotebookDraft.beforeSkip }

theorem Draft.lt_of_skip? {d : Draft} {i : Nat} {v : Yaml.Value} (h : d.skip? i = some v) :
    i < d.notebooks.length := by
  obtain ⟨n, hn, -⟩ := Option.bind_eq_some_iff.1 h
  exact (List.getElem?_eq_some_iff.1 hn).1

theorem Draft.setSkip_eq_self {d : Draft} {i : Nat} {v : Yaml.Value} (h : d.skip? i = some v) :
    d.setSkip i (some v) = d := by
  obtain ⟨n, hn, hv⟩ := Option.bind_eq_some_iff.1 h
  have hnotebooks : d.notebooks.modify i (·.setSkip (some v)) = d.notebooks := by
    refine List.ext_getElem? fun j => ?_
    rw [List.getElem?_modify]
    by_cases hj : i = j
    · subst hj
      simp [hn, ← hv, NotebookDraft.setSkip]
    · simp [hj]
  rw [setSkip, hnotebooks]

/-! ## Loading item by item -/

section Traversal

variable {ε α β : Type} {f : α → Except ε β} {g h : α → α}

/-- A change of one item that changes its result alone. -/
theorem mapM_modify_of_map {k : β → β} (i : Nat) (as : List α)
    (hitem : ∀ a, f (g a) = (f (h a)).map k) :
    (as.modify i g).mapM f = ((as.modify i h).mapM f).map (·.modify i k) := by
  induction as generalizing i with
  | nil => simp [pure, Except.pure, Except.map]
  | cons a as ih =>
    cases i with
    | zero =>
      rw [List.modify_zero_cons, List.modify_zero_cons, List.mapM_cons, List.mapM_cons, hitem]
      cases f (h a) with
      | error e => rfl
      | ok b => cases as.mapM f <;> rfl
    | succ i =>
      rw [List.modify_succ_cons, List.modify_succ_cons, List.mapM_cons, List.mapM_cons, ih]
      cases f a with
      | error e => rfl
      | ok b => cases (as.modify i h).mapM f <;> rfl

/-- A change of one item that makes it fail: what comes after it does not matter. -/
theorem mapM_modify_of_error {e : ε} {i : Nat} {as : List α} (hi : i < as.length)
    (hitem : ∀ a, f (g a) = f (h a) >>= fun _ => .error e) :
    (as.modify i g).mapM f = ((as.take (i + 1)).modify i h).mapM f >>= fun _ => .error e := by
  induction as generalizing i with
  | nil => exact absurd hi (Nat.not_lt_zero i)
  | cons a as ih =>
    rw [List.take_succ_cons]
    cases i with
    | zero =>
      rw [List.modify_zero_cons, List.modify_zero_cons, List.mapM_cons, List.mapM_cons, hitem]
      cases f (h a) <;> rfl
    | succ i =>
      rw [List.modify_succ_cons, List.modify_succ_cons, List.mapM_cons, List.mapM_cons,
        ih (Nat.lt_of_succ_lt_succ hi)]
      cases f a with
      | error e => rfl
      | ok b => cases ((as.take (i + 1)).modify i h).mapM f <;> rfl

end Traversal

section Checks

variable {v : Yaml.Value}

theorem NotebookDraft.check_setSkip_of_ok {skip : Bool} (hv : v.flag = .ok skip)
    (defaultDestination : Option String) (n : NotebookDraft) :
    (n.setSkip (some v)).check defaultDestination =
      ((n.setSkip none).check defaultDestination).map (·.setSkip skip) := by
  unfold check setSkip
  dsimp only
  cases n.destination.or defaultDestination with
  | none => rfl
  | some destination =>
    dsimp only
    rw [hv]
    cases checkVariables (.notebook n.source) n.locals <;> rfl

theorem NotebookDraft.check_setSkip_of_error {e : BuildError} (hv : v.flag = .error e)
    (defaultDestination : Option String) (n : NotebookDraft) :
    (n.setSkip (some v)).check defaultDestination =
      n.beforeSkip.check defaultDestination >>= fun _ => .error e := by
  unfold check setSkip beforeSkip
  dsimp only
  cases n.destination.or defaultDestination with
  | none => rfl
  | some destination =>
    dsimp only
    rw [hv]
    rfl

/-- A flag that is true or false decides on its notebook and on nothing else. -/
theorem Draft.check_setSkip_of_ok {skip : Bool} (hv : v.flag = .ok skip) (d : Draft) (i : Nat) :
    (d.setSkip i (some v)).check = (d.setSkip i none).check.map (·.setSkip i skip) := by
  unfold check setSkip
  dsimp only
  rw [mapM_modify_of_map i d.notebooks
    (NotebookDraft.check_setSkip_of_ok hv d.defaults.destination)]
  cases checkVariables .globals d.globals with
  | error e => rfl
  | ok globals =>
    cases checkVariables .defaults d.defaults.locals with
    | error e => rfl
    | ok locals =>
      cases (d.notebooks.modify i (·.setSkip none)).mapM
        (NotebookDraft.check d.defaults.destination) <;> rfl

/-- A flag that is neither is reported, unless there is an error before it. -/
theorem Draft.check_setSkip_of_error {e : BuildError} (hv : v.flag = .error e) {d : Draft} {i : Nat}
    (hi : i < d.notebooks.length) :
    (d.setSkip i (some v)).check = (d.beforeSkip i).check >>= fun _ => .error e := by
  unfold check setSkip beforeSkip
  dsimp only
  rw [mapM_modify_of_error hi
    (NotebookDraft.check_setSkip_of_error hv d.defaults.destination)]
  cases checkVariables .globals d.globals with
  | error e => rfl
  | ok globals =>
    cases checkVariables .defaults d.defaults.locals with
    | error e => rfl
    | ok locals =>
      cases ((d.notebooks.take (i + 1)).modify i NotebookDraft.beforeSkip).mapM
        (NotebookDraft.check d.defaults.destination) <;> rfl

end Checks

/-! ## What a flag is worth -/

namespace Yaml.Value

theorem flag_of_integer {v : Value} {k : Int} (hv : v.untagged = .number (.integer k)) :
    v.flag = if k < Int.pow 2 63 then .ok (k != 0) else .error (.badFlag (toString k)) := by
  split_ifs with hk
  · exact flag_eq_ok_iff.2 (hv ▸ .integer hk)
  · have hnone : ¬ ∃ b, v.untagged.HasTruth b := by
      rw [hv]
      rintro ⟨_, _ | hlt⟩
      exact hk hlt
    rw [flag_eq_error hnone, hv]
    rfl

theorem flag_of_number {v : Value} {x : Number} (hv : v.untagged = .number x)
    (hx : ∀ k, x ≠ .integer k) : v.flag = .error (.badFlag x.text) := by
  have hnone : ¬ ∃ b, v.untagged.HasTruth b := by
    rw [hv]
    rintro ⟨b, h⟩
    cases h
    exact hx _ rfl
  rw [flag_eq_error hnone, hv]
  rfl

theorem HasTruth.of_toLower_eq {s s' : String} {b : Bool} (h : (string s).HasTruth b)
    (hcase : s'.toLower = s.toLower) : (string s').HasTruth b := by
  cases h with
  | yes h => exact .yes (hcase ▸ h)
  | no h => exact .no (hcase ▸ h)

/-- Texts that differ in case only are both true, both false, or both no flags. -/
theorem flag_of_strings {v w : Value} {s s' : String} (hv : v.untagged = .string s)
    (hw : w.untagged = .string s') (hcase : s'.toLower = s.toLower) :
    (∃ b, v.flag = .ok b ∧ w.flag = .ok b) ∨
      (v.flag = .error (.badFlag s) ∧ w.flag = .error (.badFlag s')) := by
  by_cases h : ∃ b, (string s).HasTruth b
  · obtain ⟨b, hb⟩ := h
    exact .inl ⟨b, flag_eq_ok_iff.2 (hv ▸ hb), flag_eq_ok_iff.2 (hw ▸ hb.of_toLower_eq hcase)⟩
  · have h' : ¬ ∃ b, (string s').HasTruth b := fun ⟨b, hb⟩ => h ⟨b, hb.of_toLower_eq hcase.symm⟩
    have hv' := flag_eq_error (v := v) (hv ▸ h)
    have hw' := flag_eq_error (v := w) (hw ▸ h')
    rw [hv] at hv'
    rw [hw] at hw'
    exact .inr ⟨hv', hw'⟩

end Yaml.Value

/-- **What the flag of a notebook is worth**, whatever else the build file says. A whole number is
true when it is not zero, if 64 bits with a sign hold it: the build is then the one without the
flag, but for the flag's notebook. A greater whole number and a number of another kind are errors
that show the number, unless something before the flag is wrong. Case does not matter in a text:
either the same comes out or both texts are shown as errors. -/
theorem skip_follows_value [Yaml.Loader] {text : String} {d : Draft} {i : Nat} {v : Yaml.Value}
    (hd : Draft.ofText? text = some d) (hv : d.skip? i = some v) :
    let taken (skip : Bool) : Except BuildError Build :=
      (d.setSkip i none).check.map (·.setSkip i skip)
    let refused (shown : String) : Except BuildError Build :=
      (d.beforeSkip i).check >>= fun _ => .error (.badFlag shown)
    (∀ k : Int, v.untagged = .number (.integer k) →
      Build.ofText text = if k < Int.pow 2 63 then taken (k != 0) else refused (toString k)) ∧
    (∀ x : Yaml.Number, v.untagged = .number x → (∀ k, x ≠ .integer k) →
      Build.ofText text = refused x.text) ∧
    ∀ s, v.untagged = .string s → ∀ s' w, w.untagged = .string s' → s'.toLower = s.toLower →
      (d.setSkip i (some w)).check = Build.ofText text ∨
        (Build.ofText text = .error (.badFlag s) ∧
          (d.setSkip i (some w)).check = .error (.badFlag s')) := by
  intro taken refused
  have hi : i < d.notebooks.length := Draft.lt_of_skip? hv
  have hload : Build.ofText text = (d.setSkip i (some v)).check := by
    rw [Draft.setSkip_eq_self hv, Build.ofText, hd]
  have htaken : ∀ {w : Yaml.Value} {b : Bool}, w.flag = .ok b →
      (d.setSkip i (some w)).check = taken b := fun hw => d.check_setSkip_of_ok hw i
  have hrefused : ∀ {w : Yaml.Value} {shown : String}, w.flag = .error (.badFlag shown) →
      (d.setSkip i (some w)).check = refused shown := fun hw => Draft.check_setSkip_of_error hw hi
  refine ⟨fun k hk => ?_, fun x hx hkind => ?_, fun s hs s' w hw hcase => ?_⟩
  · have hflag := Yaml.Value.flag_of_integer hk
    rw [hload]
    split_ifs at hflag ⊢ with hbound
    · exact htaken hflag
    · exact hrefused hflag
  · rw [hload]
    exact hrefused (Yaml.Value.flag_of_number hx hkind)
  · rw [hload]
    rcases Yaml.Value.flag_of_strings hs hw hcase with ⟨b, hvb, hwb⟩ | ⟨hve, hwe⟩
    · left
      rw [htaken hvb, htaken hwb]
    · -- an error before the flag hides both texts
      have hshown : ∀ shown, refused shown =
          (d.beforeSkip i).check >>= fun _ => .error (.badFlag shown) := fun _ => rfl
      rw [hrefused hve, hrefused hwe, hshown, hshown]
      cases (d.beforeSkip i).check with
      | error e => exact .inl rfl
      | ok b => exact .inr ⟨rfl, rfl⟩

theorem Yaml.Value.eq_of_same_number {x : Number} {v : Value} (hx : ∀ negative y,
    x ≠ .finite negative y) (h : (number x).same v) : v = .number x := by
  cases v with
  | number y =>
    cases x with
    | finite negative x => exact absurd rfl (hx negative x)
    | integer _ | infinite _ | undefined => exact congrArg number (beq_iff_eq.1 h).symm
  | null | bool _ | string _ | sequence _ | mapping _ | tagged _ _ => cases h

theorem Yaml.Value.eq_of_same_string {s : String} {v : Value} (h : (string s).same v) :
    v = .string s := by
  cases v with
  | string t => exact congrArg string (beq_iff_eq.1 h).symm
  | null | bool _ | number _ | sequence _ | mapping _ | tagged _ _ => cases h

/-- A tagged number, a text in two cases, and a number that is not whole. -/
theorem skip_follows_value_tagged :
    let text := "notebooks:\n- src: x\n  dest: d\n  skip: !t -5\n- src: y\n  dest: e\n  skip: YeS\n"
    let broken := "notebooks:\n- src: x\n  dest: d\n  skip: -.inf\n"
    (∃ d, Draft.ofText? text = some d ∧
      Build.ofText text = (d.setSkip 0 none).check.map (·.setSkip 0 true) ∧
      (d.setSkip 1 (some (.string "yEs"))).check = Build.ofText text ∧
      (Build.ofText text).map (fun b => b.notebooks.map (·.skip)) = .ok [true, true]) ∧
    ∃ d, Draft.ofText? broken = some d ∧
      Build.ofText broken = (d.beforeSkip 0).check >>= fun _ => .error (.badFlag "-.inf") := by
  intro text broken
  have htext : (Draft.ofText? text).any fun d =>
      (d.skip? 0).any (fun v => (Yaml.Value.number (.integer (-5))).same v.untagged) &&
        (d.skip? 1).any fun v => (Yaml.Value.string "YeS").same v.untagged := by decide +kernel
  have hskips : (Build.ofText text).map (fun b => b.notebooks.map (·.skip)) = .ok [true, true] := by
    decide +kernel
  have hbroken : (Draft.ofText? broken).any fun d =>
      (d.skip? 0).any fun v => (Yaml.Value.number (.infinite true)).same v.untagged := by
    decide +kernel
  constructor
  · obtain ⟨d, hd, hflags⟩ := (Option.any_eq_true _ _).1 htext
    obtain ⟨hfirst, hsecond⟩ := Bool.and_eq_true_iff.1 hflags
    obtain ⟨v, hv, hnumber⟩ := (Option.any_eq_true _ _).1 hfirst
    obtain ⟨w, hw, hstring⟩ := (Option.any_eq_true _ _).1 hsecond
    have hcase : "yEs".toLower = "YeS".toLower := by
      show "yEs".map Char.toLower = "YeS".map Char.toLower
      rw [← String.toList_inj, String.toList_map, String.toList_map]
      decide
    obtain ⟨htaken, -, -⟩ := skip_follows_value hd hv
    obtain ⟨-, -, hsame⟩ := skip_follows_value hd hw
    refine ⟨d, hd, htaken (-5) (Yaml.Value.eq_of_same_number nofun hnumber), ?_, hskips⟩
    rcases hsame "YeS" (Yaml.Value.eq_of_same_string hstring) "yEs" (.string "yEs") rfl hcase with
      h | ⟨h, -⟩
    · exact h
    · rw [h] at hskips
      cases hskips
  · obtain ⟨d, hd, hflag⟩ := (Option.any_eq_true _ _).1 hbroken
    obtain ⟨v, hv, hnumber⟩ := (Option.any_eq_true _ _).1 hflag
    obtain ⟨-, hrefused, -⟩ := skip_follows_value hd hv
    have hinfinite : v.untagged = .number (.infinite true) :=
      Yaml.Value.eq_of_same_number nofun hnumber
    exact ⟨d, hd, hrefused _ hinfinite nofun⟩

/-- The first whole number that 64 bits with a sign do not hold is refused as a flag, and without
this flag the build is loaded. -/
theorem great_number_is_no_flag :
    let text := "notebooks:\n  - src: a.py\n    dest: x\n    skip: 9223372036854775808\n"
    ∃ d v, Draft.ofText? text = some d ∧ d.skip? 0 = some v ∧
      v.untagged = .number (.integer 9223372036854775808) ∧
      Build.ofText text = .error (.badFlag "9223372036854775808") ∧
      (∃ b, (d.setSkip 0 none).check = .ok b) ∧
      Build.ofText text ≠ (d.setSkip 0 none).check.map (·.setSkip 0 true) := by
  intro text
  have htext : (Draft.ofText? text).any fun d =>
      (d.skip? 0).any (fun v =>
        (Yaml.Value.number (.integer 9223372036854775808)).same v.untagged) &&
      ((d.beforeSkip 0).check.isOk && (d.setSkip 0 none).check.isOk) := by decide +kernel
  obtain ⟨d, hd, hchecks⟩ := (Option.any_eq_true _ _).1 htext
  obtain ⟨hflag, hloads⟩ := Bool.and_eq_true_iff.1 hchecks
  obtain ⟨hbefore, hwithout⟩ := Bool.and_eq_true_iff.1 hloads
  obtain ⟨v, hv, hsame⟩ := (Option.any_eq_true _ _).1 hflag
  have hnumber : v.untagged = .number (.integer 9223372036854775808) :=
    Yaml.Value.eq_of_same_number nofun hsame
  have hok : ∀ r : Except BuildError Build, r.isOk = true → ∃ b, r = .ok b := fun r hr => by
    cases r with
    | ok b => exact ⟨b, rfl⟩
    | error e => cases hr
  obtain ⟨before, hbefore⟩ := hok _ hbefore
  obtain ⟨b, hb⟩ := hok _ hwithout
  have hbad : v.flag = .error (.badFlag "9223372036854775808") := Yaml.Value.flag_of_integer hnumber
  have herror : Build.ofText text = .error (.badFlag "9223372036854775808") := by
    have hcheck := Draft.check_setSkip_of_error hbad (Draft.lt_of_skip? hv)
    rw [Draft.setSkip_eq_self hv, hbefore] at hcheck
    rw [Build.ofText, hd]
    exact hcheck
  refine ⟨d, v, hd, hv, hnumber, herror, ⟨b, hb⟩, ?_⟩
  rw [herror, hb]
  exact nofun

end Stencil
