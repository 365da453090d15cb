import Stencil.Proofs.Template.Occurrence

/-!
# Which occurrence is found

A text may hold references to a name in several forms, and several of each. The readers give a cut
of the text exactly when the cut is made at a reference of some form, no reference of that form
starts later, and no form that is tried before it occurs (`find?_eq_some_iff`); they give nothing
exactly when no form occurs (`find?_eq_none_iff`).

One place holds at most one reference of a form (`Form.Refers.unique`), so that the last place alone
decides the cut: `last?` looks at the rest of the text before it looks at the front
(`last?_eq_some_iff`, by induction on the text), and the forms are tried one after the other.
-/

namespace Stencil.Occurrence

section Place

variable {form : Form} {name cs u w r u' w' r' : List Char}

/-- Before a given text, a reference is read at most one way. -/
theorem Form.Refers.unique (h : form.Refers name w r) (h' : form.Refers name w' r')
    (hcut : w ++ r = w' ++ r') : w = w' ∧ r = r' := by
  have hread : form.rest? name (w ++ r) = some r := rest?_eq_some_iff.2 ⟨w, h, rfl⟩
  have hread' : form.rest? name (w ++ r) = some r' := rest?_eq_some_iff.2 ⟨w', h', hcut⟩
  have hrest : r = r' := Option.some.inj (hread.symm.trans hread')
  subst hrest
  exact ⟨List.append_cancel_right hcut, rfl⟩

/-- A text is cut in front of a reference of a form, and none of that form starts later. -/
structure Split.AtLast (s : Split) (form : Form) (name cs : List Char) : Prop where
  cut : s.before ++ (s.reference ++ s.after) = cs
  refers : form.Refers name s.reference s.after
  last : ∀ u w r, cs = u ++ (w ++ r) → form.Refers name w r → u.length ≤ s.before.length

theorem Split.AtLast.occursIn {s : Split} (h : s.AtLast form name cs) : form.OccursIn name cs :=
  ⟨s.before, s.reference, s.after, h.cut.symm, h.refers⟩

/-- Two cuts at the last reference are made at the same place. -/
theorem Split.AtLast.unique {s t : Split} (hs : s.AtLast form name cs)
    (ht : t.AtLast form name cs) : s = t := by
  have hlength : s.before.length = t.before.length :=
    Nat.le_antisymm (ht.last _ _ _ hs.cut.symm hs.refers) (hs.last _ _ _ ht.cut.symm ht.refers)
  have hcut : s.before ++ (s.reference ++ s.after) = t.before ++ (t.reference ++ t.after) :=
    hs.cut.trans ht.cut.symm
  obtain ⟨hbefore, hcut⟩ := List.append_inj hcut hlength
  obtain ⟨hreference, hafter⟩ := hs.refers.unique ht.refers hcut
  cases s
  cases t
  cases hbefore
  cases hreference
  cases hafter
  rfl

/-- A cut further on stays the last one when a character is put in front of the text. -/
theorem Split.AtLast.cons {s : Split} (h : s.AtLast form name cs) (c : Char) :
    ({ s with before := c :: s.before } : Split).AtLast form name (c :: cs) := by
  refine ⟨by rw [List.cons_append, h.cut], h.refers, fun u w r hcut hrefers => ?_⟩
  cases u with
  | nil => exact Nat.zero_le _
  | cons a u =>
    have hle := h.last u w r (List.tail_eq_of_cons_eq hcut) hrefers
    rw [List.length_cons, List.length_cons]
    omega

/-- A reference in front is the last one when there is none further on. -/
theorem Form.Refers.atLast_front {c : Char} (h : form.Refers name w r) (hcut : w ++ r = c :: cs)
    (hnone : ¬ form.OccursIn name cs) : (⟨[], w, r⟩ : Split).AtLast form name (c :: cs) := by
  refine ⟨hcut, h, fun u w' r' hcut' hrefers => ?_⟩
  cases u with
  | nil => exact Nat.le_refl _
  | cons a u => exact absurd ⟨u, w', r', List.tail_eq_of_cons_eq hcut', hrefers⟩ hnone

end Place

section Search

variable {form : Form} {name cs : List Char} {s : Split}

theorem last?_eq_none_iff : last? form name cs = none ↔ ¬ form.OccursIn name cs := by
  rw [← last?_isSome_iff, Option.not_isSome_iff_eq_none]

/-- What is found of one form is its last occurrence. -/
theorem atLast_of_last? (h : last? form name cs = some s) : s.AtLast form name cs := by
  induction cs generalizing s with
  | nil => cases h
  | cons c cs ih =>
    rw [last?] at h
    split at h
    · rename_i t ht
      cases h
      exact (ih ht).cons c
    · rename_i hnone
      obtain ⟨r, hr, rfl⟩ := Option.map_eq_some_iff.1 h
      obtain ⟨w, hw, hcut⟩ := rest?_eq_some_iff.1 hr
      have htake : (c :: cs).take ((c :: cs).length - r.length) = w := by
        rw [hcut, List.length_append, Nat.add_sub_cancel, List.take_left]
      rw [htake]
      exact hw.atLast_front hcut.symm (last?_eq_none_iff.1 hnone)

theorem last?_eq_some_iff : last? form name cs = some s ↔ s.AtLast form name cs := by
  refine ⟨atLast_of_last?, fun h => ?_⟩
  obtain ⟨t, ht⟩ := Option.isSome_iff_exists.1 (last?_isSome_iff.2 h.occursIn)
  rw [ht, (atLast_of_last? ht).unique h]

end Search

/-- The readers give the last reference of the first form that occurs. -/
theorem find?_eq_some_iff {name text : String} {s : Split} :
    find? name text = some s ↔
      ∃ tried form untried, Form.all = tried ++ form :: untried ∧
        (∀ earlier ∈ tried, ¬ earlier.OccursIn name.toList text.toList) ∧
        s.AtLast form name.toList text.toList := by
  rw [find?, List.findSome?_eq_some_iff]
  simp only [last?_eq_some_iff, last?_eq_none_iff]
  constructor
  · rintro ⟨tried, form, untried, hall, hlast, htried⟩
    exact ⟨tried, form, untried, hall, htried, hlast⟩
  · rintro ⟨tried, form, untried, hall, htried, hlast⟩
    exact ⟨tried, form, untried, hall, hlast, htried⟩

/-- They give nothing only where no form occurs. -/
theorem find?_eq_none_iff {name text : String} :
    find? name text = none ↔ ∀ form : Form, ¬ form.OccursIn name.toList text.toList := by
  rw [← Option.not_isSome_iff_eq_none, find?_isSome_iff, not_exists]

end Stencil.Occurrence
