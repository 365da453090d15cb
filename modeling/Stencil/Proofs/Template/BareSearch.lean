import Stencil.Proofs.Template.FormPattern

/-!
# Finding bare references

A bare reference is a dollar sign and a name that no name character goes on. It is searched for in
two forms, one after the other: with a character behind it, and at the end of the text. Within a
form the last one is found, but a reference of the first form is preferred to a later one of the
second. The main statement is `bare_found_is_last_iff`: where no reference in braces is found first,
the bare reference that is found is the last one of the text exactly when the two forms do not occur
together. A name whose patterns the engine refuses is found nowhere.
-/

namespace Stencil.Occurrence

/-- A text is cut around a bare reference to a name. -/
structure BareBetween (name cs before after : List Char) : Prop where
  cut : cs = before ++ '$' :: (name ++ after)
  stops : Stops isNameChar after

section Place

variable {name cs u r : List Char}

/-- A bare reference is one of the first form, or it ends the text. -/
theorem BareBetween.refers (h : BareBetween name cs u r) :
    Form.bare.Refers name ('$' :: name) r ∨ r = [] := by
  cases r with
  | nil => exact .inr rfl
  | cons c t => exact .inl (.bare ((stops_cons _ _ _).1 h.stops))

theorem occursIn_bareAtEnd_iff :
    Form.bareAtEnd.OccursIn name cs ↔ ∃ u, BareBetween name cs u [] := by
  constructor
  · rintro ⟨u, w, r, hcut, hrefers⟩
    cases hrefers
    exact ⟨u, hcut, stops_nil _⟩
  · rintro ⟨u, h⟩
    exact ⟨u, _, [], h.cut, .bareAtEnd⟩

/-- The last reference with a character behind it is bare, and before every other one like it. -/
theorem Split.AtLast.bareBetween {s : Split} (h : s.AtLast .bare name cs) :
    s.reference = '$' :: name ∧ s.after ≠ [] ∧ BareBetween name cs s.before s.after ∧
      ∀ u r, BareBetween name cs u r → r ≠ [] → u.length ≤ s.before.length := by
  obtain ⟨before, reference, after⟩ := s
  obtain ⟨hcut, hrefers, hlast⟩ := h
  cases hrefers with
  | bare hc =>
    refine ⟨rfl, List.cons_ne_nil _ _, ⟨hcut.symm, (stops_cons _ _ _).2 hc⟩, ?_⟩
    intro u r hur hne
    exact hlast u _ r hur.cut (hur.refers.resolve_right hne)

/-- A bare reference at the end of a text begins later than every other one. -/
theorem BareBetween.length_lt {u' : List Char} (h : BareBetween name cs u r) (hne : r ≠ [])
    (hend : BareBetween name cs u' []) : u.length < u'.length := by
  have hlength := congrArg List.length (h.cut.symm.trans hend.cut)
  have hpos := List.length_pos_iff.2 hne
  simp only [List.length_append, List.length_cons, List.length_nil] at hlength
  omega

/-- At the end of a text stands one bare reference at most. -/
theorem BareBetween.unique {u' : List Char} (h : BareBetween name cs u [])
    (h' : BareBetween name cs u' []) : u = u' :=
  List.append_cancel_right (h.cut.symm.trans h'.cut)

end Place

section Search

variable {name text : String}

theorem find?_bare {s : Split} (hbraced : ¬ Form.braced.OccursIn name.toList text.toList)
    (hsubscripted : ¬ Form.subscripted.OccursIn name.toList text.toList)
    (h : last? .bare name.toList text.toList = some s) : find? name text = some s := by
  rw [find?, Form.all, List.findSome?_cons, last?_eq_none_iff.2 hbraced, List.findSome?_cons,
    last?_eq_none_iff.2 hsubscripted, List.findSome?_cons, h]

theorem find?_bareAtEnd {s : Split} (hbraced : ¬ Form.braced.OccursIn name.toList text.toList)
    (hsubscripted : ¬ Form.subscripted.OccursIn name.toList text.toList)
    (hbare : ¬ Form.bare.OccursIn name.toList text.toList)
    (h : last? .bareAtEnd name.toList text.toList = some s) : find? name text = some s := by
  rw [find?, Form.all, List.findSome?_cons, last?_eq_none_iff.2 hbraced, List.findSome?_cons,
    last?_eq_none_iff.2 hsubscripted, List.findSome?_cons, last?_eq_none_iff.2 hbare,
    List.findSome?_cons, h]

end Search

/-- The bare reference that the readers find. -/
theorem exists_find?_bare (name text : String)
    (hbraced : ¬ Form.braced.OccursIn name.toList text.toList)
    (hsubscripted : ¬ Form.subscripted.OccursIn name.toList text.toList)
    (hsome : ∃ u r, BareBetween name.toList text.toList u r) :
    ∃ s, find? name text = some s ∧ s.reference = '$' :: name.toList ∧
      BareBetween name.toList text.toList s.before s.after ∧
      (∀ u r, BareBetween name.toList text.toList u r → r ≠ [] → u.length ≤ s.before.length) ∧
      ((∀ u r, BareBetween name.toList text.toList u r → u.length ≤ s.before.length) ↔
        ¬ (Form.bare.OccursIn name.toList text.toList ∧
          Form.bareAtEnd.OccursIn name.toList text.toList)) := by
  by_cases hbare : Form.bare.OccursIn name.toList text.toList
  · obtain ⟨s, hs⟩ := Option.isSome_iff_exists.1 (last?_isSome_iff.2 hbare)
    obtain ⟨hreference, hne, hbetween, hlast⟩ := (last?_eq_some_iff.1 hs).bareBetween
    refine ⟨s, find?_bare hbraced hsubscripted hs, hreference, hbetween, hlast, ?_⟩
    rw [occursIn_bareAtEnd_iff]
    constructor
    · rintro hall ⟨-, u, hend⟩
      exact absurd (hall u [] hend) (Nat.not_le_of_lt (hbetween.length_lt hne hend))
    · intro hnone u r hur
      refine hlast u r hur ?_
      rintro rfl
      exact hnone ⟨hbare, u, hur⟩
  · -- every bare reference is at the end, so there is one only
    have hend : ∀ u r, BareBetween name.toList text.toList u r → r = [] := by
      intro u r hur
      exact hur.refers.resolve_left fun hrefers => hbare ⟨u, _, r, hur.cut, hrefers⟩
    obtain ⟨u, r, hur⟩ := hsome
    obtain rfl := hend u r hur
    have hall : ∀ u' r, BareBetween name.toList text.toList u' r → u'.length ≤ u.length := by
      intro u' r' hur'
      obtain rfl := hend u' r' hur'
      exact Nat.le_of_eq (congrArg List.length (hur'.unique hur))
    have hlast : last? .bareAtEnd name.toList text.toList = some ⟨u, '$' :: name.toList, []⟩ := by
      refine last?_eq_some_iff.2 ⟨hur.cut.symm, .bareAtEnd, fun u' w r hcut hrefers => ?_⟩
      cases hrefers
      exact hall u' [] ⟨hcut, stops_nil _⟩
    refine ⟨_, find?_bareAtEnd hbraced hsubscripted hbare hlast, rfl, hur,
      fun u' r' hur' _ => hall u' r' hur', fun _ hboth => hbare hboth.1, fun _ => hall⟩

/-- **The bare reference that is found.** In a text without a reference in braces, with a subscript
or without one, but with a bare reference, a bare reference is found, unless the engine refuses a
pattern. Of those with a character behind them it is the last one, and it is the last one of all
exactly when the text does not end in one beside such a one. -/
theorem bare_found_is_last_iff [Pattern.Engine] (name text : String)
    (hbraced : ¬ Form.braced.OccursIn name.toList text.toList)
    (hsubscripted : ¬ Form.subscripted.OccursIn name.toList text.toList)
    (hsome : ∃ u r, BareBetween name.toList text.toList u r) :
    ((∃ form, search name text = .error form) ↔ ¬ Searchable name) ∧
    (Searchable name → ∃ s, search name text = .ok (some s) ∧ s.reference = '$' :: name.toList ∧
      BareBetween name.toList text.toList s.before s.after ∧
      (∀ u r, BareBetween name.toList text.toList u r → r ≠ [] → u.length ≤ s.before.length) ∧
      ((∀ u r, BareBetween name.toList text.toList u r → u.length ≤ s.before.length) ↔
        ¬ (Form.bare.OccursIn name.toList text.toList ∧
          Form.bareAtEnd.OccursIn name.toList text.toList))) := by
  refine ⟨search_eq_error_iff, fun hsearchable => ?_⟩
  obtain ⟨s, hs, hfound⟩ := exists_find?_bare name text hbraced hsubscripted hsome
  exact ⟨s, search_eq_ok_iff.2 ⟨hsearchable, hs⟩, hfound⟩

/-- Two references with characters behind them, of which the second is found, and a longer name
between them. -/
theorem bare_found_is_last_between :
    ∃ s, search "nb" "é$nb/$nb1 $nbé" = .ok (some s) ∧ s.reference = "$nb".toList ∧
      ∀ u r, BareBetween "nb".toList "é$nb/$nb1 $nbé".toList u r → u.length ≤ s.before.length := by
  have hfirst : BareBetween "nb".toList "é$nb/$nb1 $nbé".toList "é".toList "/$nb1 $nbé".toList :=
    ⟨rfl, (stops_cons _ _ _).2 rfl⟩
  obtain ⟨s, hs, hreference, -, -, hlast⟩ := (bare_found_is_last_iff "nb" "é$nb/$nb1 $nbé"
    (by decide +kernel) (by decide +kernel) ⟨_, _, hfirst⟩).2
    (searchable_iff_byteWidth.2 (by decide))
  exact ⟨s, hs, hreference, hlast.2 (by decide +kernel)⟩

/-- The reference at the end of the text is not the one that is found. -/
theorem bare_found_before_end :
    ¬ ∀ name text : String, isName name →
      ¬ Form.braced.OccursIn name.toList text.toList →
      ¬ Form.subscripted.OccursIn name.toList text.toList →
      (∃ u r, BareBetween name.toList text.toList u r) →
      ∃ s, search name text = .ok (some s) ∧ s.reference = '$' :: name.toList ∧
        BareBetween name.toList text.toList s.before s.after ∧
        ∀ u r, BareBetween name.toList text.toList u r → u.length ≤ s.before.length := by
  intro h
  have hend : BareBetween "a".toList "$a $a".toList "$a ".toList [] := ⟨rfl, stops_nil _⟩
  obtain ⟨s, hs, -, -, hlast⟩ := h "a" "$a $a" (by decide) (by decide +kernel) (by decide +kernel)
    ⟨_, _, hend⟩
  have hfound : find? "a" "$a $a" = some ⟨[], ['$', 'a'], [' ', '$', 'a']⟩ := by decide +kernel
  cases hfound.symm.trans (search_eq_ok_iff.1 hs).2
  exact absurd (hlast _ _ hend) (by decide)

end Stencil.Occurrence
