import Mathlib.Data.List.Induction
import Mathlib.Tactic.Common
import Stencil.Environment

/-!
# Distinct names

`Environment.distinct` keeps the first occurrence of every name: `nodup_distinct`, `mem_distinct`,
and, for a list that grows at its end, `distinct_concat` and `distinct_append`. So names that are
met in some order are kept in that order (`pairwise_distinct`).
-/

namespace Stencil.Environment

theorem mem_distinct_go {seen names : List String} {name : String} :
    name ∈ distinct.go seen names ↔ name ∈ names ∧ name ∉ seen := by
  induction names generalizing seen with
  | nil => simp [distinct.go]
  | cons n names ih =>
    rw [distinct.go]
    by_cases hn : n ∈ seen
    · rw [if_pos hn, ih, List.mem_cons]
      have hne : name ∉ seen → name ≠ n := fun h he => h (he ▸ hn)
      tauto
    · rw [if_neg hn, List.mem_cons, ih, List.mem_cons, List.mem_cons, not_or]
      by_cases he : name = n
      · simp [he, hn]
      · simp [he]

theorem nodup_distinct_go (seen names : List String) : (distinct.go seen names).Nodup := by
  induction names generalizing seen with
  | nil => exact List.nodup_nil
  | cons n names ih =>
    rw [distinct.go]
    split_ifs
    · exact ih seen
    · refine List.nodup_cons.2 ⟨fun hmem => ?_, ih _⟩
      exact (mem_distinct_go.1 hmem).2 List.mem_cons_self

theorem distinct_go_concat (seen names : List String) (name : String) :
    distinct.go seen (names ++ [name]) =
      if name ∈ seen ∨ name ∈ names then distinct.go seen names
      else distinct.go seen names ++ [name] := by
  induction names generalizing seen with
  | nil => simp [distinct.go]
  | cons n names ih =>
    rw [List.cons_append, distinct.go, distinct.go]
    by_cases hn : n ∈ seen
    · rw [if_pos hn, if_pos hn, ih]
      have hiff : (name ∈ seen ∨ name ∈ n :: names) ↔ (name ∈ seen ∨ name ∈ names) := by
        rw [List.mem_cons]
        constructor
        · rintro (h | rfl | h)
          exacts [Or.inl h, Or.inl hn, Or.inr h]
        · rintro (h | h)
          exacts [Or.inl h, Or.inr (Or.inr h)]
      simp only [hiff]
    · rw [if_neg hn, if_neg hn, ih]
      have hiff : (name ∈ n :: seen ∨ name ∈ names) ↔ (name ∈ seen ∨ name ∈ n :: names) := by
        simp only [List.mem_cons]
        tauto
      simp only [hiff]
      split_ifs <;> rfl

@[simp] theorem mem_distinct {names : List String} {name : String} :
    name ∈ distinct names ↔ name ∈ names := by
  simp [distinct, mem_distinct_go]

theorem nodup_distinct (names : List String) : (distinct names).Nodup :=
  nodup_distinct_go [] names

/-- A name at the end is new, or changes nothing. -/
theorem distinct_concat (names : List String) (name : String) :
    distinct (names ++ [name]) =
      if name ∈ names then distinct names else distinct names ++ [name] := by
  simpa [distinct] using distinct_go_concat [] names name

theorem distinct_of_nodup {names : List String} (h : names.Nodup) : distinct names = names := by
  induction names using List.reverseRecOn with
  | nil => rfl
  | append_singleton names name ih =>
    obtain ⟨hnames, -, hnew⟩ := List.nodup_append.1 h
    have hname : name ∉ names := fun hmem => hnew name hmem name (List.mem_singleton.2 rfl) rfl
    rw [distinct_concat, if_neg hname, ih hnames]

/-- Of two lists put together, the second one adds the names that are not in the first. -/
theorem distinct_append (names names' : List String) :
    distinct (names ++ names') =
      distinct names ++ (distinct names').filter fun name => name ∉ names := by
  induction names' using List.reverseRecOn with
  | nil =>
    rw [List.append_nil]
    exact (List.append_nil _).symm
  | append_singleton names' name ih =>
    rw [← List.append_assoc, distinct_concat, distinct_concat, ih]
    by_cases hname : name ∈ names <;> by_cases hname' : name ∈ names' <;> simp [hname, hname']

/-- Of two names the one that is kept first was met before every occurrence of the other one. -/
theorem pairwise_distinct {α : Type} {R : α → α → Prop} {xs : List α} (h : xs.Pairwise R)
    (name : α → String) :
    (distinct (xs.map name)).Pairwise fun a b =>
      ∃ x ∈ xs, name x = a ∧ ∀ y ∈ xs, name y = b → R x y := by
  induction xs using List.reverseRecOn with
  | nil => exact .nil
  | append_singleton xs z ih =>
    obtain ⟨hxs, -, hlast⟩ := List.pairwise_append.1 h
    have hbefore : ∀ x ∈ xs, R x z := fun x hx => hlast x hx z (List.mem_singleton.2 rfl)
    have hkept := (ih hxs).imp fun {a b} hab =>
      show ∃ x ∈ xs ++ [z], name x = a ∧ ∀ y ∈ xs ++ [z], name y = b → R x y by
        obtain ⟨x, hx, hname, hall⟩ := hab
        refine ⟨x, List.mem_append_left _ hx, hname, fun y hy hyb => ?_⟩
        rcases List.mem_append.1 hy with hy | hy
        · exact hall y hy hyb
        · exact List.mem_singleton.1 hy ▸ hbefore x hx
    rw [List.map_append, List.map_cons, List.map_nil, distinct_concat]
    split_ifs with hz
    · exact hkept
    · refine List.pairwise_append.2 ⟨hkept, List.pairwise_singleton _ _, fun a ha b hb => ?_⟩
      obtain ⟨x, hx, rfl⟩ := List.mem_map.1 (mem_distinct.1 ha)
      refine ⟨x, List.mem_append_left _ hx, rfl, fun y hy hyb => ?_⟩
      rcases List.mem_append.1 hy with hy | hy
      · -- the name at the end is new
        rw [List.mem_singleton.1 hb] at hyb
        exact absurd (List.mem_map.2 ⟨y, hy, hyb⟩) hz
      · exact List.mem_singleton.1 hy ▸ hbefore x hx

theorem head?_distinct (names : List String) : (distinct names).head? = names.head? := by
  cases names <;> rfl

end Stencil.Environment
