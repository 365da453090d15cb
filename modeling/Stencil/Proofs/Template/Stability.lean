import Stencil.Proofs.Spelling.Expansion
import Stencil.Standalone

/-!
# Expanding an output again

A text without a dollar sign mentions no variable, so as a template it expands to one text under all
variables: backslashes become one where two stand together, and everything else stays
(`expand_of_not_mem_dollar`). An output without a dollar sign is therefore stable exactly when no
two backslashes stand together in it. The main statement is `expand_again`.
-/

namespace Stencil

/-! ## Pairs of backslashes -/

/-- A text in which, from left to right, every two backslashes that stand together become one. -/
def halveBackslashes : List Char → List Char
  | '\\' :: '\\' :: cs => '\\' :: halveBackslashes cs
  | c :: cs => c :: halveBackslashes cs
  | [] => []

theorem length_halveBackslashes_le (cs : List Char) :
    (halveBackslashes cs).length ≤ cs.length := by
  fun_induction halveBackslashes cs with
  | case1 cs ih =>
    simp only [List.length_cons]
    omega
  | case2 c cs hpair ih => exact Nat.succ_le_succ ih
  | case3 => exact Nat.le_refl 0

theorem halveBackslashes_eq_self_iff (cs : List Char) :
    halveBackslashes cs = cs ↔ ¬ ['\\', '\\'] <:+: cs := by
  fun_induction halveBackslashes cs with
  | case1 cs ih =>
    have hinfix : ['\\', '\\'] <:+: '\\' :: '\\' :: cs := ⟨[], cs, rfl⟩
    refine iff_of_false (fun heq => ?_) fun h => h hinfix
    have hlength := congrArg List.length heq
    have hle := length_halveBackslashes_le cs
    simp only [List.length_cons] at hlength
    omega
  | case2 c cs hpair ih =>
    have hstart : ¬ ['\\', '\\'] <+: c :: cs := by
      rintro ⟨rest, hrest⟩
      injection hrest with hc hcs
      exact hpair rest hc.symm hcs.symm
    rw [List.cons.injEq, ih, List.infix_cons_iff]
    simp [hstart]
  | case3 => simp

/-! ## Texts without dollar signs -/

namespace Spelling

/-- How a text without dollar signs is written: two backslashes are an escaped one. -/
def plainGlyphs : List Char → List Glyph
  | '\\' :: '\\' :: cs => .escaped '\\' :: plainGlyphs cs
  | c :: cs => .plain c :: plainGlyphs cs
  | [] => []

theorem map_char_plainGlyphs (cs : List Char) :
    (plainGlyphs cs).map Glyph.char = halveBackslashes cs := by
  fun_induction plainGlyphs cs with
  | case1 cs ih => rw [List.map_cons, ih]; rfl
  | case2 c cs hpair ih =>
    rw [List.map_cons, ih, halveBackslashes]
    · rfl
    · exact hpair
  | case3 => rfl

theorem texts_plainGlyphs [Pattern.Engine] (cs : List Char) :
    sourceWriting.texts ((plainGlyphs cs).map .glyph) = cs := by
  fun_induction plainGlyphs cs with
  | case1 cs ih => exact congrArg ('\\' :: '\\' :: ·) ih
  | case2 c cs hpair ih => exact congrArg (c :: ·) ih
  | case3 => rfl

theorem fit_plainGlyphs [Pattern.Engine] {cs : List Char} (h : '$' ∉ cs) :
    sourceWriting.Fit ((plainGlyphs cs).map .glyph) [] := by
  fun_induction plainGlyphs cs with
  | case1 cs ih =>
    have hcs : '$' ∉ cs := fun hmem => h (by simp [hmem])
    exact ⟨rfl, ih hcs⟩
  | case2 c cs hpair ih =>
    have hcs : '$' ∉ cs := List.not_mem_of_not_mem_cons h
    have hc : c ≠ '$' := fun heq => h (by simp [heq])
    refine ⟨⟨by simp [atTop], fun hback => ?_, fun hdollar => absurd hdollar hc⟩, ih hcs⟩
    -- a backslash that no second one follows escapes nothing, since there is no dollar sign
    rw [texts_plainGlyphs, List.append_nil]
    cases cs with
    | nil => exact stops_nil _
    | cons d cs =>
      have hd : d ≠ '$' := fun heq => hcs (by simp [heq])
      have hd' : d ≠ '\\' := fun heq => hpair cs hback (by rw [heq])
      simp [atTop, hd, hd']
  | case3 => trivial

end Spelling

open Spelling

/-- A text without dollar signs expands under all variables, to itself with its backslashes
halved. -/
theorem expand_of_not_mem_dollar [Pattern.Engine] {text : String} (h : '$' ∉ text.toList)
    (globals builtins : Bindings String) :
    expand text globals builtins = .ok (String.ofList (halveBackslashes text.toList)) := by
  have hcompile := Template.compile_eq_ok_iff_segments.2
    ⟨_, fit_plainGlyphs h, texts_plainGlyphs text.toList, rfl⟩
  rw [expand, hcompile, ← map_char_plainGlyphs]
  show expandNodes (strictFind _ _) (segmentWriting.values 0 (segments _)) = _
  rw [expandNodes_values, flatMap_pieces_segments, expandPieces_glyphs]
  rfl

/-! ## Stability -/

/-- **An output without a dollar sign** expands under all other variables to itself with its
backslashes halved. It is stable exactly when no two backslashes stand together in it. -/
theorem expand_again [Pattern.Engine] {source out : String} {globals builtins : Bindings String}
    (_ : expand source globals builtins = .ok out) (hdollar : '$' ∉ out.toList)
    (globals' builtins' : Bindings String) :
    expand out globals' builtins' = .ok (String.ofList (halveBackslashes out.toList)) ∧
      (expand out globals' builtins' = .ok out ↔ ¬ ['\\', '\\'] <:+: out.toList) := by
  have hexpand := expand_of_not_mem_dollar hdollar globals' builtins'
  refine ⟨hexpand, ?_⟩
  rw [hexpand, Except.ok.injEq, ← String.toList_inj, String.toList_ofList,
    halveBackslashes_eq_self_iff]

/-- A value with a backslash in it, expanded again under no variables. -/
theorem expand_again_value :
    expand "$a\\b" (Bindings.ofList [("a", "x\\")]) .empty = .ok "x\\\\b" ∧
      expand "x\\\\b" .empty .empty = .ok "x\\b" := by
  have hfirst : expand "$a\\b" (Bindings.ofList [("a", "x\\")]) .empty = .ok "x\\\\b" := by
    decide +kernel
  exact ⟨hfirst, (expand_again hfirst (by decide) .empty .empty).1⟩

/-- A doubled backslash is not left as it is, though it has no dollar sign. -/
theorem expand_again_pair :
    ¬ ∀ (source out : String) (globals builtins globals' builtins' : Bindings String),
      expand source globals builtins = .ok out → '$' ∉ out.toList →
        expand out globals' builtins' = .ok out := by
  intro h
  have hstable := h "\\\\\\\\" "\\\\" .empty .empty .empty .empty (by decide +kernel) (by decide)
  revert hstable
  decide +kernel

end Stencil
