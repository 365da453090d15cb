import Stencil.Proofs.Build.Checks
import Stencil.Proofs.CommandLine.Expansion
import Stencil.Proofs.Template.Dependence
import Stencil.Proofs.Template.Nesting
import Stencil.Proofs.Template.NormalForm
import Stencil.Standalone

/-!
# Names that are declared and names that are referenced

Names are checked as whole texts where variables are declared, and are read as the longest run of
name characters where a template refers to one. Both describe the same texts: what is checked can be
referenced with braces and without them (`Spelling.Reference.compile_text`), and what a template
mentions passes the check (`Template.isName_of_mem_variableNames`). The main statement is
`names_declared_and_referenced`.
-/

namespace Stencil

open Spelling

/-! ## References -/

/-- A source that is compiled to one reference and nothing else. -/
def CompilesToVariable [Pattern.Engine] (source : String) (v : VariableRef) : Prop :=
  ∃ t, Template.compile source = .ok t ∧ t.nodes = [.variable v]

theorem nameSound_of_isName {name : String} (h : isName name) : NameSound name.toList := by
  rw [isName, Bool.and_eq_true, List.all_eq_true] at h
  exact ⟨by simpa using h.1, h.2⟩

section

variable [Pattern.Engine]

theorem compiles_text {source : String} {r : Reference} (hr : r.Sound)
    (hsource : source.toList = r.text) : CompilesToVariable source (r.ref 0) := by
  rw [← String.ofList_toList (s := source), hsource]
  exact ⟨_, Reference.compile_text hr, rfl⟩

theorem compiles_braced {name : String} (h : isName name) :
    ∃ v, CompilesToVariable ("$\x7b" ++ name ++ "\x7d") v ∧ v.name = name ∧
      v.subscript = none := by
  have hsound : (Reference.braced ⟨name.toList, none⟩).Sound := ⟨nameSound_of_isName h, nofun⟩
  refine ⟨_, compiles_text hsound ?_, String.ofList_toList, rfl⟩
  simp [Reference.text, Subject.text, Subject.subscriptText]

theorem compiles_bare {name : String} (h : isName name) :
    ∃ v, CompilesToVariable ("$" ++ name) v ∧ v.name = name := by
  have hsound : (Reference.bare name.toList).Sound := nameSound_of_isName h
  refine ⟨_, compiles_text hsound ?_, String.ofList_toList⟩
  simp [Reference.text]

/-- What a template mentions is a name. -/
theorem Template.isName_of_mem_variableNames {source : String} {t : Template}
    (h : Template.compile source = .ok t) {name : String} (hname : name ∈ t.variableNames) :
    isName name := by
  obtain ⟨n, hn, hmem⟩ := List.mem_flatMap.1 (Template.mem_variableNames.1 hname)
  rcases Template.exists_token h hn with ⟨text, span, rfl⟩ | ⟨u, tok, w, -, htok, hends, rfl⟩
  · cases hmem
  · exact Token.isName_of_mem_names htok hends hmem

theorem CompilesToVariable.isName {source : String} {v : VariableRef}
    (h : CompilesToVariable source v) : isName v.name := by
  obtain ⟨t, hcompile, hnodes⟩ := h
  refine Template.isName_of_mem_variableNames hcompile (Template.mem_variableNames.2 ?_)
  simp [hnodes, Node.names]

end

/-! ## Declarations -/

/-- The variables that a build declares, in order. -/
def Build.declarations (b : Build) : List (Bindings String) :=
  b.globals :: b.defaults.locals :: b.notebooks.map (·.locals)

/-- A build declares the names of its draft. -/
theorem Draft.Becomes.map_names {d : Draft} {b : Build} (h : d.Becomes b) :
    b.declarations.map Bindings.names = d.declarations.map Bindings.names := by
  have hdeclared : List.Forall₂ (fun declared vs => WrittenAs declared.entries vs.entries)
      d.declarations b.declarations := by
    refine .cons h.globals (.cons h.locals ?_)
    rw [List.forall₂_map_left_iff, List.forall₂_map_right_iff]
    exact h.notebooks.imp fun _ _ hn => hn.locals
  exact map_eq_map_of_forall₂ (fun _ _ hwritten => hwritten.map_fst) hdeclared

theorem Build.isName_of_mem_names [Yaml.Loader] {text : String} {b : Build}
    (h : Build.ofText text = .ok b) {vs : Bindings String} (hvs : vs ∈ b.declarations)
    {name : String} (hname : name ∈ vs.names) : isName name := by
  obtain ⟨d, -, hcheck⟩ := Build.exists_draft h nofun
  have hmakes := d.makes_check
  have hvalid : d.Valid := Draft.forall_passes_iff.1 (hmakes.exists_iff.1 ⟨b, hcheck⟩)
  have hnames : vs.names ∈ d.declarations.map Bindings.names :=
    (hmakes.property hcheck).map_names ▸ List.mem_map_of_mem hvs
  obtain ⟨declared, hdeclared, heq⟩ := List.mem_map.1 hnames
  rw [← heq] at hname
  obtain ⟨e, he, rfl⟩ := List.mem_map.1 hname
  exact isName_iff.2 (hvalid.declarations declared hdeclared e he).1

/-- **What can be declared can be referenced, and what is referenced can be declared.** A text
passes the check of names exactly when it is the name of one reference in braces, and exactly when
it is the name of one reference without them. A template mentions no other names, and neither a
build that is loaded nor an assignment of the command line declares any. -/
theorem names_declared_and_referenced [Pattern.Engine] [Yaml.Loader] (name : String) :
    (isName name ↔ ∃ v, CompilesToVariable ("$\x7b" ++ name ++ "\x7d") v ∧ v.name = name ∧
      v.subscript = none) ∧
    (isName name ↔ ∃ v, CompilesToVariable ("$" ++ name) v ∧ v.name = name) ∧
    (∀ source t, Template.compile source = .ok t → name ∈ t.variableNames → isName name) ∧
    (∀ text b, Build.ofText text = .ok b → ∀ vs ∈ b.declarations, name ∈ vs.names →
      isName name) ∧
    ∀ value, CommandLine.assignment (name ++ "=" ++ value) = .ok (name, value) ↔ isName name := by
  refine ⟨⟨compiles_braced, ?_⟩, ⟨compiles_bare, ?_⟩, fun source t h => ?_,
    fun text b h vs hvs => ?_, fun value => ?_⟩
  · rintro ⟨v, hv, rfl, -⟩
    exact hv.isName
  · rintro ⟨v, hv, rfl⟩
    exact hv.isName
  · exact Template.isName_of_mem_variableNames h
  · exact Build.isName_of_mem_names h hvs
  · rw [CommandLine.assignment_eq_ok_iff, and_iff_left rfl]

/-- A name that starts with a digit: it is mentioned with a subscript, declared in a build and
assigned, and so it can be referenced. A letter that is not ASCII is no name. -/
theorem names_declared_and_referenced_digit :
    (∃ t b, Template.compile "$\x7b1_a[0]\x7d" = .ok t ∧ "1_a" ∈ t.variableNames ∧
      Build.ofText "variables:\n  1_a: x\n" = .ok b ∧ "1_a" ∈ b.globals.names ∧
      isName "1_a" = true) ∧
    CommandLine.assignment "1_a=b=c" = .ok ("1_a", "b=c") ∧
    (∃ v, CompilesToVariable "$\x7b1_a\x7d" v ∧ v.name = "1_a" ∧ v.subscript = none) ∧
    (∃ v, CompilesToVariable "$1_a" v ∧ v.name = "1_a") ∧
    ¬ ∃ v, CompilesToVariable "$é" v ∧ v.name = "é" := by
  obtain ⟨hbraced, hbare, hmentioned, hdeclared, hassigned⟩ := names_declared_and_referenced "1_a"
  obtain ⟨-, haccent, -⟩ := names_declared_and_referenced "é"
  have hcompile : Template.compile "$\x7b1_a[0]\x7d" =
      .ok ⟨"$\x7b1_a[0]\x7d", [.variable ⟨"1_a", some (.index 0), true, ⟨0, 9⟩⟩]⟩ := by
    decide +kernel
  have hname := hmentioned _ _ hcompile (by decide)
  have hload : (Build.ofText "variables:\n  1_a: x\n").map (·.globals.names) = .ok ["1_a"] := by
    decide +kernel
  cases hbuild : Build.ofText "variables:\n  1_a: x\n" with
  | error e =>
    rw [hbuild] at hload
    cases hload
  | ok b =>
    rw [hbuild] at hload
    have hnames : b.globals.names = ["1_a"] := Except.ok.inj hload
    have hmem : "1_a" ∈ b.globals.names := hnames ▸ List.mem_singleton.2 rfl
    have hname' := hdeclared _ b hbuild b.globals List.mem_cons_self hmem
    exact ⟨⟨_, b, hcompile, by decide, rfl, hmem, hname'⟩, (hassigned "b=c").2 hname,
      hbraced.1 hname, hbare.1 hname, mt haccent.2 (by decide)⟩

end Stencil
