import Mathlib.Data.List.Forall2
import Stencil.CommandLine.Run
import Stencil.Proofs.CommandLine.Arguments
import Stencil.Standalone

/-!
# Expanding from the command line

The command line assembles the variables of an expansion piece by piece: the built-ins of a path,
the given built-ins, the globals of a build file, the given definitions. The environment that comes
out is the one that the library makes of the two updated sets of bindings (`environment_eq`), so the
command prints what the library returns (`run_expand`), and which of several values a name has does
not depend on how definitions and built-ins are interleaved.
-/

namespace Stencil.CommandLine

/-! ## Assignments -/

/-- Texts that assign values to names. A name has no equals sign, so each text is cut at its first
one. -/
def Assigns (texts : List String) (pairs : List (String × String)) : Prop :=
  List.Forall₂ (fun text p => isName p.1 = true ∧ text = p.1 ++ "=" ++ p.2) texts pairs

theorem not_mem_of_isName {name : String} (h : isName name = true) : '=' ∉ name.toList := by
  intro hmem
  rw [isName, Bool.and_eq_true, List.all_eq_true] at h
  exact absurd (h.2 '=' hmem) (by decide)

theorem assignment_eq_ok_iff {text : String} {p : String × String} :
    assignment text = .ok p ↔ isName p.1 = true ∧ text = p.1 ++ "=" ++ p.2 := by
  constructor
  · intro h
    unfold assignment at h
    split at h
    · cases h
    next a value hvalue =>
      dsimp only at h
      split_ifs at h with hname
      cases h
      refine ⟨hname, String.toList_inj.1 ?_⟩
      simp [eq_of_dropWhile_eq_cons hvalue]
  · obtain ⟨name, value⟩ := p
    rintro ⟨hname, rfl⟩
    have hnot := not_mem_of_isName hname
    have htext : (name ++ "=" ++ value).toList = name.toList ++ '=' :: value.toList := by simp
    unfold assignment
    rw [htext, dropWhile_append_equals hnot, takeWhile_append_equals hnot, String.ofList_toList]
    simp [hname]

theorem mapM_assignment {texts : List String} {pairs : List (String × String)}
    (h : Assigns texts pairs) : texts.mapM assignment = .ok pairs := by
  induction h with
  | nil => rfl
  | cons hhead _ ih =>
    rw [List.mapM_cons, assignment_eq_ok_iff.2 hhead, ih]
    rfl

/-! ## The environment -/

namespace Expansion

/-- The template is given once, as an argument or as a file that holds it. -/
def Gives (e : Expansion) (read : ReadFile) (text : String) : Prop :=
  (e.template = some text ∧ e.file = none) ∨
    (e.template = none ∧ ∃ path, e.file = some path ∧ read path = .ok text)

/-- There is no build file, or one that loads, with its globals. -/
def GivesGlobals [Yaml.Loader] (e : Expansion) (read : ReadFile) (base : Bindings String) : Prop :=
  (e.buildFile = none ∧ base = .empty) ∨
    ∃ path b, e.buildFile = some path ∧ readBuild read path = .ok b ∧ base = b.globals

/-- The built-ins of the source's path. -/
def derived (e : Expansion) : List (String × String) :=
  match e.source with
  | some path => SourcePath.builtins path true
  | none => []

/-- What the library makes of a template. -/
def expanded [Pattern.Engine] (e : Expansion) (text : String)
    (globals builtins : Bindings String) : Except TemplateError String :=
  if e.safe then expandSafe text globals builtins else expand text globals builtins

variable {e : Expansion} {read : ReadFile} {text : String} {base : Bindings String}
  {definitions builtins : List (String × String)}

theorem load_eq [Pattern.Engine] (h : e.Gives read text) :
    ∃ f : TemplateError → Failure, e.load read = (Template.compile text).mapError f := by
  rcases h with ⟨htemplate, hfile⟩ | ⟨htemplate, path, hfile, hread⟩
  · exact ⟨.template, by rw [load, htemplate, hfile]⟩
  · exact ⟨.templateFile path, by simp only [load, htemplate, hfile, readTemplate, hread]⟩

theorem buildGlobals_eq [Yaml.Loader] (h : e.GivesGlobals read base) :
    e.buildGlobals read = .ok base := by
  rcases h with ⟨hfile, rfl⟩ | ⟨path, b, hfile, hread, rfl⟩
  · rw [buildGlobals, hfile]
  · simp only [buildGlobals, hfile, hread]
    rfl

theorem builtinBindings_eq (h : Assigns e.builtins builtins) :
    e.builtinBindings = .ok ((Bindings.ofList e.derived).insertAll builtins) := by
  rw [builtinBindings, mapM_assignment h]
  rfl

/-- What is assembled piece by piece is what the library makes of the updated bindings. -/
theorem environment_eq [Yaml.Loader] (hbuild : e.GivesGlobals read base)
    (hdefinitions : Assigns e.definitions definitions) (hbuiltins : Assigns e.builtins builtins) :
    e.environment read = .ok (.ofVariables (base.insertAll definitions)
      ((Bindings.ofList e.derived).insertAll builtins)) := by
  rw [environment, builtinBindings_eq hbuiltins, buildGlobals_eq hbuild,
    mapM_assignment hdefinitions]
  refine congrArg Except.ok ?_
  have hglobals : ∀ b : Bindings String, Bindings.empty.insertAll b.entries = b :=
    Bindings.ofList_entries
  simp only [Environment.ofVariables, Environment.ofBuiltins_eq, Environment.extendGlobals_eq,
    hglobals]

theorem run_eq [Pattern.Engine] [Yaml.Loader] (htemplate : e.Gives read text)
    (hbuild : e.GivesGlobals read base)
    (hdefinitions : Assigns e.definitions definitions) (hbuiltins : Assigns e.builtins builtins) :
    ∃ f : TemplateError → Failure, e.run read = (e.expanded text (base.insertAll definitions)
      ((Bindings.ofList e.derived).insertAll builtins)).mapError f := by
  obtain ⟨f, hload⟩ := load_eq htemplate
  have henv := environment_eq hbuild hdefinitions hbuiltins
  unfold run expanded expandSafe expand
  rw [hload, henv]
  cases hcompile : Template.compile text with
  | error err =>
    refine ⟨f, ?_⟩
    cases e.safe <;> rfl
  | ok t =>
    refine ⟨.template, ?_⟩
    cases e.safe <;> rfl

/-- A given built-in is seen before one of the path, that before a definition, and that before a
global of the build file; of several assignments to one name the last counts. -/
theorem get?_ofVariables (name : String) :
    (Environment.ofVariables (base.insertAll definitions)
      ((Bindings.ofList e.derived).insertAll builtins)).get? name =
      (builtins.reverse.lookup name).or ((e.derived.reverse.lookup name).or
        ((definitions.reverse.lookup name).or (base.get? name))) := by
  have hofList : ∀ (b : Bindings String), Bindings.empty.insertAll b.entries = b :=
    Bindings.ofList_entries
  rw [Environment.ofVariables, Environment.ofBuiltins_eq, Environment.extendGlobals_eq,
    Environment.get?, Bindings.ofList_entries, hofList]
  simp only [Bindings.get?_insertAll, Bindings.ofList, Bindings.get?_empty, Option.or_none,
    Option.none_or, Option.or_assoc]

end Expansion

/-! ## The command -/

/-- **The command line expands as the library does.** The outcome of an expansion is read off what
the library returns for the template, the globals of the build file updated with the definitions,
and the built-ins of the path updated with the given ones. For every name a given built-in counts
before one of the path, that before a definition, and that before the build file. Definitions and
built-ins are taken in their own order, and arguments that interleave them differently print the
same and end with the same code. -/
theorem run_expand [Pattern.Engine] [Yaml.Loader] [Manual] {read : ReadFile}
    {arguments : List String} {e : Expansion} {text : String} {base : Bindings String}
    {definitions builtins : List (String × String)}
    (hcommand : Command.ofArguments? false arguments = some (.expand e))
    (htemplate : e.Gives read text) (hbuild : e.GivesGlobals read base)
    (hdefinitions : Assigns e.definitions definitions) (hbuiltins : Assigns e.builtins builtins) :
    let B := (Bindings.ofList e.derived).insertAll builtins
    let G := base.insertAll definitions
    let printed := run read arguments
    (∀ out, e.expanded text G B = .ok out → printed.code = 0 ∧ printed.output = out ++ "\n") ∧
    (∀ err, e.expanded text G B = .error err → printed.code = 1 ∧ printed.output = "") ∧
    (∀ name, (Environment.ofVariables G B).get? name =
      (builtins.reverse.lookup name).or ((e.derived.reverse.lookup name).or
        ((definitions.reverse.lookup name).or (base.get? name)))) ∧
    ∃ before rest items, arguments = before ++ "expand" :: rest ∧
      Spells expandForms none rest items ∧ e.definitions = Item.values "define" items ∧
      e.builtins = Item.values "builtin" items ∧
      ∀ rest' items', Spells expandForms none rest' items' → Item.Interleaved items items' →
        let printed' := run read (before ++ "expand" :: rest')
        printed'.code = printed.code ∧ printed'.output = printed.output := by
  intro B G printed
  have hrun : printed = Outcome.ofResult ((e.run read).map (· ++ "\n")) := by
    show run read arguments = _
    rw [run, hcommand]
    rfl
  obtain ⟨f, hresult⟩ := Expansion.run_eq htemplate hbuild hdefinitions hbuiltins
  refine ⟨fun out hout => ?_, fun err herr => ?_, fun name => e.get?_ofVariables name, ?_⟩
  · rw [hrun, hresult, hout]
    exact ⟨rfl, rfl⟩
  · rw [hrun, hresult, herr]
    exact ⟨rfl, rfl⟩
  · obtain ⟨items, hinvokes, rfl⟩ := Command.ofArguments?_eq_expand_iff.1 hcommand
    obtain ⟨before, hbefore, rest, rfl, hspelled⟩ := hinvokes.spelled
    refine ⟨before, rest, items, rfl, hspelled, rfl, rfl, fun rest' items' hspelled' hinter => ?_⟩
    have hsame : Expansion.ofItems items' = Expansion.ofItems items :=
      Expansion.ofItems_interleaved (hspelled.within (by simp)) hinvokes.admitted hinvokes.others
        hinter
    have hlength : (Item.others items').length ≤ 1 :=
      (hinter.perm.filterMap Item.other?).length_eq ▸ hinvokes.others
    have hcommand' : Command.ofArguments? false (before ++ "expand" :: rest') =
        some (.expand (.ofItems items)) :=
      Command.ofArguments?_eq_expand_iff.2 ⟨items', ⟨⟨before, hbefore, rest', rfl, hspelled'⟩,
        hinvokes.admitted.perm hinter.perm, hlength⟩, hsame.symm⟩
    have hsame : run read (before ++ "expand" :: rest') = printed := by
      show run read (before ++ "expand" :: rest') = run read (before ++ "expand" :: rest)
      rw [run, run, hcommand', hcommand]
      rfl
    rw [hsame]
    exact ⟨rfl, rfl⟩

/-- A name has its value from each of the four places, and two names have the later of two. -/
theorem run_expand_four_places :
    ∃ (read : ReadFile) (e : Expansion),
      Command.ofArguments? false ["-v", "expand", "-B", "a=7", "-Da=2", "--source=d/e.py",
        "--define", "b=3", "$a $basename $b $c", "--vars", "build.yaml", "-B=a=8",
        "--define=b=4=5", "-D", "basename=6"] = some (.expand e) ∧
      e.definitions = ["a=2", "b=3", "b=4=5", "basename=6"] ∧ e.builtins = ["a=7", "a=8"] ∧
      let printed := run read ["-v", "expand", "-B", "a=7", "-Da=2", "--source=d/e.py", "--define",
        "b=3", "$a $basename $b $c", "--vars", "build.yaml", "-B=a=8", "--define=b=4=5", "-D",
        "basename=6"]
      printed.code = 0 ∧ printed.output = "8 e 4=5 1\n" := by
  let arguments := ["-v", "expand", "-B", "a=7", "-Da=2", "--source=d/e.py", "--define", "b=3",
    "$a $basename $b $c", "--vars", "build.yaml", "-B=a=8", "--define=b=4=5", "-D", "basename=6"]
  let e : Expansion := ⟨some "$a $basename $b $c", none, some "build.yaml",
    ["a=2", "b=3", "b=4=5", "basename=6"], ["a=7", "a=8"], some "d/e.py", false⟩
  let read : ReadFile := fun _ => .ok "variables:\n  a: 0\n  b: 0\n  c: 1\n"
  let base : Bindings String := .ofList [("a", "0"), ("b", "0"), ("c", "1")]
  let definitions := [("a", "2"), ("b", "3"), ("b", "4=5"), ("basename", "6")]
  let builtins := [("a", "7"), ("a", "8")]
  have hcommand : Command.ofArguments? false arguments = some (.expand e) := by decide +kernel
  have hbuild : e.GivesGlobals read base := by
    have hentries : (readBuild read "build.yaml").map (·.globals.entries) =
        .ok [("a", "0"), ("b", "0"), ("c", "1")] := by decide +kernel
    cases hload : readBuild read "build.yaml" with
    | error err =>
      rw [hload] at hentries
      cases hentries
    | ok b =>
      rw [hload] at hentries
      have hglobals : base = b.globals := by
        rw [← Bindings.ofList_entries b.globals, show b.globals.entries = _ from
          Except.ok.inj hentries]
      exact .inr ⟨_, b, rfl, hload, hglobals⟩
  have hdefinitions : Assigns e.definitions definitions := by simp [Assigns, e, definitions]; decide
  have hbuiltins : Assigns e.builtins builtins := by simp [Assigns, e, builtins]; decide
  have hresult : e.expanded "$a $basename $b $c" (base.insertAll definitions)
      ((Bindings.ofList e.derived).insertAll builtins) = .ok "8 e 4=5 1" := by decide +kernel
  obtain ⟨hok, -⟩ := run_expand hcommand (.inl ⟨rfl, rfl⟩) hbuild hdefinitions hbuiltins
  exact ⟨read, e, hcommand, rfl, rfl, hok _ hresult⟩

end Stencil.CommandLine
