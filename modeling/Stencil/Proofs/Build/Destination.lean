import Mathlib.Data.List.Basic
import Stencil.CommandLine.Run
import Stencil.Proofs.Template.Lookups
import Stencil.Standalone

/-!
# Which destinations expand

A destination fails to expand when there is an at sign in it or when it is no template, and for no
other reason (`expandDestination_eq_error_iff`): once it is compiled, its expansion up to the late
variables cannot fail (`partialSubstituteInContext_eq`). Checking a build finds the same failures
(`mem_check_iff`). The main statement is `check_agrees_with_expandDestination`.
-/

namespace Stencil

/-! ## Partial expansion in a context -/

section Context

variable (source : String) (env : Environment) (deferred : List String)

/-- What a node of a partly expanded template is written as, in the context of a lenient expansion:
a look-up could fail there, and names without a value are remembered from node to node. -/
def Node.deferInContext (n : Node) : ExceptT TemplateError (StateM (List String)) String :=
  match n with
  | .literal _ span => pure (span.slice source)
  | .variable v =>
    if deferred.contains v.name then
      pure (if v.braced then v.span.slice source else "$\x7b" ++ v.name ++ "\x7d")
    else escapeText <$> expandNodes (contextFind env source false) [n]
  | _ =>
    if n.mentionsAny deferred then pure (n.span.slice source)
    else escapeText <$> expandNodes (contextFind env source false) [n]

def deferNodesInContext : List Node → ExceptT TemplateError (StateM (List String)) String
  | [] => pure ""
  | n :: ns => do
    let text ← n.deferInContext source env deferred
    let later ← deferNodesInContext ns
    pure (text ++ later)

end Context

/-- The partial expansion of a template in one context, which could fail. -/
def Template.partialSubstituteInContext (t : Template) (env : Environment)
    (deferred : List String) : Except TemplateError String :=
  ((deferNodesInContext t.source env deferred t.nodes).run.run []).1

/-- A computation in a context has a result, whatever names are remembered. -/
def Gives {α : Type} (x : ExceptT TemplateError (StateM (List String)) α) (a : α) : Prop :=
  ∀ seen, (x.run.run seen).1 = .ok a

namespace Gives

variable {α β : Type}

theorem result (a : α) : Gives (pure a) a :=
  fun _ => rfl

theorem sequence {x : ExceptT TemplateError (StateM (List String)) α}
    {f : α → ExceptT TemplateError (StateM (List String)) β} {a : α} {b : β}
    (hx : Gives x a) (hf : Gives (f a) b) : Gives (x >>= f) b := by
  intro seen
  rw [ExceptT.run_bind, StateT.run_bind]
  have ha := hx seen
  cases hrun : x.run.run seen with
  | mk outcome seen' =>
    rw [hrun] at ha
    subst ha
    exact hf seen'

end Gives

section Context

variable {source : String} {env : Environment} {deferred : List String}

/-- A look-up of the lenient rule does not fail, and so no expansion does. -/
theorem expandNodes_gives (nodes : List Node) :
    Gives (expandNodes (contextFind env source false) nodes) (expandLenient env nodes).1 := by
  have hrelated : Expansion.Related fun (α : Type)
      (x : ExceptT TemplateError (StateM (List String)) α) (y : Id α) => Gives x y.run :=
    ⟨fun a => Gives.result a, fun hx hf => Gives.sequence hx (hf _)⟩
  have hfind : ∀ name, Gives (contextFind env source false name) (env.value name) := by
    intro name seen
    show (contextFind env source false name seen).1 = .ok (env.value name)
    rw [contextFind, Environment.value]
    cases env.get? name <;> rfl
  rw [expandLenient_fst, ← expandNodes_value]
  exact expandNodes_related hrelated fun name _ => hfind name

theorem Node.deferInContext_gives (n : Node) :
    Gives (n.deferInContext source env deferred) (n.defer source env deferred) := by
  have hexpand : Gives (escapeText <$> expandNodes (contextFind env source false) [n])
      (escapeText (expandLenient env [n]).1) :=
    (expandNodes_gives [n]).sequence (.result _)
  unfold deferInContext defer
  cases n with
  | literal text span => exact .result _
  | «variable» v =>
    simp only
    split_ifs
    · exact .result _
    · exact .result _
    · exact hexpand
  | ternary x =>
    simp only
    split_ifs
    · exact .result _
    · exact hexpand
  | edit x =>
    simp only
    split_ifs
    · exact .result _
    · exact hexpand

theorem deferNodesInContext_gives (nodes : List Node) :
    Gives (deferNodesInContext source env deferred nodes)
      (String.join (nodes.map (Node.defer source env deferred))) := by
  induction nodes with
  | nil => exact .result ""
  | cons n nodes ih =>
    rw [List.map_cons, String.join_cons]
    exact n.deferInContext_gives.sequence (ih.sequence (.result _))

/-- **A partial expansion cannot fail.** -/
theorem Template.partialSubstituteInContext_eq (t : Template) :
    t.partialSubstituteInContext env deferred = .ok (t.partialSubstitute env deferred) :=
  deferNodesInContext_gives t.nodes []

end Context

/-! ## Destinations that cannot be used -/

section

variable [Pattern.Engine]

/-- Why a destination cannot be used. The at sign comes first: with one in it, it does not matter
whether the destination is a template. -/
inductive DestinationFault (destination : String) : TemplateError → Prop
  | atSign : '@' ∈ destination.toList →
      DestinationFault destination (.invalidDestination destination)
  | parse {f : Fault} : '@' ∉ destination.toList →
      Template.compile destination = .error (.parse destination f) →
      DestinationFault destination (.parse destination f)

theorem Template.exists_of_compile_eq_error {source : String} {e : TemplateError}
    (h : compile source = .error e) : ∃ f, e = .parse source f := by
  unfold compile at h
  split at h
  · cases h
  · exact ⟨_, (Except.error.inj h).symm⟩

theorem compileDestination_eq_error_iff {destination : String} {e : TemplateError} :
    compileDestination destination = .error e ↔ DestinationFault destination e := by
  unfold compileDestination validateDestination
  split_ifs with hat
  · refine ⟨fun h => ?_, fun h => ?_⟩
    · obtain rfl := Except.error.inj h
      exact .atSign hat
    · cases h with
      | atSign _ => rfl
      | parse hno _ => exact absurd hat hno
  · refine ⟨fun h => ?_, fun h => ?_⟩
    · obtain ⟨f, rfl⟩ := Template.exists_of_compile_eq_error h
      exact .parse hat h
    · cases h with
      | atSign hat' => exact absurd hat' hat
      | parse _ h => exact h

namespace Build

variable (b : Build) (builtins : Bindings String) (n : Notebook)

/-- Expanding a destination is compiling it, and then nothing can go wrong. -/
theorem expandDestination_eq :
    b.expandDestination builtins n = (compileDestination n.destination).map fun t =>
      t.partialSubstitute (b.notebookEnvironment builtins n) lateVariables := by
  unfold expandDestination compileDestination
  cases validateDestination n.destination with
  | error e => rfl
  | ok u => cases Template.compile n.destination <;> rfl

/-- Leaving aside the text that comes out, the build and the built-ins do not matter. -/
theorem map_expandDestination :
    (b.expandDestination builtins n).map (fun _ => ()) =
      (compileDestination n.destination).map fun _ => () := by
  rw [expandDestination_eq]
  cases compileDestination n.destination <;> rfl

theorem expandDestination_eq_error_iff {e : TemplateError} :
    b.expandDestination builtins n = .error e ↔ DestinationFault n.destination e := by
  rw [expandDestination_eq, ← compileDestination_eq_error_iff]
  cases compileDestination n.destination <;> simp [Except.map]

/-- A check goes through the notebooks in order and lists those whose destinations do not expand. -/
theorem check_eq_filterMap :
    b.check = b.notebooks.filterMap fun n =>
      match b.expandDestination builtins n with
      | .ok _ => none
      | .error e => some (n, e) := by
  refine List.filterMap_congr fun n _ => ?_
  rw [expandDestination_eq]
  cases compileDestination n.destination <;> rfl

theorem mem_check_iff {n : Notebook} {e : TemplateError} :
    (n, e) ∈ b.check ↔ n ∈ b.notebooks ∧ DestinationFault n.destination e := by
  rw [check, List.mem_filterMap]
  simp only [← compileDestination_eq_error_iff]
  refine ⟨fun ⟨n', hn', h⟩ => ?_, fun ⟨hn, h⟩ => ⟨n, hn, by rw [h]⟩⟩
  split at h
  · cases h
  · next hcompile =>
    cases h
    exact ⟨hn', hcompile⟩

theorem check_eq_nil_iff :
    b.check = [] ↔ ∀ n ∈ b.notebooks, ∃ text, b.expandDestination builtins n = .ok text := by
  rw [b.check_eq_filterMap builtins, List.filterMap_eq_nil_iff]
  refine forall₂_congr fun n _ => ?_
  cases b.expandDestination builtins n <;> simp

end Build

theorem CommandLine.code_checkOutcome_eq_zero_iff {b : Build} :
    (checkOutcome b).code = 0 ↔ b.check = [] := by
  unfold checkOutcome
  cases b.check with
  | nil => exact ⟨fun _ => rfl, fun _ => rfl⟩
  | cons p ps =>
    have hcode : (1 : UInt32) ≠ 0 := by decide
    exact ⟨fun h => absurd h hcode, nofun⟩

theorem CommandLine.run_check [Yaml.Loader] [Manual] {read : ReadFile} {arguments : List String}
    {path : String} {b : Build}
    (harguments : Command.ofArguments? false arguments = some (.check path))
    (hbuild : readBuild read path = .ok b) : run read arguments = checkOutcome b := by
  rw [run, harguments]
  show Command.run read arguments (.check path) = _
  rw [Command.run, hbuild]

/-- **Checking a build finds the destinations that do not expand.** A destination does not expand
exactly when there is an at sign in it or, without one, when it does not compile; whatever the
build, the built-ins and the notebook are, this depends on its text alone. A check lists the
notebooks with such destinations, in order and with the errors of expanding them, and it succeeds
when all expand. -/
theorem check_agrees_with_expandDestination [Yaml.Loader] [CommandLine.Manual] (b : Build)
    (builtins : Bindings String) :
    (∀ n e, b.expandDestination builtins n = .error e ↔ DestinationFault n.destination e) ∧
    (∀ (b' : Build) builtins' n n', n.destination = n'.destination →
      (b.expandDestination builtins n).map (fun _ => ()) =
        (b'.expandDestination builtins' n').map fun _ => ()) ∧
    (∀ (t : Template) env deferred,
      t.partialSubstituteInContext env deferred = .ok (t.partialSubstitute env deferred)) ∧
    (∀ n ∈ b.notebooks, ∀ e, b.expandDestination builtins n = .error e ↔ (n, e) ∈ b.check) ∧
    (b.check = b.notebooks.filterMap fun n =>
      match b.expandDestination builtins n with
      | .ok _ => none
      | .error e => some (n, e)) ∧
    ∀ read arguments path,
      CommandLine.Command.ofArguments? false arguments = some (.check path) →
      CommandLine.readBuild read path = .ok b →
      ((CommandLine.run read arguments).code = 0 ↔
        ∀ n ∈ b.notebooks, ∃ text, b.expandDestination builtins n = .ok text) := by
  refine ⟨fun n _ => b.expandDestination_eq_error_iff builtins n, fun b' builtins' n n' h => ?_,
    fun t _ _ => t.partialSubstituteInContext_eq, fun n hn e => ?_, b.check_eq_filterMap builtins,
    fun read arguments path harguments hbuild => ?_⟩
  · rw [Build.map_expandDestination, Build.map_expandDestination, h]
  · rw [Build.expandDestination_eq_error_iff, Build.mem_check_iff, and_iff_right hn]
  · rw [CommandLine.run_check harguments hbuild]
    exact CommandLine.code_checkOutcome_eq_zero_iff.trans (b.check_eq_nil_iff builtins)

end

/-- A value with an at sign is put in. A destination that does not compile is listed although its
notebook is skipped, and one with an at sign is refused for it although it does not compile. -/
theorem check_agrees_with_expandDestination_skipped :
    ∃ read b, CommandLine.readBuild read "build.yaml" = .ok b ∧
      b.notebooks.map (fun n => (n.destination, n.skip)) =
        [("$x", false), ("$\x7bx", true), ("$\x7b@", false)] ∧
      b.notebooks.map (b.expandDestination .empty) =
        [.ok "p@q", .error (.parse "$\x7bx" ⟨0, .unterminated⟩),
          .error (.invalidDestination "$\x7b@")] ∧
      b.check.map Prod.snd = [.parse "$\x7bx" ⟨0, .unterminated⟩, .invalidDestination "$\x7b@"] ∧
      (CommandLine.run read ["check", "build.yaml"]).code ≠ 0 := by
  let text := "variables:\n  x: p@q\nnotebooks:\n- src: a\n  dest: $x\n" ++
    "- src: b\n  dest: $\x7bx\n  skip: true\n- src: c\n  dest: $\x7b@\n"
  have hload : (Build.ofText text).map (fun b =>
      (b.notebooks.map fun n => (n.destination, n.skip),
        b.notebooks.map (b.expandDestination .empty))) =
      .ok ([("$x", false), ("$\x7bx", true), ("$\x7b@", false)],
        [.ok "p@q", .error (.parse "$\x7bx" ⟨0, .unterminated⟩),
          .error (.invalidDestination "$\x7b@")]) := by decide +kernel
  cases hbuild : Build.ofText text with
  | error e =>
    rw [hbuild] at hload
    cases hload
  | ok b =>
    rw [hbuild] at hload
    obtain ⟨hnotebooks, hexpand⟩ := Prod.mk.inj (Except.ok.inj hload)
    obtain ⟨-, -, -, -, hcheck, hcode⟩ := check_agrees_with_expandDestination b .empty
    have hread : CommandLine.readBuild (fun _ => .ok text) "build.yaml" = .ok b := hbuild
    have harguments : CommandLine.Command.ofArguments? false ["check", "build.yaml"] =
        some (.check "build.yaml") := by decide +kernel
    refine ⟨_, b, hread, hnotebooks, hexpand, ?_, fun h => ?_⟩
    · have herrors : b.check.map Prod.snd = (b.notebooks.map (b.expandDestination .empty)).filterMap
          fun | .ok _ => none | .error e => some e := by
        rw [hcheck, List.map_filterMap, List.filterMap_map]
        refine List.filterMap_congr fun n _ => ?_
        rw [Function.comp_apply]
        cases b.expandDestination .empty n <;> rfl
      rw [herrors, hexpand]
      rfl
    · have herror : .error (.invalidDestination "$\x7b@") ∈
          b.notebooks.map (b.expandDestination .empty) := by
        rw [hexpand]
        exact List.mem_of_getElem? (i := 2) rfl
      obtain ⟨n, hn, hfails⟩ := List.mem_map.1 herror
      obtain ⟨text, htext⟩ := (hcode _ _ _ harguments hread).1 h n hn
      rw [hfails] at htext
      cases htext

end Stencil
