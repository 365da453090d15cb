import Mathlib.Data.List.Basic
import Stencil.Build.Destination

/-!
# The layers behind a notebook

The variables that a notebook's templates see come from five places, and are kept in the three
layers of an environment: what the notebook's path says is written over the given built-ins, and the
notebook's own variables are written over the defaults. So a look-up asks the five places in one
order, `Build.layers`. The main statement is `notebookEnvironment_follows_layers`.
-/

namespace Stencil

theorem Bindings.isSome_get?_ofList {α : Type} {pairs : List (String × α)} {name : String} :
    ((ofList pairs).get? name).isSome ↔ name ∈ pairs.map Prod.fst := by
  rw [ofList, get?_insertAll, get?_empty, Option.or_none, List.lookup_isSome_iff, List.mem_map]
  refine exists_congr fun p => ?_
  rw [List.mem_reverse, beq_iff_eq, eq_comm]

/-- The names that a path gives values to. -/
def SourcePath.names (path : String) : List String :=
  if isAbsolute path then ["basename", "extension", "filename", "lang"]
  else ["basename", "extension", "filename", "source_path_no_ext", "lang"]

theorem SourcePath.map_fst_builtins (path : String) :
    (builtins path true).map Prod.fst = names path := by
  unfold builtins names
  cases isAbsolute path <;> rfl

namespace Build

/-- The places that give values to the names in a notebook's templates, those that are asked first
in front: the path, the given built-ins, the notebook, the defaults, the build. -/
def layers (b : Build) (builtins : Bindings String) (n : Notebook) : List (Bindings String) :=
  [.ofList (SourcePath.builtins n.source true), builtins, n.locals, b.defaults.locals, b.globals]

variable (b : Build) (builtins : Bindings String) (n : Notebook)

/-- The three layers of a notebook's environment. -/
theorem notebookEnvironment_eq :
    b.notebookEnvironment builtins n =
      ⟨builtins.insertAll (SourcePath.builtins n.source true), b.globals,
        b.defaults.locals.insertAll n.locals.entries⟩ := by
  have hentries : ∀ c : Bindings String, Bindings.empty.insertAll c.entries = c :=
    Bindings.ofList_entries
  rw [notebookEnvironment, environment, Environment.ofBuiltins_eq, Bindings.ofList_entries,
    Environment.extendGlobals_eq, Environment.setBuiltins_eq, Environment.extendLocals_eq,
    Environment.extendLocals_eq]
  simp only [hentries]

/-- The five places stand behind the three layers in one order. -/
theorem get?_notebookEnvironment (name : String) :
    (b.notebookEnvironment builtins n).get? name =
      (b.layers builtins n).findSome? (·.get? name) := by
  have hcons : ∀ (c : Bindings String) (cs : List (Bindings String)),
      (c :: cs).findSome? (·.get? name) = (c.get? name).or (cs.findSome? (·.get? name)) :=
    fun c cs => by
      rw [List.findSome?_cons]
      cases c.get? name <;> rfl
  rw [notebookEnvironment_eq, Environment.get?, Bindings.get?_insertAll_eq_or,
    Bindings.get?_insertAll_eq_or, Bindings.ofList_entries, Option.or_assoc, Option.or_assoc]
  rw [layers, hcons, hcons, hcons, hcons, hcons, List.findSome?_nil, Option.or_none]

end Build

/-- **A notebook's variables are looked up in one order**: in what its path says, in the given
built-ins, in the notebook, in the defaults, and in the build. The path gives values to four names,
and to a fifth one unless it starts at the root. Other notebooks do not matter: the environment is
the same for a notebook with the same path and variables, in any build with the same globals and the
same default variables. -/
theorem notebookEnvironment_follows_layers (b : Build) (builtins : Bindings String)
    (n : Notebook) :
    (∀ name, (b.notebookEnvironment builtins n).get? name =
      (b.layers builtins n).findSome? (·.get? name)) ∧
    (∀ name, ((Bindings.ofList (SourcePath.builtins n.source true)).get? name).isSome ↔
      name ∈ SourcePath.names n.source) ∧
    ∀ (b' : Build) (n' : Notebook), b'.globals = b.globals →
      b'.defaults.locals = b.defaults.locals → n'.source = n.source → n'.locals = n.locals →
      b'.notebookEnvironment builtins n' = b.notebookEnvironment builtins n := by
  refine ⟨b.get?_notebookEnvironment builtins n, fun name => ?_, fun b' n' hg hd hs hl => ?_⟩
  · rw [Bindings.isSome_get?_ofList, SourcePath.map_fst_builtins]
  · rw [Build.notebookEnvironment_eq, Build.notebookEnvironment_eq, hg, hd, hs, hl]

/-- A name in all five places, and names in four of them or fewer: a path that starts at the root
leaves one of its names to the others. A second notebook is replaced by another one. -/
theorem notebookEnvironment_follows_layers_shared :
    let shared (value : String) (names : List String) : Bindings String :=
      .ofList (names.map fun name => (name, value))
    let n : Notebook := ⟨"/m/x.py", "d", shared "own" ["lang", "source_path_no_ext", "a"], false⟩
    let b : Build := ⟨shared "global" ["lang", "source_path_no_ext", "a", "b", "c"],
      ⟨none, shared "default" ["lang", "source_path_no_ext", "a", "b"]⟩,
      [n, ⟨"y.r", "d", shared "other" ["a", "b"], false⟩]⟩
    let b' : Build := { b with notebooks := [⟨"z/y.sql", "e", shared "new" ["c"], true⟩, n] }
    let builtins := shared "given" ["lang", "source_path_no_ext"]
    ["lang", "source_path_no_ext", "a", "b", "c", "d"].map (b.notebookEnvironment builtins n).get? =
        [some "Python", some "given", some "own", some "default", some "global", none] ∧
      b'.notebookEnvironment builtins n = b.notebookEnvironment builtins n := by
  intro shared n b b' builtins
  obtain ⟨hget, -, hsame⟩ := notebookEnvironment_follows_layers b builtins n
  refine ⟨?_, hsame b' n rfl rfl rfl rfl⟩
  rw [funext hget]
  decide +kernel

end Stencil
