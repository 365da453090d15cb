import Stencil.Proofs.Environment.Distinct
import Stencil.Proofs.Template.Shadowing

/-!
# Listing environments

A listing goes through the layers of an environment and leaves out the names that came before, and a
look-up asks the layers one after the other. Both see the same names (`Environment.mem_names_iff`),
so an environment that has the listing as its globals gives the same look-ups and the same listing
(`Environment.get?_flatten`, `Environment.toList_flatten`). In a layer the names stand in the order
in which they were first written (`Environment.names_layer_writeAll`). The main statement is
`listing_follows_writes`.
-/

namespace Stencil

theorem Bindings.mem_names_iff {α : Type} {b : Bindings α} {name : String} :
    name ∈ b.names ↔ (b.get? name).isSome := by
  rw [get?, List.lookup_isSome_iff, names, List.mem_map]
  refine exists_congr fun p => and_congr_right fun _ => ?_
  rw [beq_iff_eq]
  exact eq_comm

namespace Environment

variable (env : Environment)

/-! ## Names -/

/-- A layer adds its names to the listing, but for those of the layers before it. -/
theorem names_eq :
    env.names = env.builtins.names ++
      (env.locals.names.filter (fun name => name ∉ env.builtins.names) ++
        env.globals.names.filter fun name =>
          name ∉ env.builtins.names ∧ name ∉ env.locals.names) := by
  have hdistinct : ∀ b : Bindings String, distinct b.names = b.names := fun b =>
    distinct_of_nodup b.nodup_names
  rw [names, distinct_append, distinct_append, hdistinct, hdistinct, hdistinct, List.filter_append,
    List.filter_filter]
  simp only [Bool.decide_and]

theorem nodup_names : env.names.Nodup :=
  nodup_distinct _

variable {env} in
theorem mem_names_iff {name : String} : name ∈ env.names ↔ (env.get? name).isSome := by
  rw [names, mem_distinct, List.mem_append, List.mem_append, Bindings.mem_names_iff,
    Bindings.mem_names_iff, Bindings.mem_names_iff, get?, Option.isSome_or, Option.isSome_or,
    Bool.or_eq_true, Bool.or_eq_true]

/-! ## Names with their values -/

/-- Pairs that have names with what look-ups find for them. -/
def Lists (names : List String) (pairs : List (String × String)) : Prop :=
  List.Forall₂ (fun name p => p.1 = name ∧ env.get? name = some p.2) names pairs

variable {env} in
theorem lists_filterMap {names : List String} (h : ∀ name ∈ names, (env.get? name).isSome) :
    env.Lists names (names.filterMap fun n => (env.get? n).map fun v => (n, v)) := by
  induction names with
  | nil => exact .nil
  | cons name names ih =>
    obtain ⟨value, hvalue⟩ := Option.isSome_iff_exists.1 (h name List.mem_cons_self)
    rw [List.filterMap_cons, hvalue]
    exact .cons ⟨rfl, hvalue⟩ (ih fun k hk => h k (List.mem_cons_of_mem name hk))

theorem lists_toList : env.Lists env.names env.toList :=
  lists_filterMap fun _ => mem_names_iff.1

namespace Lists

variable {env} {names : List String} {pairs : List (String × String)}

theorem map_fst (h : env.Lists names pairs) : pairs.map Prod.fst = names := by
  induction h with
  | nil => rfl
  | cons hhead _ ih => rw [List.map_cons, hhead.1, ih]

theorem lookup_eq (h : env.Lists names pairs) (k : String) :
    pairs.lookup k = if k ∈ names then env.get? k else none := by
  induction h with
  | nil => rfl
  | @cons name p names pairs hhead _ ih =>
    obtain ⟨rfl, hvalue⟩ := hhead
    by_cases hk : k = p.1
    · subst hk
      rw [if_pos List.mem_cons_self, hvalue, List.lookup_cons, beq_self_eq_true]
    · have hmem : k ∈ p.1 :: names ↔ k ∈ names := by
        rw [List.mem_cons, or_iff_right hk]
      rw [List.lookup_cons, beq_eq_false_iff_ne.2 hk, ih]
      exact if_congr hmem.symm rfl rfl

end Lists

/-! ## Flattening -/

/-- An environment that has the listing of another one as its globals, and nothing else. -/
def flatten : Environment :=
  empty.extendGlobals env.toList

theorem entries_flatten : env.flatten.globals.entries = env.toList := by
  have hnodup : ((Bindings.empty.entries ++ env.toList).map Prod.fst).Nodup := by
    rw [show Bindings.empty.entries ++ env.toList = env.toList from rfl, env.lists_toList.map_fst]
    exact env.nodup_names
  rw [flatten, extendGlobals_eq]
  exact Bindings.entries_insertAll hnodup

theorem get?_flatten : env.flatten.get? = env.get? := by
  funext name
  have hlookup : env.flatten.get? name = env.toList.lookup name := by
    have hglobals : env.flatten.globals.get? name = env.toList.lookup name :=
      congrArg (List.lookup name) env.entries_flatten
    rw [get?, hglobals, flatten, extendGlobals_eq]
    rfl
  rw [hlookup, env.lists_toList.lookup_eq]
  split_ifs with hname
  · rfl
  · rw [mem_names_iff, Option.not_isSome_iff_eq_none] at hname
    exact hname.symm

theorem names_flatten : env.flatten.names = env.names := by
  have hglobals : env.flatten.globals.names = env.names := by
    rw [Bindings.names, env.entries_flatten, env.lists_toList.map_fst]
  have hnames : env.flatten.names = distinct env.flatten.globals.names := by
    rw [names, flatten, extendGlobals_eq]
    rfl
  rw [hnames, hglobals, distinct_of_nodup env.nodup_names]

theorem toList_flatten : env.flatten.toList = env.toList := by
  rw [toList, env.names_flatten, env.get?_flatten, toList]

/-! ## The order of first writes -/

/-- The names that some writes give values to in a layer, in the order of the first write to
each. -/
def declared (l : Layer) (ws : List Write) : List String :=
  ((ws.filter fun w => w.layer = l).map Write.name).eraseDups

theorem declared_concat (l : Layer) (ws : List Write) (w : Write) :
    declared l (ws ++ [w]) =
      if w.layer = l ∧ w.name ∉ declared l ws then declared l ws ++ [w.name]
      else declared l ws := by
  have hmem : w.name ∈ declared l ws ↔ w.name ∈ (ws.filter fun w => w.layer = l).map Write.name :=
    List.mem_eraseDups
  rw [declared, List.filter_append, List.map_append, List.eraseDups_append, ← declared]
  by_cases hlayer : w.layer = l
  · by_cases hname : w.name ∈ declared l ws
    · simp [hlayer, hname, List.removeAll, hmem.1 hname]
    · simp [hlayer, hname, List.removeAll, mt hmem.2 hname, List.eraseDups_cons]
  · simp [hlayer]

theorem names_layer_write (l : Layer) (w : Write) :
    ((env.write w).layer l).names =
      if w.layer = l ∧ w.name ∉ (env.layer l).names then (env.layer l).names ++ [w.name]
      else (env.layer l).names := by
  rw [layer_write]
  by_cases hl : w.layer = l
  · rw [if_pos hl, Bindings.names_insert, if_congr (and_iff_right hl) rfl rfl, ite_not]
  · rw [if_neg hl, if_neg fun h => hl h.1]

theorem names_layer_writeAll (l : Layer) (ws : List Write) :
    ((empty.writeAll ws).layer l).names = declared l ws := by
  induction ws using List.reverseRecOn with
  | nil => cases l <;> rfl
  | append_singleton ws w ih =>
    have hwrite : empty.writeAll (ws ++ [w]) = (empty.writeAll ws).write w :=
      empty.writeAll_append ws [w]
    rw [hwrite, names_layer_write, declared_concat, ih]

/-- The names that some writes make visible: those of the built-ins, of the locals that are no
built-ins, and of the globals that are neither. -/
def visibleNames (ws : List Write) : List String :=
  declared .builtins ws ++
    ((declared .locals ws).filter (fun name => name ∉ declared .builtins ws) ++
      (declared .globals ws).filter fun name =>
        name ∉ declared .builtins ws ∧ name ∉ declared .locals ws)

theorem names_writeAll (ws : List Write) : (empty.writeAll ws).names = visibleNames ws := by
  have hbuiltins : (empty.writeAll ws).builtins.names = _ := names_layer_writeAll .builtins ws
  have hlocals : (empty.writeAll ws).locals.names = _ := names_layer_writeAll .locals ws
  have hglobals : (empty.writeAll ws).globals.names = _ := names_layer_writeAll .globals ws
  rw [names_eq, hbuiltins, hlocals, hglobals, visibleNames]

end Environment

open Environment

/-- **A listing shows an environment as look-ups see it**, after every history. The names are those
that a look-up finds, each once: first the built-ins, then further locals, then further globals,
each layer in the order of the first writes. They stand with the values that are found. An
environment that has the listing as its globals gives the same look-ups, the same listing and the
same expansions. -/
theorem listing_follows_writes (actions : List Action) :
    List.Forall₂ (fun env ws =>
        env.names.Nodup ∧
        (∀ name, name ∈ env.names ↔ ∃ value, env.get? name = some value) ∧
        env.names = visibleNames ws ∧
        env.Lists env.names env.toList ∧
        env.flatten.get? = env.get? ∧
        env.flatten.toList = env.toList ∧
        (∀ template strict,
          contextFind env.flatten template strict = contextFind env template strict) ∧
        ∀ t : Template, t.SameIn env.flatten env)
      (Action.environments actions) (Action.ledger actions) := by
  refine Action.forall₂_environments (fun ws => ?_) actions
  have hget := (empty.writeAll ws).get?_flatten
  exact ⟨nodup_names _, fun name => mem_names_iff.trans Option.isSome_iff_exists,
    names_writeAll ws, lists_toList _, hget, toList_flatten _, contextFind_congr hget,
    Template.sameIn_of_get?_eq hget⟩

/-- A name that is written again keeps its place. -/
example : declared .globals [⟨.globals, "a", "1"⟩, ⟨.globals, "b", "2"⟩, ⟨.locals, "c", "3"⟩,
    ⟨.globals, "a", "4"⟩] = ["a", "b"] := by decide

end Stencil
