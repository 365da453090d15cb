import Stencil.Proofs.Environment.History
import Stencil.Proofs.Template.Dependence

/-!
# Shadowing

The layers of an environment are asked in one order, in whatever order they were written. So a user
declaration of a built-in's name is never seen, neither by a look-up nor by a template
(`Environment.get?_writeAll_of_shadowed`), and a built-in that comes later hides what was declared
before it (`Environment.get?_setBuiltin_writeAll`). The main statement is `lookup_follows_writes`.
-/

namespace Stencil

namespace Environment

variable {env : Environment}

theorem isBuiltin_iff {name : String} :
    env.isBuiltin name ↔ ∃ value, env.builtins.get? name = some value :=
  Option.isSome_iff_exists

/-- Writes to names of built-ins, in other layers than theirs, change no look-up. -/
theorem get?_writeAll_of_shadowed {ws : List Write}
    (h : ∀ w ∈ ws, w.layer ≠ .builtins ∧ env.isBuiltin w.name) :
    (env.writeAll ws).get? = env.get? := by
  funext name
  have hbuiltins : lastValue .builtins name ws = none :=
    lastValue_eq_none_iff.2 fun w hw hl => absurd hl (h w hw).1
  rw [get?_writeAll, hbuiltins, Option.none_or, get?]
  cases hname : env.builtins.get? name with
  | some value => rfl
  | none =>
    -- the name is no built-in, so none of the writes is to it
    have hother : ∀ l, lastValue l name ws = none := by
      intro l
      refine lastValue_eq_none_iff.2 fun w hw _ => ?_
      rintro rfl
      obtain ⟨value, hvalue⟩ := isBuiltin_iff.1 (h w hw).2
      rw [hvalue] at hname
      cases hname
    rw [hother, hother]
    rfl

/-- A built-in is read until it is set again. -/
theorem get?_setBuiltin_writeAll {name value : String} {ws : List Write}
    (h : ∀ w ∈ ws, w.layer = .builtins → w.name ≠ name) :
    ((env.setBuiltin name value).writeAll ws).get? name = some value := by
  have hset : (env.setBuiltin name value).builtins.get? name = some value := by
    rw [setBuiltin, Bindings.get?_insert, if_pos rfl]
  rw [get?_writeAll, lastValue_eq_none_iff.2 h, hset]
  rfl

end Environment

/-- Environments in which every look-up gives the same are the same to every template. -/
theorem Template.sameIn_of_get?_eq {E L : Environment} (h : E.get? = L.get?) (t : Template) :
    t.SameIn E L :=
  t.sameIn_of_agree fun name _ => congrFun h name

theorem contextFind_congr {E L : Environment} (h : E.get? = L.get?) (template : String)
    (strict : Bool) : contextFind E template strict = contextFind L template strict := by
  funext name seen
  rw [contextFind, h, contextFind]

/-- **A look-up finds the last write to a built-in, or else to a local, or else to a global**, after
every history. So declaring the names of built-ins again changes no look-up and no expansion, and a
built-in is found until it is set again, whatever is declared before it or after it. -/
theorem lookup_follows_writes (actions : List Action) :
    List.Forall₂ (fun env ws =>
        (∀ name, env.get? name = visible ws name) ∧
        (∀ cs : List Change,
          (∀ w ∈ cs.flatMap Change.writes, w.layer ≠ .builtins ∧ env.isBuiltin w.name) →
          (cs.foldl Change.apply env).get? = env.get? ∧
          (∀ template strict,
            contextFind (cs.foldl Change.apply env) template strict =
              contextFind env template strict) ∧
          ∀ t : Template, t.SameIn (cs.foldl Change.apply env) env) ∧
        ∀ name value (cs : List Change),
          (∀ w ∈ cs.flatMap Change.writes, w.layer = .builtins → w.name ≠ name) →
          (cs.foldl Change.apply (env.setBuiltin name value)).get? name = some value)
      (Action.environments actions) (Action.ledger actions) := by
  refine Action.forall₂_environments (fun ws => ⟨?_, fun cs hcs => ?_, fun name value cs hcs => ?_⟩)
    actions
  · exact Environment.get?_empty_writeAll ws
  · rw [Change.foldl_apply_eq]
    have hget := Environment.get?_writeAll_of_shadowed hcs
    exact ⟨hget, contextFind_congr hget, Template.sameIn_of_get?_eq hget⟩
  · rw [Change.foldl_apply_eq]
    exact Environment.get?_setBuiltin_writeAll hcs

/-- A built-in that is set after a global and a local of its name, in a copy of the environment that
the global was declared in. -/
theorem lookup_follows_writes_copy :
    ∃ original copy, Action.environments
        [.change 0 (.declareGlobal "a" "1"), .withLocals 0 [("a", "2")],
          .change 1 (.setBuiltin "a" "3")] = [original, copy] ∧
      original.get? "a" = some "1" ∧ copy.get? "a" = some "3" ∧
      ((copy.declareLocal "a" "4").declareGlobal "a" "5").get? = copy.get? ∧
      ((original.setBuiltin "a" "6").declareLocal "a" "7").get? "a" = some "6" := by
  have hfollows := lookup_follows_writes [.change 0 (.declareGlobal "a" "1"),
    .withLocals 0 [("a", "2")], .change 1 (.setBuiltin "a" "3")]
  have henvs : Action.environments [.change 0 (.declareGlobal "a" "1"),
      .withLocals 0 [("a", "2")], .change 1 (.setBuiltin "a" "3")] =
      [Environment.empty.declareGlobal "a" "1",
        ((Environment.empty.declareGlobal "a" "1").extendLocals [("a", "2")]).setBuiltin "a" "3"] :=
    rfl
  have hledger : Action.ledger [.change 0 (.declareGlobal "a" "1"), .withLocals 0 [("a", "2")],
      .change 1 (.setBuiltin "a" "3")] =
      [[⟨.globals, "a", "1"⟩],
        [⟨.globals, "a", "1"⟩, ⟨.locals, "a", "2"⟩, ⟨.builtins, "a", "3"⟩]] := rfl
  rw [henvs, hledger] at hfollows
  rcases hfollows with _ | ⟨⟨horiginal, -, hset⟩, _ | ⟨⟨hcopy, hshadow, -⟩, -⟩⟩
  refine ⟨_, _, henvs, ?_, ?_, ?_, ?_⟩
  · rw [horiginal]
    decide
  · rw [hcopy]
    decide
  · exact (hshadow [.declareLocal "a" "4", .declareGlobal "a" "5"] (by decide)).1
  · exact hset "a" "6" [.declareLocal "a" "7"] (by decide)

end Stencil
