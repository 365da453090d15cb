import Mathlib.Control.Monad.Writer
import Stencil.Proofs.Environment.Distinct
import Stencil.Proofs.Template.Expansion

/-!
# The names that an expansion meets

`expandTraced` expands nodes and writes down the names that it looks up. It takes the empty text for
a name without a value, so the trace depends on the values of names alone. The strict and the
lenient expansion follow the same trace, and all that they give is read off it: `expandLenient_eq`
and `expandStrict_eq`. From this the main statement, `strict_and_lenient_agree`.
-/

namespace Stencil

/-! ## The trace -/

/-- Looks a name up and writes it down. -/
def tracedFind (env : Environment) (name : String) : Writer (List String) String :=
  WriterT.mk (pure (env.value name, [name]))

/-- The text of some nodes, and the names that were looked up for it, in order. -/
def expandTraced (env : Environment) (nodes : List Node) : String × List String :=
  Id.run (expandNodes (tracedFind env) nodes).run

namespace Environment

def lacks (env : Environment) (name : String) : Bool :=
  (env.get? name).isNone

/-- The names without a value, each at its first place. -/
def missing (env : Environment) (names : List String) : List String :=
  distinct (names.filter env.lacks)

/-- What a strict expansion makes of a result and its trace. -/
def judge {α : Type} (env : Environment) (template : String) (traced : α × List String) :
    Except TemplateError α :=
  match traced.2.find? env.lacks with
  | none => .ok traced.1
  | some name => .error (.undefinedVariable name template)

variable (env : Environment)

theorem mem_missing {names : List String} {name : String} :
    name ∈ env.missing names ↔ name ∈ names ∧ env.lacks name := by
  rw [missing, mem_distinct, List.mem_filter]

theorem missing_concat (names : List String) (name : String) :
    env.missing (names ++ [name]) =
      if env.lacks name ∧ name ∉ env.missing names then env.missing names ++ [name]
      else env.missing names := by
  by_cases hlacks : env.lacks name
  · have hfilter : (names ++ [name]).filter env.lacks = names.filter env.lacks ++ [name] := by
      simp [hlacks]
    have hmem : name ∈ names.filter env.lacks ↔ name ∈ env.missing names := by
      rw [missing, mem_distinct]
    rw [missing, hfilter, distinct_concat, if_congr hmem rfl rfl, ← missing]
    by_cases h : name ∈ env.missing names <;> simp [h, hlacks]
  · have hfilter : (names ++ [name]).filter env.lacks = names.filter env.lacks := by
      simp [hlacks]
    rw [if_neg fun h => hlacks h.1, missing, hfilter, missing]

theorem head?_missing (names : List String) :
    (env.missing names).head? = names.find? env.lacks := by
  rw [missing, head?_distinct, List.head?_filter]

end Environment

/-! ## Both expansions follow the trace -/

theorem lenient_traced (env : Environment) :
    Expansion.Related fun (α : Type) (x : StateM (List String) α) (y : Writer (List String) α) =>
      ∀ seen, x.run (env.missing seen) = (y.run.1, env.missing (seen ++ y.run.2)) where
  result := by
    intro α a seen
    show (a, env.missing seen) = (a, env.missing (seen ++ []))
    rw [List.append_nil]
  sequence := by
    intro α β x y f g hx hf seen
    show (f (x.run (env.missing seen)).1).run (x.run (env.missing seen)).2 =
      ((g y.run.1).run.1, env.missing (seen ++ (y.run.2 ++ (g y.run.1).run.2)))
    rw [hx, hf, List.append_assoc]

theorem lenientFind_traced (env : Environment) (name : String) (seen : List String) :
    (lenientFind env name).run (env.missing seen) =
      ((tracedFind env name).run.1, env.missing (seen ++ (tracedFind env name).run.2)) := by
  show lenientFind env name (env.missing seen) = (env.value name, env.missing (seen ++ [name]))
  rw [env.missing_concat, lenientFind, Environment.value, Environment.lacks]
  cases env.get? name with
  | some value => rfl
  | none =>
    by_cases hseen : name ∈ env.missing seen
    · simp [hseen]
    · simp [hseen]

/-- A lenient expansion gives the text, and the names of the trace that have no value. -/
theorem expandLenient_eq (env : Environment) (nodes : List Node) :
    expandLenient env nodes =
      ((expandTraced env nodes).1, env.missing (expandTraced env nodes).2) :=
  expandNodes_related (lenient_traced env) (fun name _ => lenientFind_traced env name) []

theorem strict_traced (env : Environment) (template : String) :
    Expansion.Related fun (α : Type) (x : Except TemplateError α) (y : Writer (List String) α) =>
      x = env.judge template y.run where
  result _ := rfl
  sequence := by
    intro α β x y f g hx hf
    have hrun : (y >>= g).run = ((g y.run.1).run.1, y.run.2 ++ (g y.run.1).run.2) := rfl
    rw [hx, hrun]
    simp only [Environment.judge, List.find?_append]
    -- the first name without a value is met in the first part, or else in the second
    cases hfind : y.run.2.find? env.lacks with
    | some name => rfl
    | none =>
      show f y.run.1 = _
      rw [hf]
      rfl

/-- A strict expansion fails at the first name of the trace that has no value. -/
theorem expandStrict_eq (env : Environment) (template : String) (nodes : List Node) :
    expandStrict env template nodes = env.judge template (expandTraced env nodes) := by
  refine expandNodes_related (strict_traced env template) fun name _ => ?_
  show strictFind env template name = env.judge template (env.value name, [name])
  rw [strictFind, Environment.judge, Environment.value, List.find?_singleton, Environment.lacks]
  cases env.get? name <;> rfl

/-! ## The rule as a switch -/

theorem evaluate_lenient (env : Environment) (template : String) (nodes : List Node) :
    evaluate env template false nodes =
      (.ok (expandLenient env nodes).1, (expandLenient env nodes).2) := by
  have hrelated : Expansion.Related fun (α : Type)
      (x : ExceptT TemplateError (StateM (List String)) α) (y : StateM (List String) α) =>
        ∀ seen, x.run.run seen = (.ok (y.run seen).1, (y.run seen).2) := by
    refine ⟨fun _ _ => rfl, fun {α β x y f g} hx hf seen => ?_⟩
    rw [ExceptT.run_bind, StateT.run_bind, hx]
    exact hf _ _
  refine expandNodes_related hrelated (fun name _ seen => ?_) []
  show contextFind env template false name seen =
    (.ok (lenientFind env name seen).1, (lenientFind env name seen).2)
  rw [contextFind, lenientFind]
  cases env.get? name <;> rfl

theorem evaluate_strict (env : Environment) (template : String) (nodes : List Node) :
    evaluate env template true nodes = (expandStrict env template nodes, []) := by
  have hrelated : Expansion.Related fun (α : Type)
      (x : ExceptT TemplateError (StateM (List String)) α) (y : Except TemplateError α) =>
        ∀ seen, x.run.run seen = (y, seen) := by
    refine ⟨fun _ _ => rfl, fun {α β x y f g} hx hf seen => ?_⟩
    rw [ExceptT.run_bind, StateT.run_bind, hx]
    cases y with
    | error e => rfl
    | ok a => exact hf a seen
  refine expandNodes_related hrelated (fun name _ seen => ?_) []
  show contextFind env template true name seen = (strictFind env template name, seen)
  rw [contextFind, strictFind]
  cases env.get? name <;> rfl

/-! ## Names declared empty -/

namespace Environment

theorem value_declareGlobal {env : Environment} {name : String} (h : env.value name = "") :
    (env.declareGlobal name "").value = env.value := by
  funext k
  rw [value, value, get?_declareGlobal]
  by_cases hk : k = name
  · subst hk
    rw [value, get?] at h
    rw [if_pos rfl, get?]
    cases hb : env.builtins.get? k with
    | some v => rfl
    | none =>
      cases hl : env.locals.get? k with
      | some v => rfl
      | none => simpa [hb, hl] using h.symm
  · rw [if_neg hk]
    rfl

theorem lacks_declareGlobal (env : Environment) (name value k : String) :
    (env.declareGlobal name value).lacks k = (env.lacks k && k != name) := by
  rw [lacks, lacks, get?_declareGlobal, get?]
  by_cases hk : k = name
  · simp [hk]
  · simp [hk]

/-- Declaring names empty that are read as empty changes no value. -/
theorem extendGlobals_empty {env : Environment} {names : List String}
    (h : ∀ name ∈ names, env.value name = "") :
    (env.extendGlobals (names.map fun name => (name, ""))).value = env.value ∧
      ∀ k, (env.extendGlobals (names.map fun name => (name, ""))).lacks k =
        (env.lacks k && !names.contains k) := by
  induction names generalizing env with
  | nil => exact ⟨rfl, fun k => by simp [extendGlobals]⟩
  | cons name names ih =>
    have hvalue := value_declareGlobal (h name List.mem_cons_self)
    obtain ⟨hvalues, hlacks⟩ := @ih (env.declareGlobal name "") fun k hk => by
      rw [hvalue]
      exact h k (List.mem_cons_of_mem name hk)
    refine ⟨hvalues.trans hvalue, fun k => (hlacks k).trans ?_⟩
    rw [lacks_declareGlobal, List.contains_cons, Bool.not_or, Bool.and_assoc]
    rfl

end Environment

/-! ## Strict and lenient -/

/-- **Strict and lenient expansion agree.** The lenient one always succeeds, and remembers distinct
names without a value. The strict one succeeds when there are none, with the same text, and fails at
the first of them otherwise. With all of them declared empty it gives the lenient text. -/
theorem strict_and_lenient_agree (t : Template) (env : Environment) :
    evaluate env t.source false t.nodes = (.ok (t.safeSubstitute env), t.undefined env) ∧
      evaluate env t.source true t.nodes = (t.substitute env, []) ∧
      (t.undefined env).Nodup ∧ (∀ name ∈ t.undefined env, env.get? name = none) ∧
      (∀ s, t.substitute env = .ok s ↔ t.undefined env = [] ∧ s = t.safeSubstitute env) ∧
      (∀ name rest, t.undefined env = name :: rest →
        t.substitute env = .error (.undefinedVariable name t.source)) ∧
      t.substitute (env.extendGlobals ((t.undefined env).map fun name => (name, ""))) =
        .ok (t.safeSubstitute env) := by
  have hsafe : t.safeSubstitute env = (expandTraced env t.nodes).1 := by
    rw [Template.safeSubstitute, expandLenient_eq]
  have hundefined : t.undefined env = env.missing (expandTraced env t.nodes).2 := by
    rw [Template.undefined, expandLenient_eq]
  have hfirst : (t.undefined env).head? = (expandTraced env t.nodes).2.find? env.lacks := by
    rw [hundefined, env.head?_missing]
  have hstrict : t.substitute env = env.judge t.source (expandTraced env t.nodes) :=
    expandStrict_eq env t.source t.nodes
  have hlacks : ∀ name ∈ t.undefined env, env.get? name = none := by
    intro name hname
    rw [hundefined, env.mem_missing] at hname
    exact Option.isNone_iff_eq_none.1 hname.2
  refine ⟨evaluate_lenient env t.source t.nodes, evaluate_strict env t.source t.nodes, ?_, hlacks,
    fun s => ?_, fun name rest hrest => ?_, ?_⟩
  · rw [hundefined]
    exact Environment.nodup_distinct _
  · rw [hstrict, Environment.judge, ← hfirst, hsafe]
    cases t.undefined env with
    | nil => simp [eq_comm]
    | cons name rest => simp
  · rw [hstrict, Environment.judge, ← hfirst, hrest]
    rfl
  · -- declaring the names keeps the trace, and every name of it has a value then
    have hempty : ∀ name ∈ t.undefined env, env.value name = "" := by
      intro name hname
      rw [Environment.value, hlacks name hname]
      rfl
    obtain ⟨hvalue, hdeclared⟩ := Environment.extendGlobals_empty hempty
    have htrace : expandTraced (env.extendGlobals ((t.undefined env).map fun name => (name, "")))
        t.nodes = expandTraced env t.nodes := by
      unfold expandTraced tracedFind
      rw [hvalue]
    rw [hsafe, Template.substitute, expandStrict_eq, htrace, Environment.judge,
      List.find?_eq_none.2]
    intro name hname hlack
    rw [hdeclared, hundefined, Bool.and_eq_true, Bool.not_eq_true', ← Bool.not_eq_true,
      List.contains_iff_mem, env.mem_missing] at hlack
    exact hlack.2 ⟨hname, hlack.1⟩

end Stencil
