import Stencil.Template.Expansion

/-!
# Ways to look names up

Expansion is written for any way of looking up. `Expansion.Related` says when a relation between two
kinds of computations passes through it, and `expandNodes_related` that it does when it holds of
every name that is mentioned. Its instances relate the two look-ups to `Node.value`, expansion
without a state and without errors: `expandLenient_fst` and `Node.value_of_strict`.
-/

namespace Stencil

/-! ## Relations between expansions -/

/-- A relation between two kinds of computations that results and sequences keep. -/
structure Expansion.Related {m n : Type → Type} [Monad m] [Monad n]
    (R : ∀ α : Type, m α → n α → Prop) : Prop where
  result : ∀ {α : Type} (a : α), R α (pure a) (pure a)
  sequence : ∀ {α β : Type} {x : m α} {y : n α} {f : α → m β} {g : α → n β}, R α x y →
    (∀ a, R β (f a) (g a)) → R β (x >>= f) (y >>= g)

theorem Expansion.related_eq {m : Type → Type} [Monad m] :
    Expansion.Related fun (α : Type) (x y : m α) => x = y where
  result _ := rfl
  sequence := by
    intro α β x y f g hx hf
    rw [hx, funext hf]

section Related

variable {m n : Type → Type} [Monad m] [Monad n] {R : ∀ α : Type, m α → n α → Prop}
  (hR : Expansion.Related R) {find : String → m String} {find' : String → n String}

include hR

theorem VariableRef.expand_related {v : VariableRef} (h : R _ (find v.name) (find' v.name)) :
    R _ (v.expand find) (v.expand find') := by
  refine hR.sequence h fun value => ?_
  cases v.subscript with
  | none => exact hR.result value
  | some s => exact hR.result (s.apply value)

theorem Quoted.expand_related {q : Quoted} (h : ∀ name ∈ q.names, R _ (find name) (find' name)) :
    R _ (q.expand find) (q.expand find') := by
  obtain ⟨segments, span⟩ := q
  show R _ (expandSegments find segments) (expandSegments find' segments)
  induction segments with
  | nil => exact hR.result ""
  | cons x segments ih =>
    cases x with
    | text s => exact hR.sequence (ih h) fun later => hR.result (s ++ later)
    | token v =>
      have hv : R _ (find v.name) (find' v.name) := h v.name (by simp [Quoted.names])
      have hrest := ih fun name hname => h name (by
        simp only [Quoted.names, List.filterMap_cons] at hname ⊢
        exact List.mem_cons_of_mem _ hname)
      exact hR.sequence (v.expand_related hR hv) fun value =>
        hR.sequence hrest fun later => hR.result (value ++ later)

theorem expandFillers_related {parts : List (Chunk Filler)}
    (h : ∀ name ∈ Filler.names parts, R _ (find name) (find' name)) :
    R _ (expandFillers find parts) (expandFillers find' parts) := by
  induction parts with
  | nil => exact hR.result []
  | cons x parts ih =>
    rcases x with s | g | v
    · exact hR.sequence (ih h) fun later => hR.result (.text s :: later)
    · exact hR.sequence (ih h) fun later => hR.result (.group g :: later)
    · have hv : R _ (find v.name) (find' v.name) := h v.name (by simp [Filler.names])
      have hrest := ih fun name hname => h name (by
        simp only [Filler.names, List.filterMap_cons] at hname ⊢
        exact List.mem_cons_of_mem _ hname)
      exact hR.sequence (v.expand_related hR hv) fun value =>
        hR.sequence hrest fun later => hR.result (.text value :: later)

theorem Node.expand_related {node : Node} (h : ∀ name ∈ node.names, R _ (find name) (find' name)) :
    R _ (node.expand find) (node.expand find') := by
  rcases node with ⟨text, span⟩ | v | t | e
  · exact hR.result text
  · exact v.expand_related hR (h v.name (by simp [Node.names]))
  · have hlhs := t.lhs.expand_related hR (h t.lhs.name (by simp [Node.names]))
    have hcomparand := t.comparand.expand_related hR fun name hname =>
      h name (by simp [Node.names, hname])
    have htrue := t.ifTrue.expand_related hR fun name hname => h name (by simp [Node.names, hname])
    have hfalse := t.ifFalse.expand_related hR fun name hname =>
      h name (by simp [Node.names, hname])
    refine hR.sequence hlhs fun value => hR.sequence hcomparand fun comparand => ?_
    by_cases hholds : t.comparison.holds value comparand
    · rw [if_pos hholds, if_pos hholds]
      exact htrue
    · rw [if_neg hholds, if_neg hholds]
      exact hfalse
  · have hsubject := e.subject.expand_related hR (h e.subject.name (by simp [Node.names]))
    have hnames : ∀ name ∈ Filler.names e.replacement, R _ (find name) (find' name) :=
      fun name hname => h name (by simp [Node.names, hname])
    have hparts := expandFillers_related hR hnames
    exact hR.sequence hsubject fun subject =>
      hR.sequence hparts fun parts => hR.result (e.apply subject parts)

/-- What relates the look-ups of the names that are mentioned relates the expansions. -/
theorem expandNodes_related {nodes : List Node}
    (h : ∀ name ∈ nodes.flatMap Node.names, R _ (find name) (find' name)) :
    R _ (expandNodes find nodes) (expandNodes find' nodes) := by
  induction nodes with
  | nil => exact hR.result ""
  | cons node nodes ih =>
    have hnode := node.expand_related hR fun name hname =>
      h name (by simp [List.flatMap_cons, hname])
    have hrest := ih fun name hname => h name (by
      rw [List.flatMap_cons]
      exact List.mem_append_right _ hname)
    exact hR.sequence hnode fun text => hR.sequence hrest fun later => hR.result (text ++ later)

end Related

/-! ## The two look-ups -/

/-- The value of a name, empty when it has none. -/
def Environment.value (env : Environment) (name : String) : String :=
  (env.get? name).getD ""

/-- The text of a node, with the empty text for names without a value. -/
def Node.value (env : Environment) (n : Node) : String :=
  Id.run (n.expand fun name => pure (env.value name))

theorem expandNodes_value (env : Environment) (nodes : List Node) :
    Id.run (expandNodes (fun name => pure (env.value name)) nodes) =
      String.join (nodes.map (Node.value env)) := by
  induction nodes with
  | nil => rfl
  | cons n nodes ih =>
    rw [List.map_cons, String.join_cons, ← ih]
    rfl

/-- The names seen so far do not matter to the text. -/
theorem lenient_related :
    Expansion.Related fun (α : Type) (x : StateM (List String) α) (y : Id α) =>
      ∀ seen, (x.run seen).1 = y.run where
  result _ _ := rfl
  sequence := by
    intro α β x y f g hx hf seen
    show ((f (x.run seen).1).run (x.run seen).2).1 = (g y.run).run
    rw [hx, hf]

/-- A lenient expansion is the values of the nodes, one after the other. -/
theorem expandLenient_fst (env : Environment) (nodes : List Node) :
    (expandLenient env nodes).1 = String.join (nodes.map (Node.value env)) := by
  rw [← expandNodes_value]
  refine expandNodes_related lenient_related (fun name _ seen => ?_) []
  unfold lenientFind Environment.value
  cases env.get? name <;> rfl

/-- The value of a node depends on the names that it mentions. -/
theorem Node.value_congr {E L : Environment} {n : Node}
    (h : ∀ name ∈ n.names, L.get? name = E.get? name) : n.value L = n.value E := by
  refine congrArg Id.run (n.expand_related Expansion.related_eq fun name hname => ?_)
  unfold Environment.value
  rw [h name hname]

theorem strict_related :
    Expansion.Related fun (α : Type) (x : Except TemplateError α) (y : Id α) =>
      ∀ a, x = .ok a → y.run = a where
  result := by
    intro α a b h
    exact Except.ok.inj h
  sequence := by
    intro α β x y f g hx hf b h
    cases x with
    | error e => cases h
    | ok a =>
      obtain rfl := hx a rfl
      exact hf _ b h

theorem strictFind_eq_ok_iff {env : Environment} {template name value : String} :
    strictFind env template name = .ok value ↔ env.get? name = some value := by
  unfold strictFind
  cases env.get? name <;> simp

/-- What a strict expansion gives is the value. -/
theorem Node.value_of_strict {env : Environment} {template : String} {n : Node} {s : String}
    (h : n.expand (strictFind env template) = .ok s) : n.value env = s := by
  refine n.expand_related strict_related (fun name _ value hvalue => ?_) s h
  show env.value name = value
  rw [Environment.value, strictFind_eq_ok_iff.1 hvalue, Option.getD_some]

/-- The same success. -/
theorem success_related :
    Expansion.Related fun (α : Type) (x y : Except TemplateError α) =>
      ∀ a, x = .ok a → y = .ok a where
  result _ _ h := h
  sequence := by
    intro α β x y f g hx hf b h
    cases x with
    | error e => cases h
    | ok a =>
      rw [hx a rfl]
      exact hf a b h

end Stencil
