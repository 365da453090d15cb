import Mathlib.Data.List.Forall2
import Mathlib.Data.List.Induction
import Stencil.Environment

/-!
# Histories of environments

Environments come about by actions on those there are: one is changed, or a new one is made of some
built-ins or of an older one with more locals. A `ledger` keeps, for each environment, the writes
that were made to it and to those it was copied from. The main statements are `environments_eq`,
that an environment is what its writes make of the empty one, and `get?_writeAll`, what a look-up
finds after some writes.
-/

namespace Stencil

/-! ## Writes -/

/-- The layers of an environment. -/
inductive Layer
  | builtins
  | globals
  | locals
  deriving DecidableEq, Repr

/-- A value given to a name in one layer. -/
structure Write where
  layer : Layer
  name : String
  value : String
  deriving DecidableEq, Repr

/-- The value of the last write to a name in a layer. -/
def lastValue (l : Layer) (name : String) (ws : List Write) : Option String :=
  (ws.filter fun w => w.layer = l ∧ w.name = name).getLast?.map Write.value

/-- The value that is seen after some writes: of the last one to a built-in, or else of the last one
to a local, or else of the last one to a global. -/
def visible (ws : List Write) (name : String) : Option String :=
  (lastValue .builtins name ws).or
    ((lastValue .locals name ws).or (lastValue .globals name ws))

theorem lastValue_concat (l : Layer) (name : String) (ws : List Write) (w : Write) :
    lastValue l name (ws ++ [w]) =
      if w.layer = l ∧ w.name = name then some w.value else lastValue l name ws := by
  by_cases h : w.layer = l ∧ w.name = name
  · simp [lastValue, List.filter_append, h]
  · rw [if_neg h, lastValue, List.filter_append, List.filter_cons_of_neg (by simpa using h),
      List.filter_nil, List.append_nil, lastValue]

theorem lastValue_eq_none_iff {l : Layer} {name : String} {ws : List Write} :
    lastValue l name ws = none ↔ ∀ w ∈ ws, w.layer = l → w.name ≠ name := by
  simp [lastValue]

namespace Environment

variable (env : Environment)

/-- The bindings of a layer. -/
def layer : Layer → Bindings String
  | .builtins => env.builtins
  | .globals => env.globals
  | .locals => env.locals

/-- The environment after a write. -/
def write (w : Write) : Environment :=
  match w.layer with
  | .builtins => env.setBuiltin w.name w.value
  | .globals => env.declareGlobal w.name w.value
  | .locals => env.declareLocal w.name w.value

def writeAll (ws : List Write) : Environment :=
  ws.foldl write env

theorem writeAll_append (ws ws' : List Write) :
    env.writeAll (ws ++ ws') = (env.writeAll ws).writeAll ws' :=
  List.foldl_append

theorem writeAll_map (l : Layer) (pairs : List (String × String)) :
    env.writeAll (pairs.map fun p => ⟨l, p.1, p.2⟩) =
      pairs.foldl (fun env p => env.write ⟨l, p.1, p.2⟩) env :=
  List.foldl_map

/-- A write changes the bindings of its own layer, and of no other. -/
theorem layer_write (l : Layer) (w : Write) :
    (env.write w).layer l =
      if w.layer = l then (env.layer l).insert w.name w.value else env.layer l := by
  obtain ⟨l', name, value⟩ := w
  cases l' <;> cases l <;> rfl

theorem get?_layer_write (l : Layer) (w : Write) (name : String) :
    ((env.write w).layer l).get? name =
      if w.layer = l ∧ w.name = name then some w.value else (env.layer l).get? name := by
  rw [layer_write]
  by_cases hl : w.layer = l
  · rw [if_pos hl, Bindings.get?_insert, if_congr (and_iff_right hl) rfl rfl]
    exact if_congr eq_comm rfl rfl
  · rw [if_neg hl, if_neg fun h => hl h.1]

/-- Of some writes the last one to a name in a layer is read there. -/
theorem get?_layer_writeAll (l : Layer) (ws : List Write) (name : String) :
    ((env.writeAll ws).layer l).get? name =
      (lastValue l name ws).or ((env.layer l).get? name) := by
  induction ws using List.reverseRecOn with
  | nil => rfl
  | append_singleton ws w ih =>
    have hwrite : env.writeAll (ws ++ [w]) = (env.writeAll ws).write w := env.writeAll_append ws [w]
    rw [hwrite, get?_layer_write, lastValue_concat, ih]
    split_ifs <;> rfl

/-- What a look-up finds after some writes, layer by layer. -/
theorem get?_writeAll (ws : List Write) (name : String) :
    (env.writeAll ws).get? name =
      ((lastValue .builtins name ws).or (env.builtins.get? name)).or
        (((lastValue .locals name ws).or (env.locals.get? name)).or
          ((lastValue .globals name ws).or (env.globals.get? name))) := by
  rw [get?]
  exact congrArg₂ Option.or (env.get?_layer_writeAll .builtins ws name)
    (congrArg₂ Option.or (env.get?_layer_writeAll .locals ws name)
      (env.get?_layer_writeAll .globals ws name))

theorem get?_empty_writeAll (ws : List Write) (name : String) :
    (empty.writeAll ws).get? name = visible ws name := by
  have hempty : ∀ o : Option String, o.or none = o := fun o => by cases o <;> rfl
  rw [get?_writeAll]
  show ((lastValue .builtins name ws).or none).or
    (((lastValue .locals name ws).or none).or ((lastValue .globals name ws).or none)) = _
  rw [hempty, hempty, hempty, visible]

end Environment

/-! ## Changes -/

/-- What is done to one environment. -/
inductive Change
  | setBuiltin (name value : String)
  | declareGlobal (name value : String)
  | declareLocal (name value : String)
  | extendGlobals (pairs : List (String × String))
  | extendLocals (pairs : List (String × String))
  deriving DecidableEq, Repr

namespace Change

def apply (env : Environment) : Change → Environment
  | setBuiltin name value => env.setBuiltin name value
  | declareGlobal name value => env.declareGlobal name value
  | declareLocal name value => env.declareLocal name value
  | extendGlobals pairs => env.extendGlobals pairs
  | extendLocals pairs => env.extendLocals pairs

/-- The writes that a change makes, in order. -/
def writes : Change → List Write
  | setBuiltin name value => [⟨.builtins, name, value⟩]
  | declareGlobal name value => [⟨.globals, name, value⟩]
  | declareLocal name value => [⟨.locals, name, value⟩]
  | extendGlobals pairs => pairs.map fun p => ⟨.globals, p.1, p.2⟩
  | extendLocals pairs => pairs.map fun p => ⟨.locals, p.1, p.2⟩

/-- A change makes its writes and does nothing else. -/
theorem apply_eq (env : Environment) (c : Change) : c.apply env = env.writeAll c.writes := by
  cases c with
  | setBuiltin name value => rfl
  | declareGlobal name value => rfl
  | declareLocal name value => rfl
  | extendGlobals pairs => exact (env.writeAll_map .globals pairs).symm
  | extendLocals pairs => exact (env.writeAll_map .locals pairs).symm

theorem foldl_apply_eq (env : Environment) (cs : List Change) :
    cs.foldl apply env = env.writeAll (cs.flatMap writes) := by
  induction cs generalizing env with
  | nil => rfl
  | cons c cs ih => rw [List.foldl_cons, ih, apply_eq, List.flatMap_cons, env.writeAll_append]

end Change

/-! ## Actions -/

/-- What is done with the environments there are, which are numbered in the order in which they came
about. A copy with more locals leaves the environment that it is made of alone. -/
inductive Action
  | withBuiltins (pairs : List (String × String))
  | withLocals (parent : Nat) (pairs : List (String × String))
  | change (target : Nat) (c : Change)
  deriving DecidableEq, Repr

namespace Action

def apply (envs : List Environment) : Action → List Environment
  | withBuiltins pairs => envs ++ [.ofBuiltins pairs]
  | withLocals parent pairs => envs ++ (envs[parent]?.map (·.extendLocals pairs)).toList
  | change target c => envs.modify target c.apply

/-- The ledger after an action. -/
def record (ledger : List (List Write)) : Action → List (List Write)
  | withBuiltins pairs => ledger ++ [pairs.map fun p => ⟨.builtins, p.1, p.2⟩]
  | withLocals parent pairs =>
    ledger ++ (ledger[parent]?.map (· ++ (Change.extendLocals pairs).writes)).toList
  | change target c => ledger.modify target (· ++ c.writes)

/-- The environments after some actions; at first there is an empty one. -/
def environments (actions : List Action) : List Environment :=
  actions.foldl apply [.empty]

/-- The writes behind each of the environments. -/
def ledger (actions : List Action) : List (List Write) :=
  actions.foldl record [[]]

/-- One action keeps environments and ledger together. -/
theorem apply_map_writeAll (ledger : List (List Write)) (a : Action) :
    a.apply (ledger.map Environment.empty.writeAll) =
      (a.record ledger).map Environment.empty.writeAll := by
  cases a with
  | withBuiltins pairs =>
    have hnew : Environment.ofBuiltins pairs =
        Environment.empty.writeAll (pairs.map fun p => ⟨.builtins, p.1, p.2⟩) :=
      (Environment.empty.writeAll_map .builtins pairs).symm
    rw [apply, record, List.map_append, List.map_singleton, hnew]
  | withLocals parent pairs =>
    have hcopy : ∀ ws, (Environment.empty.writeAll ws).extendLocals pairs =
        Environment.empty.writeAll (ws ++ (Change.extendLocals pairs).writes) := fun ws => by
      rw [Environment.writeAll_append, ← Change.apply_eq]
      rfl
    rw [apply, record, List.map_append, List.getElem?_map]
    cases ledger[parent]? with
    | none => rfl
    | some ws => exact congrArg (_ ++ [·]) (hcopy ws)
  | change target c =>
    have hchange : ∀ ws, c.apply (Environment.empty.writeAll ws) =
        Environment.empty.writeAll (ws ++ c.writes) := fun ws => by
      rw [Environment.writeAll_append, ← Change.apply_eq]
    rw [apply, record]
    refine List.ext_getElem? fun i => ?_
    simp only [List.getElem?_modify, List.getElem?_map]
    cases ledger[i]? with
    | none => rfl
    | some ws =>
      by_cases hi : target = i
      · simp [hi, hchange]
      · simp [hi]

/-- After every history an environment is what the writes behind it make of the empty one. -/
theorem environments_eq (actions : List Action) :
    environments actions = (ledger actions).map Environment.empty.writeAll := by
  induction actions using List.reverseRecOn with
  | nil => rfl
  | append_singleton actions a ih =>
    have hrun : environments (actions ++ [a]) = a.apply (environments actions) := List.foldl_append
    have hledger : ledger (actions ++ [a]) = a.record (ledger actions) := List.foldl_append
    rw [hrun, hledger, ih, apply_map_writeAll]

/-- What holds of every environment and its writes holds after every history. -/
theorem forall₂_environments {P : Environment → List Write → Prop}
    (h : ∀ ws, P (Environment.empty.writeAll ws) ws) (actions : List Action) :
    List.Forall₂ P (environments actions) (ledger actions) := by
  rw [environments_eq, List.forall₂_map_left_iff, List.forall₂_same]
  exact fun ws _ => h ws

end Action

end Stencil
