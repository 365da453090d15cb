import Stencil.Bindings

/-!
# Environments

The variables that one expansion sees, in three layers: built-ins, locals and globals. A look-up
asks the built-ins first, then the locals, then the globals, so a user declaration of a built-in's
name is kept and never seen.
-/

namespace Stencil

/-- Three layers of bindings. -/
structure Environment where
  builtins : Bindings String
  globals : Bindings String
  locals : Bindings String

namespace Environment

def empty : Environment := ⟨.empty, .empty, .empty⟩

instance : Inhabited Environment := ⟨empty⟩

def setBuiltin (env : Environment) (name value : String) : Environment :=
  { env with builtins := env.builtins.insert name value }

def declareGlobal (env : Environment) (name value : String) : Environment :=
  { env with globals := env.globals.insert name value }

def declareLocal (env : Environment) (name value : String) : Environment :=
  { env with locals := env.locals.insert name value }

def setBuiltins (env : Environment) (pairs : List (String × String)) : Environment :=
  pairs.foldl (fun env p => env.setBuiltin p.1 p.2) env

def extendGlobals (env : Environment) (pairs : List (String × String)) : Environment :=
  pairs.foldl (fun env p => env.declareGlobal p.1 p.2) env

def extendLocals (env : Environment) (pairs : List (String × String)) : Environment :=
  pairs.foldl (fun env p => env.declareLocal p.1 p.2) env

/-- The environment that holds the given built-ins and nothing else. -/
def ofBuiltins (pairs : List (String × String)) : Environment :=
  empty.setBuiltins pairs

theorem setBuiltins_eq (env : Environment) (pairs : List (String × String)) :
    env.setBuiltins pairs = { env with builtins := env.builtins.insertAll pairs } := by
  induction pairs generalizing env with
  | nil => rfl
  | cons p pairs ih => exact ih (env.setBuiltin p.1 p.2)

theorem extendGlobals_eq (env : Environment) (pairs : List (String × String)) :
    env.extendGlobals pairs = { env with globals := env.globals.insertAll pairs } := by
  induction pairs generalizing env with
  | nil => rfl
  | cons p pairs ih => exact ih (env.declareGlobal p.1 p.2)

theorem extendLocals_eq (env : Environment) (pairs : List (String × String)) :
    env.extendLocals pairs = { env with locals := env.locals.insertAll pairs } := by
  induction pairs generalizing env with
  | nil => rfl
  | cons p pairs ih => exact ih (env.declareLocal p.1 p.2)

theorem ofBuiltins_eq (pairs : List (String × String)) :
    ofBuiltins pairs = ⟨.ofList pairs, .empty, .empty⟩ :=
  empty.setBuiltins_eq pairs

def get? (env : Environment) (name : String) : Option String :=
  (env.builtins.get? name).or ((env.locals.get? name).or (env.globals.get? name))

theorem get?_declareGlobal (env : Environment) (name value k : String) :
    (env.declareGlobal name value).get? k =
      (env.builtins.get? k).or ((env.locals.get? k).or
        (if k = name then some value else env.globals.get? k)) := by
  rw [get?, declareGlobal, Bindings.get?_insert]

theorem get?_declareGlobal_of_ne (env : Environment) {name k : String} (value : String)
    (h : k ≠ name) : (env.declareGlobal name value).get? k = env.get? k := by
  rw [get?_declareGlobal, if_neg h, get?]

def isBuiltin (env : Environment) (name : String) : Bool :=
  env.builtins.contains name

def contains (env : Environment) (name : String) : Bool :=
  (env.get? name).isSome

/-- Keeps the first occurrence of each name. -/
def distinct (names : List String) : List String :=
  go [] names
where
  /-- Skips the names that are in `seen`. -/
  go (seen : List String) : List String → List String
    | [] => []
    | n :: rest => if n ∈ seen then go seen rest else n :: go (n :: seen) rest

/-- The visible names: built-ins, then further locals, then further globals, each layer in the
order of first declaration. -/
def names (env : Environment) : List String :=
  distinct (env.builtins.names ++ (env.locals.names ++ env.globals.names))

/-- The visible names with their values. -/
def toList (env : Environment) : List (String × String) :=
  env.names.filterMap fun n => (env.get? n).map fun v => (n, v)

/-- The same bindings in each layer, in any order. -/
def sameContents (a b : Environment) : Bool :=
  a.builtins.sameContents b.builtins && a.globals.sameContents b.globals &&
    a.locals.sameContents b.locals

end Environment

/-- A variable read as a flag is empty, also when it is missing, or holds some text. -/
inductive Presence
  | empty
  | nonEmpty (value : String)
  deriving DecidableEq, Repr

namespace Presence

/-- A missing value and the empty text are the same. -/
def ofValue : Option String → Presence
  | some v => if v = "" then .empty else .nonEmpty v
  | none => .empty

def isEmpty : Presence → Bool
  | .empty => true
  | .nonEmpty _ => false

/-- The text, empty when there is none. -/
def text : Presence → String
  | .empty => ""
  | .nonEmpty v => v

end Presence

/-- Whether a variable is missing or empty, or else its text. -/
def Environment.presence (env : Environment) (name : String) : Presence :=
  .ofValue (env.get? name)

end Stencil
