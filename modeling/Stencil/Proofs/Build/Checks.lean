import Mathlib.Data.List.Forall2
import Stencil.Proofs.Build.Values
import Stencil.Standalone

/-!
# The checks of a draft

A draft becomes a build by a series of checks, `Draft.checks`: each is passed or not, whatever the
others say, and each has an error of its own. Loading makes them in order (`Draft.makes_check`), so
it succeeds when all are passed and else reports the first that is not. `Makes` is the relation
between a computation and its checks; it has a law for sequences and one for lists. The main
statement is `check_reports_first_fault`.
-/

namespace Stencil

/-! ## Checks -/

/-- What is checked of a draft. -/
inductive Check
  | name (place : Declarations) (name : String)
  | value (place : Declarations) (name : String) (value : Yaml.Value)
  | destination (source : String) (destination : Option String)
  | flag (value : Yaml.Value)

namespace Check

def Passes : Check → Prop
  | .name _ s => NameText s
  | .value _ _ v => ∃ text, v.untagged.HasText text
  | .destination _ d => d.isSome
  | .flag v => ∃ b, v.untagged.HasTruth b

/-- What is reported when a check is not passed. -/
def error : Check → BuildError
  | .name place s => .invalidName s place
  | .value place s _ => .notScalar s place
  | .destination source _ => .missingDestination source
  | .flag v => .badFlag v.untagged.shown

end Check

/-- The checks of variables: of each its name and then its value. -/
def Declarations.checks (place : Declarations) (declared : Bindings Yaml.Value) : List Check :=
  declared.entries.flatMap fun e => [.name place e.1, .value place e.1 e.2]

/-- The checks of a notebook: its destination or else the default one, its flag if it has one, its
variables. -/
def NotebookDraft.checks (defaultDestination : Option String) (n : NotebookDraft) : List Check :=
  .destination n.source (n.destination.or defaultDestination) ::
    (n.skip.toList.map .flag ++ (Declarations.notebook n.source).checks n.locals)

/-- The checks of a draft: of its globals, of its defaults, and of one notebook after the other. -/
def Draft.checks (d : Draft) : List Check :=
  Declarations.globals.checks d.globals ++ (Declarations.defaults.checks d.defaults.locals ++
    d.notebooks.flatMap (NotebookDraft.checks d.defaults.destination))

/-- The error of the first of some checks that is not passed. -/
def FirstFault (cs : List Check) (e : BuildError) : Prop :=
  ∃ before c after, cs = before ++ c :: after ∧ (∀ d ∈ before, d.Passes) ∧ ¬ c.Passes ∧ c.error = e

theorem firstFault_cons_iff {c : Check} {cs : List Check} {e : BuildError} :
    FirstFault (c :: cs) e ↔ (¬ c.Passes ∧ c.error = e) ∨ (c.Passes ∧ FirstFault cs e) := by
  constructor
  · rintro ⟨_ | ⟨d, before⟩, c', after, hsplit, hbefore, hc', he⟩
    · cases hsplit
      exact .inl ⟨hc', he⟩
    · cases hsplit
      obtain ⟨hd, hbefore⟩ := List.forall_mem_cons.1 hbefore
      exact .inr ⟨hd, before, c', after, rfl, hbefore, hc', he⟩
  · rintro (⟨hc, he⟩ | ⟨hc, before, c', after, rfl, hbefore, hc', he⟩)
    · exact ⟨[], c, cs, rfl, nofun, hc, he⟩
    · exact ⟨c :: before, c', after, rfl, List.forall_mem_cons.2 ⟨hc, hbefore⟩, hc', he⟩

theorem FirstFault.unique {cs : List Check} {e e' : BuildError} (h : FirstFault cs e)
    (h' : FirstFault cs e') : e = e' := by
  induction cs with
  | nil =>
    obtain ⟨before, c, after, hsplit, -⟩ := h
    simp at hsplit
  | cons c cs ih =>
    rcases firstFault_cons_iff.1 h with ⟨hc, rfl⟩ | ⟨hc, h⟩ <;>
      rcases firstFault_cons_iff.1 h' with ⟨hc', rfl⟩ | ⟨hc', h'⟩
    · rfl
    · exact absurd hc' hc
    · exact absurd hc hc'
    · exact ih h h'

/-! ## Making checks -/

/-- A computation makes checks in order. When all are passed, it has a result with a property, and
else it fails with the error of the first that is not. -/
inductive Makes {α : Type} (P : α → Prop) : List Check → Except BuildError α → Prop
  | passed {cs : List Check} {a : α} : (∀ c ∈ cs, c.Passes) → P a → Makes P cs (.ok a)
  | failed {before after : List Check} {c : Check} :
      (∀ d ∈ before, d.Passes) → ¬ c.Passes → Makes P (before ++ c :: after) (.error c.error)

namespace Makes

variable {α β : Type} {P : α → Prop} {Q : β → Prop} {cs cs' : List Check}
  {x : Except BuildError α}

theorem result {a : α} (h : P a) : Makes P [] (.ok a) :=
  .passed nofun h

theorem fails {c : Check} (h : ¬ c.Passes) : Makes P (c :: cs) (.error c.error) := by
  show Makes P ([] ++ c :: cs) _
  exact .failed nofun h

theorem prepend (hcs : ∀ c ∈ cs, c.Passes) (h : Makes P cs' x) : Makes P (cs ++ cs') x := by
  cases h with
  | passed hcs' ha => exact .passed (List.forall_mem_append.2 ⟨hcs, hcs'⟩) ha
  | failed hbefore hc =>
    rw [← List.append_assoc]
    exact .failed (List.forall_mem_append.2 ⟨hcs, hbefore⟩) hc

theorem pass {c : Check} (hc : c.Passes) (h : Makes P cs x) : Makes P (c :: cs) x :=
  prepend (List.forall_mem_singleton.2 hc) h

theorem sequence {f : α → Except BuildError β} (hx : Makes P cs x)
    (hf : ∀ a, P a → Makes Q cs' (f a)) : Makes Q (cs ++ cs') (x >>= f) := by
  cases hx with
  | passed hcs ha => exact prepend hcs (hf _ ha)
  | failed hbefore hc =>
    rw [List.append_assoc, List.cons_append]
    exact .failed hbefore hc

theorem map {f : α → β} (hx : Makes P cs x) (hf : ∀ a, P a → Q (f a)) :
    Makes Q cs (x.map f) := by
  cases hx with
  | passed hcs ha => exact .passed hcs (hf _ ha)
  | failed hbefore hc => exact .failed hbefore hc

/-- The checks of the items of a list are made item by item. -/
theorem mapM {R : α → β → Prop} {checks : α → List Check} {f : α → Except BuildError β}
    (h : ∀ a, Makes (R a) (checks a) (f a)) (as : List α) :
    Makes (List.Forall₂ R as) (as.flatMap checks) (as.mapM f) := by
  induction as with
  | nil => exact result .nil
  | cons a as ih =>
    rw [List.mapM_cons, List.flatMap_cons]
    refine (h a).sequence fun b hb => ?_
    rw [← List.append_nil (as.flatMap checks)]
    exact ih.sequence fun bs hbs => result (.cons hb hbs)

theorem exists_iff (h : Makes P cs x) : (∃ a, x = .ok a) ↔ ∀ c ∈ cs, c.Passes := by
  cases h with
  | @passed _ a hcs _ => exact ⟨fun _ => hcs, fun _ => ⟨a, rfl⟩⟩
  | failed _ hc =>
    refine ⟨nofun, fun hall => ?_⟩
    exact absurd (hall _ (List.mem_append_right _ List.mem_cons_self)) hc

theorem property (h : Makes P cs x) {a : α} (ha : x = .ok a) : P a := by
  subst ha
  cases h with
  | passed _ h => exact h

theorem error_iff (h : Makes P cs x) {e : BuildError} : x = .error e ↔ FirstFault cs e := by
  cases h with
  | passed hcs _ =>
    refine ⟨nofun, fun ⟨before, c, after, hsplit, _, hc, _⟩ => ?_⟩
    exact absurd (hcs c (by simp [hsplit])) hc
  | @failed before after c hbefore hc =>
    have hfirst : FirstFault (before ++ c :: after) c.error :=
      ⟨before, c, after, rfl, hbefore, hc, rfl⟩
    exact ⟨fun he => Except.error.inj he ▸ hfirst, fun h => congrArg _ (hfirst.unique h)⟩

end Makes

/-! ## Variables -/

theorem map_eq_map_of_forall₂ {α β γ : Type} {R : α → β → Prop} {f : α → γ} {g : β → γ}
    (hR : ∀ a b, R a b → g b = f a) {as : List α} {bs : List β} (h : List.Forall₂ R as bs) :
    bs.map g = as.map f := by
  rw [eq_comm, ← List.forall₂_eq_eq_eq, List.forall₂_map_left_iff, List.forall₂_map_right_iff]
  exact h.imp fun a b hab => (hR a b hab).symm

/-- The same names in the same order, with the texts of their values. -/
def WrittenAs (es : List (String × Yaml.Value)) (ps : List (String × String)) : Prop :=
  List.Forall₂ (fun e p => p.1 = e.1 ∧ e.2.untagged.HasText p.2) es ps

theorem WrittenAs.map_fst {es : List (String × Yaml.Value)} {ps : List (String × String)}
    (h : WrittenAs es ps) : ps.map Prod.fst = es.map Prod.fst :=
  map_eq_map_of_forall₂ (fun _ _ hentry => hentry.1) h

theorem makes_checkVariable (place : Declarations) (name : String) (value : Yaml.Value) :
    Makes (value.untagged.HasText ·) [.name place name, .value place name value]
      (checkVariable place name value) := by
  unfold checkVariable
  split_ifs with hname
  · refine .pass (isName_iff.1 hname) ?_
    cases htext : value.scalarText? with
    | some text =>
      have hhas := Yaml.Value.scalarText?_eq_some_iff.1 htext
      exact .pass ⟨text, hhas⟩ (.result hhas)
    | none =>
      refine .fails fun ⟨text, hhas⟩ => ?_
      rw [Yaml.Value.scalarText?_eq_some_iff.2 hhas] at htext
      cases htext
  · exact .fails (mt isName_iff.2 hname)

/-- Checking variables one after the other is checking them all and binding them then. -/
theorem foldlM_insert {α : Type} (check : String × α → Except BuildError String)
    (es : List (String × α)) (b : Bindings String) :
    es.foldlM (fun b e => do
      let text ← check e
      pure (b.insert e.1 text)) b =
      (es.mapM fun e => (check e).map fun text => (e.1, text)).map b.insertAll := by
  induction es generalizing b with
  | nil => rfl
  | cons e es ih =>
    rw [List.foldlM_cons, List.mapM_cons]
    cases check e with
    | error err => rfl
    | ok text =>
      refine (ih (b.insert e.1 text)).trans ?_
      cases es.mapM fun e => (check e).map fun text => (e.1, text) <;> rfl

theorem makes_checkVariables (place : Declarations) (declared : Bindings Yaml.Value) :
    Makes (fun b => WrittenAs declared.entries b.entries) (place.checks declared)
      (checkVariables place declared) := by
  have hone : ∀ e : String × Yaml.Value,
      Makes (fun p : String × String => p.1 = e.1 ∧ e.2.untagged.HasText p.2)
        [.name place e.1, .value place e.1 e.2]
        ((checkVariable place e.1 e.2).map fun text => (e.1, text)) := fun e =>
    (makes_checkVariable place e.1 e.2).map fun _ htext => ⟨rfl, htext⟩
  unfold checkVariables
  rw [foldlM_insert fun e => checkVariable place e.1 e.2]
  refine (Makes.mapM hone declared.entries).map fun ps (hps : WrittenAs declared.entries ps) => ?_
  have hnodup : ((Bindings.empty.entries ++ ps).map Prod.fst).Nodup :=
    hps.map_fst ▸ declared.nodup_names
  rw [Bindings.entries_insertAll hnodup]
  exact hps

/-! ## Notebooks -/

theorem makes_flag (v : Yaml.Value) : Makes (v.untagged.HasTruth ·) [.flag v] v.flag := by
  by_cases h : ∃ b, v.untagged.HasTruth b
  · obtain ⟨b, hb⟩ := h
    rw [Yaml.Value.flag_eq_ok_iff.2 hb]
    exact .pass ⟨b, hb⟩ (.result hb)
  · rw [Yaml.Value.flag_eq_error h]
    exact .fails h

/-- A notebook as its draft says it, with its own destination or else the default one, and taken up
unless its flag says otherwise. -/
structure NotebookDraft.Becomes (defaultDestination : Option String) (d : NotebookDraft)
    (n : Notebook) : Prop where
  source : n.source = d.source
  destination : d.destination.or defaultDestination = some n.destination
  locals : WrittenAs d.locals.entries n.locals.entries
  skip : ∀ v, d.skip = some v → v.untagged.HasTruth n.skip
  skip_none : d.skip = none → n.skip = false

theorem makes_checkNotebook (defaultDestination : Option String) (d : NotebookDraft) :
    Makes (d.Becomes defaultDestination) (d.checks defaultDestination)
      (d.check defaultDestination) := by
  unfold NotebookDraft.checks NotebookDraft.check
  cases hdestination : d.destination.or defaultDestination with
  | none => exact .fails (by simp [Check.Passes])
  | some destination =>
    have hrest : ∀ skip, (∀ v, d.skip = some v → v.untagged.HasTruth skip) →
        (d.skip = none → skip = false) →
        Makes (d.Becomes defaultDestination) ((Declarations.notebook d.source).checks d.locals)
          (do
            let locals ← checkVariables (.notebook d.source) d.locals
            pure ⟨d.source, destination, locals, skip⟩) := by
      intro skip hflag hnone
      rw [← List.append_nil (Declarations.checks _ _)]
      refine (makes_checkVariables _ d.locals).sequence fun locals hlocals => ?_
      exact .result ⟨rfl, hdestination, hlocals, hflag, hnone⟩
    refine .pass rfl ?_
    cases hskip : d.skip with
    | none => exact hrest false (by simp [hskip]) fun _ => rfl
    | some v =>
      refine (makes_flag v).sequence fun skip hflag => hrest skip (fun w hw => ?_) (by simp [hskip])
      obtain rfl := Option.some.inj (hskip.symm.trans hw)
      exact hflag

/-! ## Drafts -/

structure Draft.Becomes (d : Draft) (b : Build) : Prop where
  globals : WrittenAs d.globals.entries b.globals.entries
  destination : b.defaults.destination = d.defaults.destination
  locals : WrittenAs d.defaults.locals.entries b.defaults.locals.entries
  notebooks : List.Forall₂ (NotebookDraft.Becomes d.defaults.destination) d.notebooks b.notebooks

/-- Checking a draft makes its checks in order. -/
theorem Draft.makes_check (d : Draft) : Makes d.Becomes d.checks d.check := by
  refine (makes_checkVariables .globals d.globals).sequence fun globals hglobals => ?_
  refine (makes_checkVariables .defaults d.defaults.locals).sequence fun locals hlocals => ?_
  rw [← List.append_nil (d.notebooks.flatMap _)]
  refine (Makes.mapM (makes_checkNotebook d.defaults.destination) d.notebooks).sequence
    fun notebooks hnotebooks => ?_
  exact .result ⟨hglobals, rfl, hlocals, hnotebooks⟩

/-- The variables that a draft declares, in order. -/
def Draft.declarations (d : Draft) : List (Bindings Yaml.Value) :=
  d.globals :: d.defaults.locals :: d.notebooks.map (·.locals)

/-- A draft that says nothing wrong. -/
structure Draft.Valid (d : Draft) : Prop where
  declarations : ∀ declared ∈ d.declarations, ∀ e ∈ declared.entries,
    NameText e.1 ∧ ∃ text, e.2.untagged.HasText text
  destinations : ∀ n ∈ d.notebooks, n.destination.isSome ∨ d.defaults.destination.isSome
  flags : ∀ n ∈ d.notebooks, ∀ v, n.skip = some v → ∃ b, v.untagged.HasTruth b

theorem Declarations.forall_passes_iff {place : Declarations} {declared : Bindings Yaml.Value} :
    (∀ c ∈ place.checks declared, c.Passes) ↔
      ∀ e ∈ declared.entries, NameText e.1 ∧ ∃ text, e.2.untagged.HasText text := by
  rw [checks, List.forall_mem_flatMap]
  refine forall₂_congr fun e _ => ?_
  rw [List.forall_mem_cons, List.forall_mem_singleton]
  rfl

theorem NotebookDraft.forall_passes_iff {defaultDestination : Option String}
    {n : NotebookDraft} :
    (∀ c ∈ n.checks defaultDestination, c.Passes) ↔
      (n.destination.isSome ∨ defaultDestination.isSome) ∧
      (∀ v, n.skip = some v → ∃ b, v.untagged.HasTruth b) ∧
      ∀ e ∈ n.locals.entries, NameText e.1 ∧ ∃ text, e.2.untagged.HasText text := by
  rw [checks, List.forall_mem_cons, List.forall_mem_append, Declarations.forall_passes_iff,
    List.forall_mem_map]
  refine and_congr ?_ (and_congr_left' (forall_congr' fun v => imp_congr_left Option.mem_toList))
  rw [Check.Passes, Option.isSome_or, Bool.or_eq_true]

theorem Draft.forall_passes_iff {d : Draft} : (∀ c ∈ d.checks, c.Passes) ↔ d.Valid := by
  rw [checks, List.forall_mem_append, List.forall_mem_append, Declarations.forall_passes_iff,
    Declarations.forall_passes_iff, List.forall_mem_flatMap]
  simp only [NotebookDraft.forall_passes_iff]
  constructor
  · rintro ⟨hglobals, hdefaults, hnotebooks⟩
    refine ⟨?_, fun n hn => (hnotebooks n hn).1, fun n hn => (hnotebooks n hn).2.1⟩
    refine List.forall_mem_cons.2 ⟨hglobals, List.forall_mem_cons.2 ⟨hdefaults, ?_⟩⟩
    exact List.forall_mem_map.2 fun n hn => (hnotebooks n hn).2.2
  · rintro ⟨hdeclared, hdestinations, hflags⟩
    obtain ⟨hglobals, hdeclared⟩ := List.forall_mem_cons.1 hdeclared
    obtain ⟨hdefaults, hnotebooks⟩ := List.forall_mem_cons.1 hdeclared
    exact ⟨hglobals, hdefaults, fun n hn =>
      ⟨hdestinations n hn, hflags n hn, List.forall_mem_map.1 hnotebooks n hn⟩⟩

/-- A text that is not malformed holds a draft, and is loaded as this is checked. -/
theorem Build.exists_draft [Yaml.Loader] {text : String} {x : Except BuildError Build}
    (h : ofText text = x) (hx : ∀ cause, x ≠ .error (.malformed cause)) :
    ∃ d, Draft.ofText? text = some d ∧ d.check = x := by
  unfold ofText at h
  split at h
  · exact ⟨_, ‹_›, h⟩
  · exact absurd h.symm (hx _)

/-- **Loading reports the first fault of a draft.** It succeeds exactly when names are names, the
values of variables have texts, every notebook has a destination, its own or the default one, and
the flags are true or false. Then the build says what the draft says, in the same order. Otherwise
the error is that of the first check that is not passed, in the order of `Draft.checks`. -/
theorem check_reports_first_fault [Yaml.Loader] (d : Draft) :
    (∀ text, Draft.ofText? text = some d → Build.ofText text = d.check) ∧
    ((∃ b, d.check = .ok b) ↔ d.Valid) ∧
    (∀ b, d.check = .ok b → d.Becomes b) ∧
    ∀ e, d.check = .error e ↔ FirstFault d.checks e := by
  have hmakes := d.makes_check
  refine ⟨fun text htext => ?_, hmakes.exists_iff.trans Draft.forall_passes_iff,
    fun b => hmakes.property, fun e => hmakes.error_iff⟩
  rw [Build.ofText, htext]

/-- A flag that is none comes before a name that is none, and before the missing destination of the
next notebook. Without these faults the draft is loaded: a tagged number is a text, and the default
destination is used. -/
theorem check_reports_first_fault_flag :
    let start := "variables:\n  a: !t 1\nnotebooks:\n- src: x\n  dest: d\n"
    let faulty := start ++ "  skip: maybe\n  variables:\n    b-c: 1\n- src: y\n"
    let sound := "notebook_defaults:\n  dest: e\n" ++ start ++ "  skip: !t YES\n- src: y\n"
    (∃ d, Draft.ofText? faulty = some d ∧ ¬ d.Valid ∧ FirstFault d.checks (.badFlag "maybe")) ∧
      ∃ d b, Draft.ofText? sound = some d ∧ d.Valid ∧ Build.ofText sound = .ok b ∧ d.Becomes b ∧
        b.globals.entries = [("a", "1")] ∧
        b.notebooks.map (fun n => (n.destination, n.skip)) = [("d", true), ("e", false)] := by
  intro start faulty sound
  have herror : (Build.ofText faulty).map (fun _ => ()) = .error (.badFlag "maybe") := by
    decide +kernel
  have hload : (Build.ofText sound).map (fun b =>
      (b.globals.entries, b.notebooks.map fun n => (n.destination, n.skip))) =
      .ok ([("a", "1")], [("d", true), ("e", false)]) := by decide +kernel
  constructor
  · cases hfaulty : Build.ofText faulty with
    | ok b =>
      rw [hfaulty] at herror
      cases herror
    | error e =>
      rw [hfaulty] at herror
      cases herror
      obtain ⟨d, hd, hcheck⟩ := Build.exists_draft hfaulty nofun
      obtain ⟨-, hvalid, -, hfault⟩ := check_reports_first_fault d
      refine ⟨d, hd, fun hv => ?_, (hfault _).1 hcheck⟩
      obtain ⟨b, hb⟩ := hvalid.2 hv
      rw [hcheck] at hb
      cases hb
  · cases hsound : Build.ofText sound with
    | error e =>
      rw [hsound] at hload
      cases hload
    | ok b =>
      rw [hsound] at hload
      obtain ⟨hglobals, hnotebooks⟩ := Prod.mk.inj (Except.ok.inj hload)
      obtain ⟨d, hd, hcheck⟩ := Build.exists_draft hsound nofun
      obtain ⟨-, hvalid, hbecomes, -⟩ := check_reports_first_fault d
      exact ⟨d, b, hd, hvalid.1 ⟨b, hcheck⟩, rfl, hbecomes b hcheck, hglobals, hnotebooks⟩

end Stencil
