import Stencil.Proofs.Template.Lookups
import Stencil.Standalone
import Stencil.Template.Deferral

/-!
# What a template depends on

The names that a template mentions bound what it can see of an environment. Two environments that
agree on them cannot be told apart by it (`Template.sameIn_of_agree`), and no other name is looked
up (`mem_names_of_mem_trace`). The main statement, `variableNames_bound`, says both.
-/

namespace Stencil

/-! ## Agreement -/

/-- A template gives the same in two environments: by either rule, with the same names without a
value, and expanded up to any deferred names. -/
structure Template.SameIn (t : Template) (E L : Environment) : Prop where
  evaluate : ∀ template strict,
    evaluate E template strict t.nodes = evaluate L template strict t.nodes
  substitute : t.substitute E = t.substitute L
  safeSubstitute : t.safeSubstitute E = t.safeSubstitute L
  undefined : t.undefined E = t.undefined L
  partialSubstitute : ∀ deferred, t.partialSubstitute E deferred = t.partialSubstitute L deferred

section Agreement

variable {E L : Environment}

/-- Ways to look up that agree on the names of nodes expand them alike. -/
theorem expandNodes_agree {m : Type → Type} [Monad m] {find find' : String → m String}
    {nodes : List Node} (h : ∀ name ∈ nodes.flatMap Node.names, find name = find' name) :
    expandNodes find nodes = expandNodes find' nodes :=
  expandNodes_related Expansion.related_eq h

theorem expandLenient_agree {nodes : List Node}
    (h : ∀ name ∈ nodes.flatMap Node.names, E.get? name = L.get? name) :
    expandLenient E nodes = expandLenient L nodes := by
  have hnodes : expandNodes (lenientFind E) nodes = expandNodes (lenientFind L) nodes := by
    refine expandNodes_agree fun name hname => ?_
    unfold lenientFind
    rw [h name hname]
  rw [expandLenient, hnodes, expandLenient]

theorem expandStrict_agree {nodes : List Node} (template : String)
    (h : ∀ name ∈ nodes.flatMap Node.names, E.get? name = L.get? name) :
    expandStrict E template nodes = expandStrict L template nodes := by
  refine expandNodes_agree fun name hname => ?_
  rw [strictFind, h name hname, strictFind]

theorem Node.defer_agree {n : Node} (source : String) (deferred : List String)
    (h : ∀ name ∈ n.names, E.get? name = L.get? name) :
    n.defer source E deferred = n.defer source L deferred := by
  have hlenient : expandLenient E [n] = expandLenient L [n] :=
    expandLenient_agree (by simpa using h)
  unfold Node.defer
  rw [hlenient]

theorem Template.mem_variableNames {t : Template} {name : String} :
    name ∈ t.variableNames ↔ name ∈ t.nodes.flatMap Node.names :=
  Environment.mem_distinct

/-- A template cannot tell environments apart that agree on its names. -/
theorem Template.sameIn_of_agree {t : Template}
    (h : ∀ name ∈ t.variableNames, E.get? name = L.get? name) : t.SameIn E L := by
  have hnodes : ∀ name ∈ t.nodes.flatMap Node.names, E.get? name = L.get? name :=
    fun name hname => h name (mem_variableNames.2 hname)
  have hlenient := expandLenient_agree hnodes
  refine ⟨fun template strict => ?_, expandStrict_agree t.source hnodes, ?_, ?_, fun deferred => ?_⟩
  · cases strict with
    | true => rw [evaluate_strict, evaluate_strict, expandStrict_agree template hnodes]
    | false => rw [evaluate_lenient, evaluate_lenient, hlenient]
  · rw [Template.safeSubstitute, hlenient, Template.safeSubstitute]
  · rw [Template.undefined, hlenient, Template.undefined]
  · refine congrArg String.join (List.map_congr_left fun n hn => ?_)
    exact n.defer_agree t.source deferred fun name hname =>
      hnodes name (List.mem_flatMap.2 ⟨n, hn, hname⟩)

end Agreement

/-! ## The names that are looked up -/

/-- Only names that nodes mention are looked up for them. -/
theorem mem_names_of_mem_trace {env : Environment} {nodes : List Node} {name : String}
    (h : name ∈ (expandTraced env nodes).2) : name ∈ nodes.flatMap Node.names := by
  have hrelated : Expansion.Related fun (α : Type) (x y : Writer (List String) α) =>
      ∀ k ∈ x.run.2, k ∈ nodes.flatMap Node.names := by
    refine ⟨fun _ k hk => absurd hk List.not_mem_nil, fun {α β x y f g} hx hf k hk => ?_⟩
    have hrun : (x >>= f).run.2 = x.run.2 ++ (f x.run.1).run.2 := rfl
    rw [hrun, List.mem_append] at hk
    exact hk.elim (hx k) (hf x.run.1 k)
  have hlookup : ∀ k ∈ nodes.flatMap Node.names,
      ∀ k' ∈ (tracedFind env k).run.2, k' ∈ nodes.flatMap Node.names := by
    intro k hk k' hk'
    have hk' : k' ∈ [k] := hk'
    rwa [List.mem_singleton.1 hk']
  have htrace := @expandNodes_related _ _ _ _ _ hrelated (tracedFind env) (tracedFind env) nodes
    hlookup
  exact htrace name h

theorem Template.mem_variableNames_of_mem_undefined {t : Template} {env : Environment}
    {name : String} (h : name ∈ t.undefined env) : name ∈ t.variableNames := by
  rw [Template.undefined, expandLenient_eq, env.mem_missing] at h
  exact mem_variableNames.2 (mem_names_of_mem_trace h.1)

/-- A strict expansion fails at one of the names. -/
theorem Template.exists_of_substitute_eq_error {t : Template} {env : Environment}
    {e : TemplateError} (h : t.substitute env = .error e) :
    ∃ name ∈ t.variableNames, e = .undefinedVariable name t.source := by
  rw [Template.substitute, expandStrict_eq, Environment.judge] at h
  cases hfind : (expandTraced env t.nodes).2.find? env.lacks with
  | none =>
    rw [hfind] at h
    cases h
  | some name =>
    rw [hfind] at h
    cases h
    have hmem := mem_names_of_mem_trace (List.mem_of_find?_eq_some hfind)
    exact ⟨name, mem_variableNames.2 hmem, rfl⟩

/-! ## The bound -/

/-- **The names of a template bound what it depends on.** Environments that agree on them give the
same expansions, and every name that turns out to have no value is one of them. They are
distinct. -/
theorem variableNames_bound {t : Template} {E L : Environment}
    (h : ∀ name ∈ t.variableNames, E.get? name = L.get? name) :
    t.SameIn E L ∧ (∀ name ∈ t.undefined E, name ∈ t.variableNames) ∧
      (∀ e, t.substitute E = .error e →
        ∃ name ∈ t.variableNames, e = .undefinedVariable name t.source) ∧
      t.variableNames.Nodup :=
  ⟨t.sameIn_of_agree h, fun _ => Template.mem_variableNames_of_mem_undefined,
    fun _ => Template.exists_of_substitute_eq_error, Environment.nodup_distinct _⟩

/-- Two of the three names of a ternary have no value, and a name that it does not mention is not
seen. -/
theorem variableNames_bound_ternary :
    ∃ t, Template.compile "$\x7ba==\"$b\"?\"x\":\"$c\"\x7d" = .ok t ∧
      t.SameIn (Environment.empty.declareGlobal "a" "1")
        ((Environment.empty.declareGlobal "a" "1").declareGlobal "d" "2") ∧
      t.undefined (Environment.empty.declareGlobal "a" "1") = ["b", "c"] ∧
      "b" ∈ t.variableNames ∧ "c" ∈ t.variableNames := by
  obtain ⟨t, hcompile, hnames, hundefined⟩ :
      ∃ t, Template.compile "$\x7ba==\"$b\"?\"x\":\"$c\"\x7d" = .ok t ∧
        t.variableNames = ["a", "b", "c"] ∧
        t.undefined (Environment.empty.declareGlobal "a" "1") = ["b", "c"] :=
    ⟨⟨"$\x7ba==\"$b\"?\"x\":\"$c\"\x7d",
      [.ternary ⟨⟨"a", none, true, ⟨2, 3⟩⟩, .equal,
        ⟨[.token ⟨"b", none, false, ⟨6, 8⟩⟩], ⟨5, 9⟩⟩, ⟨[.text "x"], ⟨10, 13⟩⟩,
        ⟨[.token ⟨"c", none, false, ⟨15, 17⟩⟩], ⟨14, 18⟩⟩, ⟨0, 19⟩⟩]⟩,
      by decide +kernel, by decide +kernel, by decide +kernel⟩
  have hagree : ∀ name ∈ t.variableNames, (Environment.empty.declareGlobal "a" "1").get? name =
      ((Environment.empty.declareGlobal "a" "1").declareGlobal "d" "2").get? name := by
    intro name hname
    refine (Environment.get?_declareGlobal_of_ne _ "2" ?_).symm
    rintro rfl
    rw [hnames] at hname
    exact absurd hname (by decide)
  obtain ⟨hsame, hmem, -, -⟩ := variableNames_bound hagree
  rw [hundefined] at hmem
  exact ⟨t, hcompile, hsame, hundefined, hmem "b" (by decide), hmem "c" (by decide)⟩

end Stencil
