import Stencil.Proofs.Build.Destination
import Stencil.Proofs.CommandLine.Arguments
import Stencil.Proofs.Template.FaultLine
import Stencil.Standalone

/-!
# What a check prints

A check that finds problems prints for each of them the source of the notebook and a report, and at
last how many there are. `Listed` is the form that such a text should have: every source begins a
line, and so does the summary. Reports are printed without a separator, and those of templates that
do not compile end a line (`getLast?_report_parse`), because there is a box for them
(`render?_eq_some`). The message about an at sign does not end one.
The main statement is `check_prints_problems`: which parts begin a line, and that the form is kept
exactly when there is no at sign in a destination.
-/

namespace Stencil

/-! ## Notebooks that fail -/

section

variable [Pattern.Engine]

/-- The destination of a notebook is refused for an at sign, or it is no template. -/
def Notebook.fails (n : Notebook) : Bool :=
  '@' ∈ n.destination.toList || !(Template.compile n.destination).isOk

theorem isOk_compileDestination (n : Notebook) :
    (compileDestination n.destination).isOk = !n.fails := by
  unfold Notebook.fails compileDestination validateDestination
  split_ifs with hat <;> simp [hat, Except.isOk, Except.toBool]

/-- A check lists the notebooks that fail, in order. -/
theorem Build.map_fst_check (b : Build) :
    b.check.map Prod.fst = b.notebooks.filter Notebook.fails := by
  rw [check, List.map_filterMap, ← List.filterMap_eq_filter]
  refine List.filterMap_congr fun n _ => ?_
  have hok := isOk_compileDestination n
  cases h : compileDestination n.destination with
  | ok t =>
    have hno : n.fails = false := by simpa [h, Except.isOk, Except.toBool] using hok
    simp [Option.guard, hno]
  | error e =>
    have hyes : n.fails = true := by simpa [h, Except.isOk, Except.toBool] using hok
    simp [Option.guard, hyes]

/-- Among the notebooks that fail are all those with an at sign in the destination. -/
theorem Build.forall_check_iff (b : Build) :
    (∀ p ∈ b.check, '@' ∉ p.1.destination.toList) ↔
      ∀ n ∈ b.notebooks, '@' ∉ n.destination.toList := by
  constructor
  · intro h n hn hat
    exact h (n, .invalidDestination n.destination) (b.mem_check_iff.2 ⟨hn, .atSign hat⟩) hat
  · intro h p hp
    exact h p.1 (b.mem_check_iff.1 hp).1

end

namespace CommandLine

/-! ## Arguments -/

/-- Arguments that have a build checked and ask for nothing else. A path that starts with a hyphen
comes after two hyphens. -/
def Checks (path : String) (arguments : List String) : Prop :=
  path ≠ "" ∧ ((IsPlain path ∧ arguments = ["check", path]) ∨ arguments = ["check", "--", path])

theorem Checks.command {path : String} {arguments : List String} (h : Checks path arguments) :
    Command.ofArguments? false arguments = some (.check path) := by
  have hcheck : Shape.of "check" = .plain := by decide
  have hstop : Shape.of "--" = .stop := by decide
  have hcommand : ∀ rest,
      readArguments? [verboseForm] none .empty rest = some ⟨[], [path]⟩ →
        Command.ofArguments? false ("check" :: rest) = some (.check path) := by
    intro rest hrest
    unfold Command.ofArguments?
    rw [hcheck]
    simp [command?, hrest, h.1]
  rcases h.2 with ⟨hplain, rfl⟩ | rfl
  · refine hcommand _ ?_
    rw [readArguments?, Shape.of_plain hplain]
    rfl
  · refine hcommand _ ?_
    rw [readArguments?, hstop]
    rfl

/-! ## Beginnings of lines -/

/-- What is written next begins a line. -/
def AtLineStart (written : String) : Prop :=
  ∀ c ∈ written.toList.getLast?, c = '\n'

theorem atLineStart_empty : AtLineStart "" :=
  nofun

/-- What was written last decides. -/
theorem atLineStart_append_iff {before piece : String} {c : Char}
    (h : piece.toList.getLast? = some c) : AtLineStart (before ++ piece) ↔ c = '\n' := by
  rw [AtLineStart, String.toList_append, List.getLast?_append, h]
  simp

theorem getLast?_rows {rows : List (List Char)} (h : rows ≠ []) :
    (rows.flatMap fun row => row ++ ['\n']).getLast? = some '\n' := by
  obtain ⟨before, row, rfl⟩ := (List.eq_nil_or_concat rows).resolve_left h
  rw [List.concat_eq_append, List.flatMap_append, List.flatMap_singleton, ← List.append_assoc,
    List.getLast?_concat]

theorem getLast?_render (template : String) (f : Fault) :
    (Report.render template f).toList.getLast? = some '\n' := by
  unfold Report.render
  rw [String.toList_ofList]
  exact getLast?_rows (List.cons_ne_nil _ _)

/-- There is a box for a fault at a place of the template. -/
theorem render?_eq_some {template : String} {c : Cursor} (hc : c.Within template) (r : Reason) :
    Report.render? template ⟨c.offset, r⟩ = some (Report.render template ⟨c.offset, r⟩) := by
  obtain ⟨before, htemplate, hoffset⟩ := hc.exists_before
  have hbefore : takeBytes c.offset template.toList = before := by
    rw [htemplate, hoffset, takeBytes_append]
  have hle : c.offset ≤ byteWidth template.toList := by
    rw [htemplate, byteWidth_append, hoffset]
    exact Nat.le_add_right _ _
  unfold Report.render?
  dsimp only
  rw [hbefore, Nat.min_eq_left hle, if_pos hoffset.symm]

/-- The report of a template that does not compile ends a line. -/
theorem getLast?_report_parse [Pattern.Engine] {template : String} {f : Fault}
    (h : Template.compile template = .error (.parse template f)) :
    (TemplateError.parse template f).report.toList.getLast? = some '\n' := by
  obtain ⟨c, r, hc, he⟩ := Template.exists_within_of_compile_eq_error h
  cases he
  have hreport : (TemplateError.parse template ⟨c.offset, r⟩).report =
      Report.render template ⟨c.offset, r⟩ := by
    rw [TemplateError.report, render?_eq_some hc, Option.getD_some]
  rw [hreport]
  exact getLast?_render _ _

/-- The message about an at sign ends with a quotation mark. -/
theorem getLast?_report_invalidDestination (destination : String) :
    (TemplateError.invalidDestination destination).report.toList.getLast? = some '"' := by
  show (_ ++ destination ++ "\"").toList.getLast? = some '"'
  rw [String.toList_append]
  exact List.getLast?_concat

/-- After what is said about a notebook a line begins, unless it is about an at sign. -/
theorem atLineStart_problemText_iff [Pattern.Engine] {n : Notebook} {e : TemplateError}
    (h : DestinationFault n.destination e) (written : String) :
    AtLineStart (written ++ problemText n e) ↔ '@' ∉ n.destination.toList := by
  rw [problemText, ← String.append_assoc]
  cases h with
  | atSign hat =>
    rw [atLineStart_append_iff (getLast?_report_invalidDestination _)]
    simp [hat]
  | parse hno hcompile =>
    rw [atLineStart_append_iff (getLast?_report_parse hcompile)]
    simp [hno]

/-! ## Problems in a list -/

/-- What is said about some problems, one after the other. -/
def problemsText (problems : List (Notebook × TemplateError)) : String :=
  String.join (problems.map fun p => p.1.source ++ ":\n" ++ p.2.report)

theorem problemsText_concat (problems : List (Notebook × TemplateError)) (n : Notebook)
    (e : TemplateError) :
    problemsText (problems ++ [(n, e)]) = problemsText problems ++ problemText n e := by
  rw [problemsText, List.map_append, String.join_append]
  simp [problemsText, problemText]

/-- After some problems a line begins, unless the last of them is an at sign. -/
theorem atLineStart_problemsText_iff [Pattern.Engine] {problems : List (Notebook × TemplateError)}
    (h : ∀ p ∈ problems, DestinationFault p.1.destination p.2) :
    AtLineStart (problemsText problems) ↔
      ∀ p ∈ problems.getLast?, '@' ∉ p.1.destination.toList := by
  rcases List.eq_nil_or_concat problems with rfl | ⟨before, ⟨n, e⟩, rfl⟩
  · exact ⟨fun _ => nofun, fun _ => atLineStart_empty⟩
  · rw [List.concat_eq_append] at h ⊢
    have hlast : DestinationFault n.destination e := h (n, e) (by simp)
    rw [problemsText_concat, atLineStart_problemText_iff hlast, List.getLast?_concat]
    simp

/-- A text that shows problems and then a summary, after some text that is already written: of each
problem the source of the notebook and the report. Every source begins a line, and so does the
summary. -/
def Listed (summary : String) : (written : String) → List (Notebook × TemplateError) →
    (text : String) → Prop
  | written, [], text => AtLineStart written ∧ text = summary
  | written, (n, e) :: problems, text =>
    AtLineStart written ∧ ∃ more, text = n.source ++ ":\n" ++ e.report ++ more ∧
      Listed summary (written ++ (n.source ++ ":\n" ++ e.report)) problems more

theorem Listed.atLineStart {summary written text : String}
    {problems : List (Notebook × TemplateError)} (h : Listed summary written problems text) :
    AtLineStart written := by
  cases problems with
  | nil => exact h.1
  | cons p problems => exact h.1

section

variable [Pattern.Engine]

/-- What is said about problems without an at sign has this form, and nothing else has. -/
theorem listed_iff {summary written : String} {problems : List (Notebook × TemplateError)}
    (hwritten : AtLineStart written)
    (h : ∀ p ∈ problems, DestinationFault p.1.destination p.2) :
    Listed summary written problems (problemsText problems ++ summary) ↔
      ∀ p ∈ problems, '@' ∉ p.1.destination.toList := by
  -- what is written grows with each problem; that it ends a line is what the next one needs
  induction problems generalizing written with
  | nil =>
    refine ⟨fun _ => nofun, fun _ => ⟨hwritten, ?_⟩⟩
    rw [problemsText, List.map_nil, String.join_nil, String.empty_append]
  | cons p problems ih =>
    obtain ⟨n, e⟩ := p
    obtain ⟨hp, hproblems⟩ := List.forall_mem_cons.1 h
    have htext : problemsText ((n, e) :: problems) ++ summary =
        n.source ++ ":\n" ++ e.report ++ (problemsText problems ++ summary) := by
      rw [problemsText, List.map_cons, String.join_cons, String.append_assoc]
      rfl
    have hline := atLineStart_problemText_iff hp written
    rw [List.forall_mem_cons, htext]
    constructor
    · rintro ⟨-, more, hmore, hlisted⟩
      obtain rfl := (String.append_right_inj _).1 hmore
      have hnext := hlisted.atLineStart
      exact ⟨hline.1 hnext, (ih hnext hproblems).1 hlisted⟩
    · rintro ⟨hno, hall⟩
      have hnext := hline.2 hno
      exact ⟨hwritten, _, rfl, (ih hnext hproblems).2 hall⟩

/-! ## Checks -/

/-- The text after the problems that a check found. -/
def summaryText (failing all : Nat) : String :=
  "Error: " ++ toString failing ++ " of " ++ toString all ++
    " notebook destination(s) failed to compile\n"

theorem checkOutcome_of_problems {b : Build} (h : b.check ≠ []) :
    checkOutcome b =
      ⟨1, "", problemsText b.check ++ summaryText b.check.length b.notebooks.length⟩ := by
  have hfailure : (Failure.destinations b.check.length b.notebooks.length).text =
      summaryText b.check.length b.notebooks.length := by
    rw [summaryText]
    show "Error: " ++ (_ ++ _ ++ _ ++ _) ++ "\n" = _
    simp only [String.append_assoc]
    rfl
  unfold checkOutcome
  split
  · exact absurd ‹_› h
  · dsimp only
    rw [hfailure]
    rfl

/-- **A check prints its problems one after the other, and not always on lines of their own.** For
every notebook that fails, in order, come its source and the report of the error, and at last the
number of those that fail and the number of all. What comes after some of the problems begins a line
unless the last of them is an at sign in a destination, whose message does not end a line. So every
source and the summary begin lines exactly when there is no at sign in a destination. -/
theorem check_prints_problems [Yaml.Loader] [Manual] {read : ReadFile} {arguments : List String}
    {path : String} {b : Build} (harguments : Checks path arguments)
    (hbuild : readBuild read path = .ok b) (hfails : b.notebooks.filter Notebook.fails ≠ []) :
    let failing := b.notebooks.filter Notebook.fails
    let summary := "Error: " ++ toString failing.length ++ " of " ++ toString b.notebooks.length ++
      " notebook destination(s) failed to compile\n"
    let printed := run read arguments
    ∃ problems : List (Notebook × TemplateError),
      problems.map Prod.fst = failing ∧
      (∀ p ∈ problems, DestinationFault p.1.destination p.2) ∧
      printed.code = 1 ∧ printed.output = "" ∧
      printed.errors =
        String.join (problems.map fun p => p.1.source ++ ":\n" ++ p.2.report) ++ summary ∧
      (∀ before after, problems = before ++ after →
        (AtLineStart (String.join (before.map fun p => p.1.source ++ ":\n" ++ p.2.report)) ↔
          ∀ p ∈ before.getLast?, '@' ∉ p.1.destination.toList)) ∧
      (Listed summary "" problems printed.errors ↔
        ∀ n ∈ b.notebooks, '@' ∉ n.destination.toList) := by
  intro failing summary printed
  have hmap : b.check.map Prod.fst = failing := b.map_fst_check
  have hfaults : ∀ p ∈ b.check, DestinationFault p.1.destination p.2 := fun p hp =>
    (b.mem_check_iff.1 hp).2
  have hcheck : b.check ≠ [] := fun hnil => hfails (hmap.symm.trans (by rw [hnil]; rfl))
  have hsummary : summaryText b.check.length b.notebooks.length = summary := by
    rw [summaryText, ← List.length_map (f := Prod.fst), hmap]
  have hprinted : printed = ⟨1, "", problemsText b.check ++ summary⟩ := by
    rw [← hsummary, ← checkOutcome_of_problems hcheck]
    exact run_check harguments.command hbuild
  rw [hprinted]
  refine ⟨b.check, hmap, hfaults, rfl, rfl, rfl, fun before after hsplit => ?_, ?_⟩
  · have hbefore : ∀ p ∈ before, DestinationFault p.1.destination p.2 := fun p hp =>
      hfaults p (hsplit ▸ List.mem_append_left after hp)
    exact atLineStart_problemsText_iff hbefore
  · rw [← b.forall_check_iff]
    exact listed_iff atLineStart_empty hfaults

end

/-- Two destinations that do not compile, and one between them that does. -/
theorem check_prints_problems_twice :
    ∃ read b, readBuild read "build.yaml" = .ok b ∧
      (b.notebooks.filter Notebook.fails).map (·.source) = ["a.py", "c.py"] ∧
      ∃ problems, problems.map Prod.fst = b.notebooks.filter Notebook.fails ∧
        Listed "Error: 2 of 3 notebook destination(s) failed to compile\n" "" problems
          (run read ["check", "build.yaml"]).errors := by
  let text := "notebooks:\n- src: a.py\n  dest: $\x7bx\n- src: b.py\n  dest: $x\n" ++
    "- src: c.py\n  dest: $\x7b-\x7d\n"
  have hload : (Build.ofText text).map (fun b =>
      ((b.notebooks.filter Notebook.fails).map (·.source), b.notebooks.map (·.destination))) =
      .ok (["a.py", "c.py"], ["$\x7bx", "$x", "$\x7b-\x7d"]) := by decide +kernel
  cases hbuild : Build.ofText text with
  | error e =>
    rw [hbuild] at hload
    cases hload
  | ok b =>
    rw [hbuild] at hload
    obtain ⟨hfailing, hdestinations⟩ := Prod.mk.inj (Except.ok.inj hload)
    have hread : readBuild (fun _ => .ok text) "build.yaml" = .ok b := hbuild
    have harguments : Checks "build.yaml" ["check", "build.yaml"] :=
      ⟨by decide, .inl ⟨.inr (by decide), rfl⟩⟩
    have hfails : b.notebooks.filter Notebook.fails ≠ [] := fun hnil => by
      rw [hnil] at hfailing
      cases hfailing
    have hcounts : (b.notebooks.filter Notebook.fails).length = 2 ∧ b.notebooks.length = 3 := by
      have hfew := congrArg List.length hfailing
      have hall := congrArg List.length hdestinations
      rw [List.length_map] at hfew hall
      exact ⟨hfew, hall⟩
    obtain ⟨problems, hmap, -, -, -, -, -, hlisted⟩ :=
      check_prints_problems harguments hread hfails
    rw [hcounts.1, hcounts.2] at hlisted
    refine ⟨_, b, hread, hfailing, problems, hmap, hlisted.2 fun n hn => ?_⟩
    have hnone : ∀ t ∈ ["$\x7bx", "$x", "$\x7b-\x7d"], '@' ∉ t.toList := by decide
    exact hnone _ (hdestinations ▸ List.mem_map_of_mem hn)

/-- With an at sign in the only destination, the summary goes on in the line of the message. -/
theorem check_continues_line :
    let summary := "Error: 1 of 1 notebook destination(s) failed to compile\n"
    ∃ read b, readBuild read "build.yaml" = .ok b ∧ b.notebooks.filter Notebook.fails ≠ [] ∧
      (run read ["check", "build.yaml"]).errors =
        "a.py:\nThe \"@\" character is not allowed in destinations: \"a@b\"" ++ summary ∧
      ∀ problems, problems.map Prod.fst = b.notebooks.filter Notebook.fails →
        (∀ p ∈ problems, DestinationFault p.1.destination p.2) →
        ¬ Listed summary "" problems (run read ["check", "build.yaml"]).errors := by
  intro summary
  let text := "notebooks:\n- src: a.py\n  dest: a@b\n"
  have hload : (Build.ofText text).map (fun b => (b.notebooks.filter Notebook.fails).map fun n =>
      (n.source, n.destination)) = .ok [("a.py", "a@b")] := by decide +kernel
  have herrors : (run (fun _ => .ok text) ["check", "build.yaml"]).errors =
      "a.py:\nThe \"@\" character is not allowed in destinations: \"a@b\"" ++ summary := by
    decide +kernel
  cases hbuild : Build.ofText text with
  | error e =>
    rw [hbuild] at hload
    cases hload
  | ok b =>
    rw [hbuild] at hload
    obtain ⟨n, hfailing, hn⟩ := List.map_eq_singleton_iff.1 (Except.ok.inj hload)
    obtain ⟨hsource, hdestination⟩ := Prod.mk.inj hn
    refine ⟨fun _ => .ok text, b, hbuild, by simp [hfailing], herrors,
      fun problems hmap hfaults => ?_⟩
    obtain ⟨⟨m, e⟩, rfl, hm⟩ := List.map_eq_singleton_iff.1 (hmap.trans hfailing)
    obtain rfl : n = m := hm.symm
    have hfault : DestinationFault n.destination e := hfaults (n, e) (List.mem_singleton_self _)
    have hat : '@' ∈ n.destination.toList := by
      rw [hdestination]
      decide
    have htext : (run (fun _ => .ok text) ["check", "build.yaml"]).errors =
        problemsText [(n, e)] ++ summary := by
      rw [herrors]
      cases hfault with
      | atSign _ =>
        rw [problemsText, List.map_singleton, String.join_cons, String.join_nil, hsource,
          hdestination]
        dsimp only
        decide
      | parse hno _ => exact absurd hat hno
    rw [htext, listed_iff atLineStart_empty hfaults]
    exact fun hno => hno (n, e) (List.mem_singleton_self _) hat

end CommandLine

end Stencil
