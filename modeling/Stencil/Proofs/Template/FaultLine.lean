import Stencil.Proofs.Bytes.Boundaries
import Stencil.Standalone

/-!
# The line of a fault

The message of a fault shows one line of the source and a caret below it. A position cuts the
source in two, and the line is the last line of the first part with the first line of the second
one: `exists_wholeLine` says that together they are a whole line. The main statement is
`caret_marks_fault`: this line holds the position of the fault, and the caret stands under the
character there.
-/

namespace Stencil

/-- A whole line of a text: no line feed stands in it, and on both sides of it stands a line feed or
an end of the text. -/
structure WholeLine (above line below : List Char) : Prop where
  unbroken : '\n' ∉ line
  starts : above = [] ∨ above.getLast? = some '\n'
  ends : below = [] ∨ below.head? = some '\n'

theorem lineFeed_notMem_takeWhile (cs : List Char) : '\n' ∉ cs.takeWhile (· != '\n') := by
  intro hmem
  have hne := List.all_eq_true.1 List.all_takeWhile '\n' hmem
  simp at hne

/-- What follows the first line is empty or begins with a line feed. -/
theorem head?_dropWhile_lineFeed (cs : List Char) :
    cs.dropWhile (· != '\n') = [] ∨ (cs.dropWhile (· != '\n')).head? = some '\n' := by
  have hstops := stops_dropWhile (· != '\n') cs
  cases h : cs.dropWhile (· != '\n') with
  | nil => exact .inl rfl
  | cons a as =>
    rw [h, stops_cons] at hstops
    have ha : a = '\n' := by simpa using hstops
    exact .inr (congrArg some ha)

/-- Around a place of a text, the last line before it and the first line after it are a whole
line. -/
theorem exists_wholeLine (before after : List Char) :
    ∃ above below, before = above ++ lastLine before ∧ after = firstLine after ++ below ∧
      WholeLine above (lastLine before ++ firstLine after) below := by
  refine ⟨_, after.dropWhile (· != '\n'), eq_append_lastLine before,
    List.takeWhile_append_dropWhile.symm, ?_, ?_, head?_dropWhile_lineFeed after⟩
  · rw [List.mem_append, lastLine, List.mem_reverse, not_or]
    exact ⟨lineFeed_notMem_takeWhile _, lineFeed_notMem_takeWhile _⟩
  · rw [List.reverse_eq_nil_iff, List.getLast?_reverse]
    exact head?_dropWhile_lineFeed _

/-- A character after a place stands on the line of the place, or it is the line feed that ends
it. -/
theorem getElem?_line_or_end {after below : List Char} (left : List Char)
    (hafter : after = firstLine after ++ below) (hends : below = [] ∨ below.head? = some '\n') :
    (∃ c, (left ++ firstLine after)[left.length]? = some c ∧ after.head? = some c) ∨
      (left.length = (left ++ firstLine after).length ∧
        (after = [] ∨ after.head? = some '\n')) := by
  cases hline : firstLine after with
  | nil =>
    rw [hline, List.nil_append] at hafter
    rw [List.append_nil, hafter]
    exact .inr ⟨rfl, hends⟩
  | cons c cs =>
    refine .inl ⟨c, by simp, ?_⟩
    rw [hafter, hline]
    rfl

/-- The message of a fault between two parts of a source. -/
theorem message_between {source : String} {before after : List Char}
    (h : source.toList = before ++ after) (r : Reason) :
    TemplateError.message (.parse source ⟨byteWidth before, r⟩) =
      "Failed to parse \"" ++ source ++ "\": " ++ r.message ++ "\n    " ++
        String.ofList (lastLine before ++ firstLine after) ++ "\n    " ++
        String.ofList (List.replicate (lastLine before).length ' ') ++ "^" := by
  unfold TemplateError.message
  dsimp only
  rw [lineAt_between h, blanks]

theorem Template.exists_within_of_compile_eq_error [Pattern.Engine] {source : String}
    {e : TemplateError} (h : Template.compile source = .error e) :
    ∃ c r, Cursor.Within source c ∧ e = .parse source ⟨c.offset, r⟩ := by
  unfold compile at h
  rcases (Scan.template_agrees source).cases with ⟨c, r, hc, -, hread⟩ | ⟨_, _, -, -, hread⟩
  · rw [hread] at h
    exact ⟨c, r, hc, (Except.error.inj h).symm⟩
  · rw [hread] at h
    cases h

/-- **The caret stands under the fault.** The message of a source that does not compile ends with
a line of the source and a caret below it. The line is the whole line that holds the position of the
fault, the caret is indented by the characters before the position, and so it stands under the
character there, or behind the line when the position is at the end of the line. -/
theorem caret_marks_fault [Pattern.Engine] {source : String} {e : TemplateError}
    (h : Template.compile source = .error e) :
    ∃ f above shown below k, e = .parse source f ∧
      source.toList = above ++ (shown ++ below) ∧ WholeLine above shown below ∧
      k ≤ shown.length ∧ f.position = byteWidth (above ++ shown.take k) ∧
      e.message = "Failed to parse \"" ++ source ++ "\": " ++ f.reason.message ++
        "\n    " ++ String.ofList shown ++ "\n    " ++ String.ofList (List.replicate k ' ') ++ "^" ∧
      let rest := dropBytes f.position source.toList
      (∃ c, shown[k]? = some c ∧ rest.head? = some c) ∨
        (k = shown.length ∧ (rest = [] ∨ rest.head? = some '\n')) := by
  obtain ⟨⟨offset, after⟩, r, hc, rfl⟩ := Template.exists_within_of_compile_eq_error h
  obtain ⟨before, hsource, rfl⟩ : ∃ before, source.toList = before ++ after ∧
    offset = byteWidth before := hc.exists_before
  obtain ⟨above, below, habove, hbelow, hline⟩ := exists_wholeLine before after
  have hleft : (lastLine before ++ firstLine after).take (lastLine before).length =
      lastLine before := List.take_left
  refine ⟨⟨byteWidth before, r⟩, above, lastLine before ++ firstLine after, below,
    (lastLine before).length, rfl, ?_, hline, ?_, ?_, message_between hsource r, ?_⟩
  · rw [List.append_assoc, ← hbelow, ← List.append_assoc, ← habove, hsource]
  · rw [List.length_append]
    exact Nat.le_add_right _ _
  · rw [hleft, ← habove]
  · dsimp only
    rw [hsource, dropBytes_append]
    exact getElem?_line_or_end (lastLine before) hbelow hline.ends

/-- An empty subscript on the second of three lines, after characters of two bytes. -/
theorem caret_marks_fault_second_line :
    Template.compile "é\nü$\x7ba[]\x7d\nz" =
        .error (.parse "é\nü$\x7ba[]\x7d\nz" ⟨8, .emptySubscript⟩) ∧
      (TemplateError.parse "é\nü$\x7ba[]\x7d\nz" ⟨8, .emptySubscript⟩).message =
        "Failed to parse \"é\nü$\x7ba[]\x7d\nz\": empty subscript\n    ü$\x7ba[]\x7d\n        ^" ∧
      ∃ above shown below k, "é\nü$\x7ba[]\x7d\nz".toList = above ++ (shown ++ below) ∧
        WholeLine above shown below ∧ 8 = byteWidth (above ++ shown.take k) ∧
        shown[k]? = some '[' := by
  have hcompile : Template.compile "é\nü$\x7ba[]\x7d\nz" =
      .error (.parse "é\nü$\x7ba[]\x7d\nz" ⟨8, .emptySubscript⟩) := by decide +kernel
  have hhead : (dropBytes 8 "é\nü$\x7ba[]\x7d\nz".toList).head? = some '[' := by decide +kernel
  obtain ⟨f, above, shown, below, k, hf, hcut, hline, -, hposition, -, hmark⟩ :=
    caret_marks_fault hcompile
  cases hf
  refine ⟨hcompile, by decide +kernel, above, shown, below, k, hcut, hline, hposition, ?_⟩
  rcases hmark with ⟨c, hc, hrest⟩ | ⟨-, hnil | hbreak⟩
  · exact hc.trans (hrest.symm.trans hhead)
  · rw [hnil] at hhead
    cases hhead
  · cases hbreak.symm.trans hhead

end Stencil
