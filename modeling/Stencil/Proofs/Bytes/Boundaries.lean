import Stencil.Template.Deferral
import Stencil.Proofs.Bytes.Source

/-!
# Offsets are boundaries

The spans of a compiled template and the position of a fault are byte offsets, and the source is cut
at them later: where a template is expanded in part, and where the line of a fault is shown. Both
are given here with every cut checked, so that they give nothing where one is not at a boundary. The
main statement is `Template.compile_on_boundaries`: the scanner of the source and these two always
give something, and it is what is given without a check.
-/

namespace Stencil

/-- Neighbouring parts of a text are cut at the sums of their widths. -/
theorem cut?_append {source : String} {as bs cs : List Char}
    (h : source.toList = as ++ (bs ++ cs)) :
    cut? source (byteWidth as) (byteWidth as + byteWidth bs) = some (String.ofList bs) := by
  have hwithin : (⟨byteWidth as, bs ++ cs⟩ : Cursor).Within source :=
    (Cursor.Within.ofText source).reads ⟨h, (Nat.zero_add _).symm⟩
  exact hwithin.cut?_eq (d := ⟨byteWidth as + byteWidth bs, cs⟩) ⟨rfl, rfl⟩

/-! ## Partial expansion -/

theorem Node.span_mem_spans (n : Node) : n.span ∈ n.spans := by
  cases n <;> exact List.mem_cons_self

/-- What a node of a partly expanded template is written as; `text` is what it was read from. -/
def Node.writeFrom (text : String) (env : Environment) (deferred : List String) (n : Node) :
    String :=
  match n with
  | .literal _ _ => text
  | .variable v =>
    if deferred.contains v.name then
      if v.braced then text else "$\x7b" ++ v.name ++ "\x7d"
    else escapeText (expandLenient env [n]).1
  | _ => if n.mentionsAny deferred then text else escapeText (expandLenient env [n]).1

theorem Node.writeFrom_slice (source : String) (env : Environment) (deferred : List String)
    (n : Node) : n.writeFrom (n.span.slice source) env deferred = n.defer source env deferred := by
  cases n <;> rfl

/-- Cuts every node out of the source, and writes it. -/
def Template.partialSubstitute? (t : Template) (env : Environment) (deferred : List String) :
    Option String := do
  let texts ← t.nodes.mapM fun n => do
    let text ← cut? t.source n.span.start n.span.stop
    pure (n.writeFrom text env deferred)
  pure (String.join texts)

theorem Span.Fits.cut?_eq {source : String} {s : Span} (h : s.Fits source) :
    cut? source s.start s.stop = some (s.slice source) :=
  if_pos ⟨h.le, h.start, h.stop⟩

theorem mapM_eq_some {α β : Type} {f : α → Option β} {g : α → β} {l : List α}
    (h : ∀ a ∈ l, f a = some (g a)) : l.mapM f = some (l.map g) := by
  induction l with
  | nil => rfl
  | cons a l ih =>
    rw [List.mapM_cons, h a List.mem_cons_self, ih fun b hb => h b (List.mem_cons_of_mem a hb)]
    rfl

theorem Template.partialSubstitute?_eq {t : Template}
    (h : AllFit t.source (t.nodes.flatMap Node.spans)) (env : Environment)
    (deferred : List String) :
    t.partialSubstitute? env deferred = some (t.partialSubstitute env deferred) := by
  have hwrite : ∀ n ∈ t.nodes,
      (cut? t.source n.span.start n.span.stop >>= fun text =>
        pure (n.writeFrom text env deferred)) = some (n.defer t.source env deferred) := by
    intro n hn
    have hfits := h _ (List.mem_flatMap.2 ⟨n, hn, n.span_mem_spans⟩)
    rw [hfits.cut?_eq, ← n.writeFrom_slice]
    rfl
  rw [partialSubstitute?, mapM_eq_some hwrite]
  rfl

/-! ## Messages -/

/-- The offset after the last line feed of a text, or 0. -/
def lastLineStart (text : String) : Nat :=
  text.utf8ByteSize - ((bytes text).reverse.takeWhile (· != '\n')).length

/-- The offset of the first line feed of a text, or its end. -/
def firstLineEnd (text : String) : Nat :=
  ((bytes text).takeWhile (· != '\n')).length

/-- The message of a fault, with the line and what is before the position on it cut out of the
source. -/
def Fault.message? (source : String) (f : Fault) : Option String := do
  let position := min f.position source.utf8ByteSize
  let before ← cut? source 0 position
  let after ← cut? source position source.utf8ByteSize
  let lineStart := lastLineStart before
  let line ← cut? source lineStart (position + firstLineEnd after)
  let left ← cut? source lineStart position
  pure ("Failed to parse \"" ++ source ++ "\": " ++ f.reason.message ++ "\n    " ++ line ++
    "\n    " ++ blanks left.length ++ "^")

theorem bytewise_lineFeed : Bytewise (· != '\n') :=
  bytewise_ne (by decide)

theorem firstLineEnd_eq (cs : List Char) :
    firstLineEnd (String.ofList cs) = byteWidth (firstLine cs) := by
  rw [firstLineEnd, bytes_eq, String.toList_ofList, takeWhile_flatMap_encode bytewise_lineFeed,
    length_flatMap_encode]
  rfl

/-- A text is what is above its last line, and this line. -/
theorem eq_append_lastLine (cs : List Char) :
    cs = (cs.reverse.dropWhile (· != '\n')).reverse ++ lastLine cs := by
  rw [lastLine, ← List.reverse_append, List.takeWhile_append_dropWhile, List.reverse_reverse]

/-- The line at the place between two parts of a source. -/
theorem lineAt_between {source : String} {before after : List Char}
    (h : source.toList = before ++ after) :
    lineAt source (byteWidth before) =
      (String.ofList (lastLine before ++ firstLine after), (lastLine before).length) := by
  rw [lineAt, h, takeBytes_append, dropBytes_append]

/-- The last line of a text begins where the text above it ends. -/
theorem exists_lastLine (cs : List Char) :
    ∃ above, cs = above ++ lastLine cs ∧ lastLineStart (String.ofList cs) = byteWidth above := by
  have hsplit := eq_append_lastLine cs
  have hne : ∀ c, (List.reverse ∘ encode) c ≠ [] := fun c =>
    mt List.reverse_eq_nil_iff.1 (encode_ne_nil c)
  have hbackward : ∀ c, ∀ b ∈ (List.reverse ∘ encode) c, (b != '\n') = (c != '\n') :=
    fun _ _ hb => bytewise_lineFeed.apply_eq (List.mem_reverse.1 hb)
  have hline : (bytes (String.ofList cs)).reverse.takeWhile (· != '\n') =
      ((lastLine cs).flatMap encode).reverse := by
    rw [bytes_eq, String.toList_ofList, List.reverse_flatMap,
      takeWhile_flatMap hne hbackward, lastLine, List.reverse_flatMap, List.reverse_reverse]
  refine ⟨_, hsplit, ?_⟩
  have hwidth := congrArg byteWidth hsplit
  rw [byteWidth_append] at hwidth
  rw [lastLineStart, hline, List.length_reverse, length_flatMap_encode, utf8ByteSize_eq,
    String.toList_ofList]
  omega

theorem Fault.message?_eq {source : String} {c : Cursor} (hc : c.Within source) (r : Reason) :
    Fault.message? source ⟨c.offset, r⟩ =
      some (TemplateError.message (.parse source ⟨c.offset, r⟩)) := by
  obtain ⟨before, hsource, hoffset⟩ := hc.exists_before
  obtain ⟨above, habove, hstart⟩ := exists_lastLine before
  have hbelow : c.rest = firstLine c.rest ++ c.rest.dropWhile (· != '\n') :=
    List.takeWhile_append_dropWhile.symm
  -- the source, around the part of the line before the position, and around the line
  have haround : source.toList = above ++ (lastLine before ++ c.rest) := by
    rw [hsource, ← List.append_assoc, ← habove]
  have haroundLine : source.toList =
      above ++ ((lastLine before ++ firstLine c.rest) ++ c.rest.dropWhile (· != '\n')) := by
    rw [List.append_assoc, ← hbelow, haround]
  have hsize : source.utf8ByteSize = c.offset + byteWidth c.rest := by
    rw [utf8ByteSize_eq, hsource, byteWidth_append, hoffset]
  have hleft : c.offset = byteWidth above + byteWidth (lastLine before) := by
    rw [hoffset, ← byteWidth_append, ← habove]
  have hline : c.offset + byteWidth (firstLine c.rest) =
      byteWidth above + byteWidth (lastLine before ++ firstLine c.rest) := by
    rw [hleft, byteWidth_append, Nat.add_assoc]
  have hbefore : cut? source 0 c.offset = some (String.ofList before) := by
    have hsplit : source.toList = [] ++ (before ++ c.rest) := hsource
    have hcut := cut?_append hsplit
    rwa [byteWidth_nil, Nat.zero_add, ← hoffset] at hcut
  have hafter : cut? source c.offset source.utf8ByteSize = some (String.ofList c.rest) := by
    have hsplit : source.toList = before ++ (c.rest ++ []) := by rw [List.append_nil, hsource]
    rw [hsize, hoffset, cut?_append hsplit]
  have hcutLine : cut? source (byteWidth above) (c.offset + byteWidth (firstLine c.rest)) =
      some (String.ofList (lastLine before ++ firstLine c.rest)) := by
    rw [hline, cut?_append haroundLine]
  have hcutLeft : cut? source (byteWidth above) c.offset =
      some (String.ofList (lastLine before)) := by
    rw [hleft, cut?_append haround]
  have hlineAt : lineAt source c.offset =
      (String.ofList (lastLine before ++ firstLine c.rest), (lastLine before).length) := by
    rw [hoffset, lineAt_between hsource]
  unfold Fault.message? TemplateError.message
  simp only [Nat.min_eq_left hc.boundary.le, hbefore, Option.bind_eq_bind, Option.bind_some]
  rw [hafter, Option.bind_some, hstart, firstLineEnd_eq, hcutLine, Option.bind_some, hcutLeft,
    Option.bind_some, String.length_ofList]
  simp only [hlineAt, Option.pure_def]

/-- Every offset is a boundary: the scanner of a source never cuts inside a character and gives what
the reader gives; all spans of a compiled template and the position of a fault can be cut at, and so
neither a partial expansion nor the message of the fault cuts inside a character. -/
theorem Template.compile_on_boundaries [Pattern.Engine] (source : String) :
    (Scan.template source).run = some (Template.read source) ∧
      match Template.compile source with
      | .ok t =>
        AllFit source (t.nodes.flatMap Node.spans) ∧
          ∀ env deferred,
            t.partialSubstitute? env deferred = some (t.partialSubstitute env deferred)
      | .error e =>
        ∃ f, e = .parse source f ∧ f.position ≤ source.utf8ByteSize ∧
          Boundary source f.position ∧ Fault.message? source f = some e.message := by
  unfold compile
  rcases (Scan.template_agrees source).cases with
    ⟨d, r, hd, hx, hy⟩ | ⟨ns, _, ⟨rfl, hfit⟩, hx, hy⟩
  · rw [hx, hy]
    exact ⟨rfl, _, rfl, hd.boundary.le, hd.boundary, Fault.message?_eq hd r⟩
  · rw [hx, hy]
    exact ⟨rfl, hfit, Template.partialSubstitute?_eq hfit⟩

end Stencil
