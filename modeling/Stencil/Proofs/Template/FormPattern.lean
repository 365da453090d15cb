import Stencil.Proofs.Pattern.Anchored
import Stencil.Proofs.Pattern.Literal
import Stencil.Proofs.Pattern.Weight
import Stencil.Proofs.Template.Search

/-!
# The patterns of the forms

A search for a name goes by five patterns, in which the name is escaped. Each of them is a pattern,
whatever the name (`Form.read?_pattern`), and cuts a text at a part with a tail behind it. The words
of part and tail are the references of the form, so a pattern cuts a text at the last reference of
its form (`Form.cutBy?_eq`). An engine may still have no room for a pattern; when it has room for
all five, a search finds what the readers find (`search_eq_find?`). The engine that stands alone has
room for the five patterns of any name of at most 327373 bytes (`searchable_iff_byteWidth`).
-/

namespace Stencil

namespace Pattern

/-! ## Reading escaped characters -/

theorem piece?_escaped {r : Draft} {c : Char} (hc : isMeta c) (cs : List Char) :
    piece? r ('\\' :: c :: cs) = some (r.pushLiteral c, cs) := by
  simp only [isMeta, List.contains_iff_mem, List.mem_cons, List.not_mem_nil, or_false] at hc
  rcases hc with rfl | rfl | rfl | rfl | rfl | rfl | rfl | rfl | rfl | rfl | rfl | rfl | rfl | rfl |
    rfl | rfl | rfl | rfl <;> rfl

theorem isPlain_of_isMeta_eq_false {c : Char} (hc : isMeta c = false) : IsPlain c := by
  intro hmem
  have hall : metaCharacters.all isMeta := by decide
  rw [List.all_eq_true.1 hall c hmem] at hc
  cases hc

theorem length_le_length_escape (w : List Char) : w.length ≤ (escape w).length := by
  induction w with
  | nil => exact Nat.le_refl _
  | cons c cs ih =>
    rw [escape, List.flatMap_cons, List.length_append, List.length_cons]
    split_ifs <;> simp only [List.length_cons, List.length_nil] <;> unfold escape at ih <;> omega

end Pattern

namespace Occurrence

open Pattern

/-! ## What the patterns say -/

/-- Any number of characters of a set. -/
def many (t : CharSet) : Expr :=
  .rounds 0 none true (.set t)

/-- A character or nothing. -/
def maybe (c : Char) : Expr :=
  .rounds 0 (some 1) true (.char c)

/-- The characters that no name has. -/
def notName : CharSet :=
  .compl (.union (.union (.union (.union .none (.range 'A' 'Z')) (.range 'a' 'z'))
    (.range '0' '9')) (.single '_'))

/-- The characters of the strings of a ternary. -/
def unmarked : CharSet :=
  .compl (.union (.union (.union .none (.single '}')) (.single '?')) (.single ':'))

/-- The characters that a comparison begins with. -/
def mark : CharSet :=
  .union (.union .none (.single '=')) (.single '!')

/-- Blanks. -/
def blanks : Item :=
  ⟨some (many (.property .whiteSpace)), 1⟩

/-- A string with blanks around it, and the character behind it. -/
def quoted (close : Char) : List Item :=
  [blanks, literalItem '"', ⟨some (many unmarked), 2⟩, literalItem '"', blanks, literalItem close]

/-- The text of a string with blanks around it, and of the character behind it. -/
def quotedText (close : String) : List Char :=
  "\\s*\"[^\x7d?:]*\"\\s*".toList ++ close.toList

/-- How a reference begins. -/
def Form.lead : Form → List Char
  | .bare | .bareAtEnd => ['$']
  | _ => ['$', '{']

/-- What stands behind the name in a reference. -/
def Form.items : Form → List Item
  | .braced => [literalItem '}']
  | .subscripted =>
    [literalItem '[', ⟨some (maybe '-'), 1⟩, ⟨some (many (.property .digit)), 1⟩,
      ⟨some (maybe ':'), 1⟩, ⟨some (maybe '-'), 1⟩, ⟨some (many (.property .digit)), 1⟩,
      literalItem ']', literalItem '}']
  | .bare | .bareAtEnd => []
  | .ternary =>
    [blanks, ⟨some (.set mark), 1⟩, literalItem '='] ++
      (quoted '?' ++ (quoted ':' ++ quoted '}'))

/-- A reference to a name. -/
def Form.part (name : List Char) (form : Form) : Expr :=
  .sequence ((form.lead ++ name).map .char ++ form.items.filterMap (·.expr?))

/-- What may follow a reference. -/
def Form.tail : Form → Expr
  | .bare => .sequence [.set notName, many .any]
  | .bareAtEnd => .empty
  | _ => many .any

/-- What the pattern of a form says. -/
def Form.expr (name : List Char) (form : Form) : Expr :=
  .cut (form.part name) form.tail

/-- The text of the items behind the name. -/
def Form.behind : Form → List Char
  | .braced => "\\\x7d".toList
  | .subscripted => "\\[-?\\d*:?-?\\d*\\]\\\x7d".toList
  | .bare | .bareAtEnd => []
  | .ternary => "\\s*[=!]=".toList ++ (quotedText "\\?" ++ (quotedText ":" ++ quotedText "\\\x7d"))

/-- The text of a pattern behind its second group. -/
def Form.close : Form → List Char
  | .bare => ")([^A-Za-z0-9_].*)$".toList
  | .bareAtEnd => ")()$".toList
  | _ => ")(.*)$".toList

/-- A pattern is put together around the name. -/
theorem Form.toList_pattern (name : String) (form : Form) :
    (form.pattern name).toList = "(?s)^(.*)(".toList ++
      ((escape (form.lead ++ name.toList) ++ form.behind) ++ form.close) := by
  have hescape : escape (form.lead ++ name.toList) = escape form.lead ++ escape name.toList :=
    List.flatMap_append
  have haround : ∀ before behind : String,
      before.toList = "(?s)^(.*)(".toList ++ escape form.lead →
      behind.toList = form.behind ++ form.close →
      (before ++ String.ofList (escape name.toList) ++ behind).toList = "(?s)^(.*)(".toList ++
        ((escape (form.lead ++ name.toList) ++ form.behind) ++ form.close) := by
    intro before behind hbefore hbehind
    rw [String.toList_append, String.toList_append, String.toList_ofList, hbefore, hbehind, hescape]
    simp only [List.append_assoc]
  cases form with
  | braced | subscripted | bare | bareAtEnd | ternary => exact haround _ _ rfl rfl

/-! ## Reading the patterns -/

/-- The draft of a pattern inside its second group. -/
def inside (items : List Item) : Draft where
  flags := { dotAll := true }
  level := ⟨some 2, { dotAll := true }, [], items⟩
  stack := [⟨none, {}, [], [⟨some .beginning, 2⟩, ⟨some (.look .textStart), 0⟩, ⟨none, 0⟩]⟩]
  groups := 2
  names := []

/-- The draft of a pattern at its end. -/
def ended (items : List Item) (tail : Item) : Draft where
  flags := { dotAll := true }
  level := ⟨none, {}, [], [⟨some (.look .textEnd), 0⟩, tail,
    ⟨some (.group (some 2) ((Item.sequence items.reverse).expr?.getD .empty)),
      1 + (Item.sequence items.reverse).depth⟩,
    ⟨some .beginning, 2⟩, ⟨some (.look .textStart), 0⟩, ⟨none, 0⟩]⟩
  stack := []
  groups := 3
  names := []

theorem pieces?_beginning (n : Nat) (cs : List Char) :
    pieces? (n + 7) .start ("(?s)^(.*)(".toList ++ '\\' :: cs) =
      pieces? n (inside []) ('\\' :: cs) := rfl

/-- Inside the second group a text is read as some items, whatever stands around it. -/
def Gives (text : List Char) (items : List Item) : Prop :=
  ∃ k ≤ text.length, ∀ n earlier rest,
    pieces? (n + k) (inside earlier) (text ++ rest) =
      pieces? n (inside (items.reverse ++ earlier)) rest

theorem Gives.append {text text' : List Char} {items items' : List Item} (h : Gives text items)
    (h' : Gives text' items') : Gives (text ++ text') (items ++ items') := by
  obtain ⟨k, hk, hread⟩ := h
  obtain ⟨k', hk', hread'⟩ := h'
  refine ⟨k' + k, by rw [List.length_append]; omega, fun n earlier rest => ?_⟩
  rw [← Nat.add_assoc, List.append_assoc, hread, hread', List.reverse_append, List.append_assoc]

theorem gives_nil : Gives [] [] :=
  ⟨0, Nat.le_refl 0, fun _ _ _ => rfl⟩

/-- An escaped character is read as it stands. -/
theorem gives_escape_singleton (c : Char) : Gives (escape [c]) [literalItem c] := by
  refine ⟨1, length_le_length_escape [c], fun n earlier rest => ?_⟩
  rw [escape, List.flatMap_singleton]
  -- blanks are read like other characters here
  have hskip : ∀ cs, skipSpace (inside earlier).flags.verbose cs = cs := fun _ => rfl
  rw [pieces?, hskip]
  by_cases hc : isMeta c
  · rw [if_pos hc]
    simp only [List.cons_append, List.nil_append, piece?_escaped hc]
    rfl
  · rw [if_neg hc]
    simp only [List.cons_append, List.nil_append,
      piece?_plain (isPlain_of_isMeta_eq_false (by simpa using hc))]
    rfl

theorem gives_escape (w : List Char) : Gives (escape w) (w.map literalItem) := by
  induction w with
  | nil => exact gives_nil
  | cons c cs ih =>
    have hcons : escape ([c] ++ cs) = escape [c] ++ escape cs := List.flatMap_append
    rw [List.singleton_append] at hcons
    rw [hcons]
    exact (gives_escape_singleton c).append ih

theorem gives_quotedText : Gives (quotedText "\\?") (quoted '?') ∧
    Gives (quotedText ":") (quoted ':') ∧ Gives (quotedText "\\\x7d") (quoted '}') :=
  ⟨⟨9, by decide, fun _ _ _ => rfl⟩, ⟨9, by decide, fun _ _ _ => rfl⟩,
    ⟨9, by decide, fun _ _ _ => rfl⟩⟩

theorem Form.gives_behind (form : Form) : Gives form.behind form.items := by
  obtain ⟨hquestion, hcolon, hbrace⟩ := gives_quotedText
  cases form with
  | braced => exact ⟨1, by decide, fun _ _ _ => rfl⟩
  | subscripted => exact ⟨13, by decide, fun _ _ _ => rfl⟩
  | bare | bareAtEnd => exact gives_nil
  | ternary =>
    have hcomparison : Gives "\\s*[=!]=".toList
        [blanks, ⟨some (.set mark), 1⟩, literalItem '='] := ⟨4, by decide, fun _ _ _ => rfl⟩
    exact hcomparison.append (hquestion.append (hcolon.append hbrace))

theorem Form.pieces?_close (form : Form) :
    ∃ k d, k ≤ form.close.length ∧ d ≤ 4 ∧ ∀ n items,
      pieces? (n + k + 1) (inside items) form.close =
        some (ended items ⟨some (.group (some 3) form.tail), d⟩) := by
  cases form with
  | bare => exact ⟨7, 3, by decide, by decide, fun _ _ => rfl⟩
  | bareAtEnd => exact ⟨4, 1, by decide, by decide, fun _ _ => rfl⟩
  | braced | subscripted | ternary => exact ⟨6, 2, by decide, by decide, fun _ _ => rfl⟩

/-- The pieces of a reference. -/
def Form.pieces (name : List Char) (form : Form) : List Item :=
  (form.lead ++ name).map literalItem ++ form.items

theorem Form.depth_le {form : Form} {name : List Char} {i : Item} (hi : i ∈ form.pieces name) :
    i.depth ≤ 2 := by
  have hitems : ∀ j ∈ form.items, j.depth ≤ 2 := by
    cases form <;> decide
  rcases List.mem_append.1 hi with hi | hi
  · obtain ⟨c, -, rfl⟩ := List.mem_map.1 hi
    exact Nat.zero_le 2
  · exact hitems i hi

theorem Form.part_eq (name : List Char) (form : Form) :
    form.part name = .sequence ((form.pieces name).filterMap (·.expr?)) := by
  rw [pieces, List.filterMap_append, filterMap_literals, part]

/-- The pattern of a form is read up to its end. -/
theorem Form.pieces?_pattern (name : String) (form : Form) :
    ∃ d ≤ 4, pieces? (form.pattern name).toList.length .start (form.pattern name).toList =
      some (ended (form.pieces name.toList).reverse ⟨some (.group (some 3) form.tail), d⟩) := by
  obtain ⟨k, hk, hgives⟩ := (gives_escape (form.lead ++ name.toList)).append form.gives_behind
  obtain ⟨k', d, hk', hd, hclose⟩ := form.pieces?_close
  obtain ⟨cs, hopen⟩ : ∃ cs,
      (escape (form.lead ++ name.toList) ++ form.behind) ++ form.close = '\\' :: cs := by
    cases form <;> exact ⟨_, rfl⟩
  refine ⟨d, hd, ?_⟩
  rw [form.toList_pattern]
  generalize escape (form.lead ++ name.toList) ++ form.behind = text at *
  have hlength : ("(?s)^(.*)(".toList ++ (text ++ form.close)).length =
      10 + (text.length + form.close.length) := by
    simp only [List.length_append]
    rfl
  obtain ⟨n, hn⟩ : ∃ n, 10 + (text.length + form.close.length) = n + k' + 1 + k + 7 :=
    ⟨10 + (text.length + form.close.length) - (k' + 1 + k + 7), by omega⟩
  rw [hlength, hn, hopen, pieces?_beginning, ← hopen, hgives, hclose, List.append_nil]
  rfl

/-- **Every pattern is one**, whatever the name. -/
theorem Form.read?_pattern (name : String) (form : Form) :
    Expr.read? false (form.pattern name).toList = some (form.expr name.toList) := by
  obtain ⟨d, hd, hread⟩ := form.pieces?_pattern name
  let part : Item := Item.sequence (form.pieces name.toList)
  let whole : List Item := [⟨none, 0⟩, ⟨some (.look .textStart), 0⟩, ⟨some .beginning, 2⟩,
    ⟨some (.group (some 2) (part.expr?.getD .empty)), 1 + part.depth⟩,
    ⟨some (.group (some 3) form.tail), d⟩, ⟨some (.look .textEnd), 0⟩]
  have hfinish : (ended (form.pieces name.toList).reverse
      ⟨some (.group (some 3) form.tail), d⟩).level.finish = Item.sequence whole := by
    simp only [ended, Level.finish, Item.choice, List.reverse_reverse]
    rfl
  have hpart : part.depth ≤ 3 := Item.depth_sequence_le fun i hi => Form.depth_le hi
  have hdepth : (Item.sequence whole).depth ≤ maxDepth := by
    refine Nat.le_trans (Item.depth_sequence_le (d := 4) ?_) (by decide)
    simp only [whole, List.forall_mem_cons, List.not_mem_nil, false_imp_iff, implies_true, and_true]
    omega
  rw [Expr.read?_of_pieces hread rfl, hfinish, if_pos hdepth, Item.expr?_sequence]
  simp only [whole, part, Item.expr?_sequence, ← Form.part_eq]
  rfl

/-! ## The words of the patterns -/

theorem contains_single_iff {c d : Char} : (CharSet.single d).contains c ↔ c = d := by
  simp only [CharSet.single, CharSet.contains, Bool.and_eq_true, decide_eq_true_iff]
  constructor
  · exact fun h => Char.le_antisymm h.2 h.1
  · rintro rfl
    exact ⟨Char.le_refl c, Char.le_refl c⟩

theorem contains_unmarked (c : Char) : unmarked.contains c = isPlain c := by
  rw [Bool.eq_iff_iff]
  simp [unmarked, CharSet.contains, contains_single_iff, isPlain, ← Bool.not_eq_true, and_assoc]

theorem contains_notName_iff {c : Char} : notName.contains c ↔ isNameChar c = false := by
  have hname : notName.contains c = !isNameChar c := by
    rw [notName, CharSet.contains]
    congr 1
    rw [Bool.eq_iff_iff, isNameChar_iff]
    simp [CharSet.contains, contains_single_iff, or_assoc]
  rw [hname, Bool.not_eq_true']

theorem reads_chars_iff {w v : List Char} {es : List Expr} :
    (Expr.sequence (w.map .char ++ es)).Reads v ↔ ∃ u, v = w ++ u ∧ (Expr.sequence es).Reads u := by
  induction w generalizing v with
  | nil => simp
  | cons c cs ih =>
    rw [List.map_cons, List.cons_append, Expr.reads_sequence_cons]
    constructor
    · rintro ⟨_, v, rfl, rfl, hv⟩
      obtain ⟨u, rfl, hu⟩ := ih.1 hv
      exact ⟨u, rfl, hu⟩
    · rintro ⟨u, rfl, hu⟩
      exact ⟨[c], cs ++ u, rfl, rfl, ih.2 ⟨u, rfl, hu⟩⟩

theorem Form.wordy_part (name : List Char) (form : Form) : (form.part name).Wordy := by
  have hmany : ∀ t, (many t).Wordy := .star true
  have hmaybe : ∀ c, (maybe c).Wordy := fun c => .optional true (.char c)
  have hitems : ∀ i ∈ form.items, ∀ e ∈ i.expr?, e.Wordy := by
    cases form <;>
      simp [items, quoted, literalItem, blanks, hmany, hmaybe, Expr.Wordy.char, Expr.Wordy.set]
  refine .sequence fun e he => ?_
  rcases List.mem_append.1 he with he | he
  · obtain ⟨c, -, rfl⟩ := List.mem_map.1 he
    exact .char c
  · obtain ⟨i, hi, hie⟩ := List.mem_filterMap.1 he
    exact hitems i hi e hie

theorem Form.wordy_tail (form : Form) : form.tail.Wordy := by
  cases form with
  | bare => exact .seq (.set _) (.star _ _)
  | bareAtEnd => exact .empty
  | braced | subscripted | ternary => exact .star _ _

section

variable {es : List Expr} {u : List Char}

theorem reads_nil_iff : (Expr.sequence []).Reads u ↔ u = [] :=
  Iff.rfl

theorem reads_char_iff {c : Char} :
    (Expr.sequence (.char c :: es)).Reads u ↔ ∃ v, u = c :: v ∧ (Expr.sequence es).Reads v := by
  rw [← List.singleton_append, ← List.map_singleton (f := Expr.char), reads_chars_iff]
  simp

theorem reads_set_iff {t : CharSet} :
    (Expr.sequence (.set t :: es)).Reads u ↔
      ∃ c v, u = c :: v ∧ t.contains c = true ∧ (Expr.sequence es).Reads v := by
  rw [Expr.reads_sequence_cons]
  constructor
  · rintro ⟨_, v, rfl, ⟨c, hc, rfl⟩, hv⟩
    exact ⟨c, v, rfl, hc, hv⟩
  · rintro ⟨c, v, rfl, hc, hv⟩
    exact ⟨[c], v, rfl, ⟨c, hc, rfl⟩, hv⟩

theorem reads_many_iff {t : CharSet} :
    (Expr.sequence (many t :: es)).Reads u ↔
      ∃ w v, u = w ++ v ∧ (∀ c ∈ w, t.contains c = true) ∧ (Expr.sequence es).Reads v :=
  Expr.reads_sequence_cons

theorem reads_maybe_iff {c : Char} :
    (Expr.sequence (maybe c :: es)).Reads u ↔
      ∃ w v, u = w ++ v ∧ (w = [] ∨ w = [c]) ∧ (Expr.sequence es).Reads v :=
  Expr.reads_sequence_cons

/-- A string with blanks around it, and the character behind it. -/
theorem reads_quoted_iff {close : Char} :
    (Expr.sequence ((quoted close).filterMap (·.expr?) ++ es)).Reads u ↔
      ∃ w v, u = w ++ close :: v ∧ IsQuoted w ∧ (Expr.sequence es).Reads v := by
  have hexprs : (quoted close).filterMap (·.expr?) ++ es =
      many (.property .whiteSpace) :: .char '"' :: many unmarked :: .char '"' ::
        many (.property .whiteSpace) :: .char close :: es := rfl
  simp only [hexprs, reads_many_iff, reads_char_iff, contains_unmarked]
  constructor
  · rintro ⟨gap, _, rfl, hgap, _, rfl, body, _, rfl, hbody, _, rfl, gap', _, rfl, hgap', v, rfl, hv⟩
    exact ⟨gap ++ '"' :: (body ++ '"' :: gap'), v, by simp,
      ⟨gap, body, gap', rfl, hgap, hbody, hgap'⟩, hv⟩
  · rintro ⟨_, v, rfl, ⟨gap, body, gap', rfl, hgap, hbody, hgap'⟩, hv⟩
    exact ⟨gap, _, by simp only [List.append_assoc, List.cons_append], hgap, _, rfl, body, _, rfl,
      hbody, _, rfl, gap', _, rfl, hgap', v, rfl, hv⟩

/-- Two bounds with or without a colon between them. -/
theorem reads_subscript_iff :
    (Expr.sequence (maybe '-' :: many (.property .digit) :: maybe ':' :: maybe '-' ::
        many (.property .digit) :: es)).Reads u ↔
      ∃ w v, u = w ++ v ∧ IsSubscript w ∧ (Expr.sequence es).Reads v := by
  simp only [reads_maybe_iff, reads_many_iff]
  constructor
  · rintro ⟨sign, _, rfl, hsign, digits, _, rfl, hdigits, colon, _, rfl, hcolon, sign', _, rfl,
      hsign', digits', v, rfl, hdigits', hv⟩
    exact ⟨(sign ++ digits) ++ (colon ++ (sign' ++ digits')), v, by simp,
      ⟨_, colon, _, rfl, ⟨sign, digits, rfl, hsign, hdigits⟩, hcolon,
        sign', digits', rfl, hsign', hdigits'⟩, hv⟩
  · rintro ⟨_, v, rfl, ⟨_, colon, _, rfl, ⟨sign, digits, rfl, hsign, hdigits⟩, hcolon,
      sign', digits', rfl, hsign', hdigits'⟩, hv⟩
    exact ⟨sign, _, by simp only [List.append_assoc], hsign, digits, _, rfl, hdigits, colon, _, rfl,
      hcolon, sign', _, rfl, hsign', digits', v, rfl, hdigits', hv⟩

/-- A comparison with blanks before it. -/
theorem reads_comparison_iff :
    (Expr.sequence (many (.property .whiteSpace) :: .set mark :: .char '=' :: es)).Reads u ↔
      ∃ gap comparison v, u = gap ++ (comparison ++ v) ∧ IsBlank gap ∧
        (comparison = ['=', '='] ∨ comparison = ['!', '=']) ∧ (Expr.sequence es).Reads v := by
  have hmark : ∀ c, mark.contains c = true ↔ c = '=' ∨ c = '!' := fun c => by
    simp [mark, CharSet.contains, contains_single_iff]
  simp only [reads_many_iff, reads_set_iff, reads_char_iff, hmark]
  constructor
  · rintro ⟨gap, _, rfl, hgap, c, _, rfl, hc, v, rfl, hv⟩
    exact ⟨gap, [c, '='], v, rfl, hgap, hc.imp (by rintro rfl; rfl) (by rintro rfl; rfl), hv⟩
  · rintro ⟨gap, comparison, v, rfl, hgap, rfl | rfl, hv⟩
    · exact ⟨gap, _, rfl, hgap, _, _, rfl, .inl rfl, v, rfl, hv⟩
    · exact ⟨gap, _, rfl, hgap, _, _, rfl, .inr rfl, v, rfl, hv⟩

end

/-- **The words of a pattern are the references of its form.** -/
theorem Form.refers_iff_reads {name w r : List Char} (form : Form) :
    form.Refers name w r ↔ (form.part name).Reads w ∧ form.tail.Reads r := by
  have hany : ∀ r, (many .any).Reads r := fun r c _ => CharSet.contains_any c
  rw [part, reads_chars_iff]
  cases form with
  | braced =>
    have hitems : braced.items.filterMap (·.expr?) = [.char '}'] := rfl
    simp only [hitems, reads_char_iff, reads_nil_iff]
    constructor
    · rintro ⟨⟩
      exact ⟨⟨_, by simp [lead], _, rfl, rfl⟩, hany r⟩
    · rintro ⟨⟨_, rfl, _, rfl, rfl⟩, -⟩
      simpa [lead] using Refers.braced
  | subscripted =>
    have hitems : subscripted.items.filterMap (·.expr?) =
        .char '[' :: maybe '-' :: many (.property .digit) :: maybe ':' :: maybe '-' ::
          many (.property .digit) :: [.char ']', .char '}'] := rfl
    simp only [hitems, reads_char_iff, reads_subscript_iff, reads_nil_iff]
    constructor
    · intro h
      cases h with
      | subscripted hw =>
        exact ⟨⟨_, by simp [lead], _, rfl, _, _, rfl, hw, _, rfl, _, rfl, rfl⟩, hany r⟩
    · rintro ⟨⟨_, rfl, _, rfl, v, _, rfl, hv, _, rfl, _, rfl, rfl⟩, -⟩
      simpa [lead] using Refers.subscripted hv
  | bare =>
    have hitems : bare.items.filterMap (·.expr?) = [] := rfl
    have htail : bare.tail = .sequence [.set notName, many .any] := rfl
    simp only [hitems, htail, reads_nil_iff, reads_set_iff, contains_notName_iff]
    constructor
    · intro h
      cases h with
      | bare hc => exact ⟨⟨[], by simp [lead], rfl⟩, _, _, rfl, hc, hany _⟩
    · rintro ⟨⟨_, rfl, rfl⟩, c, _, rfl, hc, -⟩
      simpa [lead] using Refers.bare hc
  | bareAtEnd =>
    have hitems : bareAtEnd.items.filterMap (·.expr?) = [] := rfl
    have htail : bareAtEnd.tail.Reads r ↔ r = [] := Iff.rfl
    simp only [hitems, htail, reads_nil_iff]
    constructor
    · rintro ⟨⟩
      exact ⟨⟨[], by simp [lead], rfl⟩, rfl⟩
    · rintro ⟨⟨_, rfl, rfl⟩, rfl⟩
      simpa [lead] using Refers.bareAtEnd
  | ternary =>
    have hitems : ternary.items.filterMap (·.expr?) =
        many (.property .whiteSpace) :: .set mark :: .char '=' ::
          ((quoted '?').filterMap (·.expr?) ++ ((quoted ':').filterMap (·.expr?) ++
            ((quoted '}').filterMap (·.expr?) ++ []))) := rfl
    simp only [hitems, reads_comparison_iff, reads_quoted_iff, reads_nil_iff]
    constructor
    · intro h
      cases h with
      | ternary hgap hcomparison h₁ h₂ h₃ =>
        exact ⟨⟨_, by simp [lead], _, _, _, rfl, hgap, hcomparison, _, _, rfl, h₁, _, _, rfl, h₂,
          _, _, rfl, h₃, rfl⟩, hany r⟩
    · rintro ⟨⟨_, rfl, gap, comparison, _, rfl, hgap, hcomparison, w₁, _, rfl, h₁, w₂, _, rfl, h₂,
        w₃, _, rfl, h₃, rfl⟩, -⟩
      simpa [lead] using Refers.ternary hgap hcomparison h₁ h₂ h₃

/-! ## Cutting a text -/

/-- The cuts that a pattern allows are made at references of its form. -/
theorem Form.cuts_iff {name text u w r : List Char} {form : Form} :
    Expr.Cuts (form.part name) form.tail text u w r ↔
      u ++ (w ++ r) = text ∧ form.Refers name w r := by
  rw [form.refers_iff_reads]
  exact ⟨fun h => ⟨h.text_eq, h.part, h.tail⟩, fun h => ⟨h.1, h.2.1, h.2.2⟩⟩

theorem between_append (u w r : List Char) :
    between (u ++ (w ++ r)) u.length (u ++ w).length = w := by
  rw [between, ← List.append_assoc, List.take_left, List.drop_left]

theorem groupText_cut (u w r : List Char) :
    groupText (u ++ (w ++ r)) (.cut u w r) 1 = u ∧ groupText (u ++ (w ++ r)) (.cut u w r) 2 = w ∧
      groupText (u ++ (w ++ r)) (.cut u w r) 3 = r := by
  refine ⟨between_append [] u (w ++ r), between_append u w r, ?_⟩
  have hthird := between_append (u ++ w) r []
  rwa [List.append_nil, List.append_assoc] at hthird

/-- **A pattern cuts a text at the last reference of its form.** -/
theorem Form.cutBy?_eq (name : List Char) (form : Form) (text : List Char) :
    cutBy? (ofExpr (form.expr name)) text = last? form name text := by
  rcases find?_cut (form.wordy_part name) form.wordy_tail text with
    ⟨u, w, r, hfound, hcuts, hlast⟩ | ⟨hnone, hcuts⟩
  · obtain ⟨rfl, hrefers⟩ := Form.cuts_iff.1 hcuts
    obtain ⟨hu, hw, hr⟩ := groupText_cut u w r
    have hatLast : (⟨u, w, r⟩ : Split).AtLast form name (u ++ (w ++ r)) :=
      ⟨rfl, hrefers, fun u' w' r' hcut h => hlast u' w' r' (Form.cuts_iff.2 ⟨hcut.symm, h⟩)⟩
    rw [last?_eq_some_iff.2 hatLast, cutBy?, expr, hfound, Option.map_some, hu, hw, hr]
  · have hnot : ¬ form.OccursIn name text := by
      rintro ⟨u, w, r, hcut, h⟩
      exact hcuts u w r (Form.cuts_iff.2 ⟨hcut.symm, h⟩)
    rw [last?_eq_none_iff.2 hnot, cutBy?, expr, hnone, Option.map_none]

/-! ## Searching -/

theorem exists_of_mapM_eq_ok {ε α β : Type} {f : α → Except ε β} {l : List α} {bs : List β}
    (h : l.mapM f = .ok bs) : ∀ a ∈ l, ∃ b, f a = .ok b := by
  induction l generalizing bs with
  | nil => nofun
  | cons a l ih =>
    rw [List.mapM_cons] at h
    cases ha : f a with
    | error e =>
      rw [ha] at h
      cases h
    | ok b =>
      rw [ha] at h
      cases hl : l.mapM f with
      | error e =>
        rw [hl] at h
        cases h
      | ok cs => exact List.forall_mem_cons.2 ⟨⟨b, ha⟩, ih hl⟩

section

variable [Pattern.Engine] {name text : String}

/-- The engine accepts the patterns of a name. -/
def Searchable (name : String) : Prop :=
  ∀ form : Form, ∃ p, Pattern.ofText? false (form.pattern name) = some p

/-- A pattern is refused only when the engine has no room for it. -/
theorem Form.ofText?_pattern (name : String) (form : Form) :
    Pattern.ofText? false (form.pattern name) =
      if Engine.fits (form.expr name.toList) then some (ofExpr (form.expr name.toList))
      else none := by
  rw [Pattern.ofText?, Expr.ofText?, form.read?_pattern]
  by_cases hfits : Engine.fits (form.expr name.toList) <;> simp [hfits, Option.filter]

theorem searchable_iff : Searchable name ↔ ∀ form : Form, Engine.fits (form.expr name.toList) := by
  refine forall_congr' fun form => ?_
  rw [form.ofText?_pattern]
  split_ifs with hfits <;> simp [hfits]

instance : Decidable (Searchable name) :=
  decidable_of_iff (∀ form ∈ Form.all, Engine.fits (form.expr name.toList)) <|
    searchable_iff.trans ⟨fun h form _ => h form, fun h form => h form form.mem_all⟩ |>.symm

/-- A search finds what the readers find. -/
theorem search_eq_find? (h : Searchable name) : search name text = .ok (find? name text) := by
  have hcompile : ∀ form, Form.compile name form = .ok (ofExpr (form.expr name.toList)) := by
    intro form
    rw [Form.compile, form.ofText?_pattern, if_pos (searchable_iff.1 h form)]
  have hfound : (Form.all.map fun form => ofExpr (form.expr name.toList)).findSome?
      (cutBy? · text.toList) = find? name text := by
    rw [List.findSome?_map, find?]
    exact congrArg (Form.all.findSome? ·) (funext fun form => form.cutBy?_eq _ _)
  have hmap : Form.all.mapM (Form.compile name) =
      .ok (Form.all.map fun form => ofExpr (form.expr name.toList)) := by
    simp only [Form.all, List.mapM_cons, List.mapM_nil, hcompile]
    rfl
  rw [search, hmap, ← hfound]
  rfl

/-- A search comes to an end only when the engine accepts all patterns. -/
theorem searchable_of_search_eq_ok {found : Option Split} (h : search name text = .ok found) :
    Searchable name := by
  intro form
  cases hall : Form.all.mapM (Form.compile name) with
  | error form =>
    rw [search, hall] at h
    cases h
  | ok ps =>
    obtain ⟨p, hp⟩ := exists_of_mapM_eq_ok hall form form.mem_all
    unfold Form.compile at hp
    split at hp
    · exact ⟨_, ‹_›⟩
    · cases hp

theorem search_eq_error_iff : (∃ form, search name text = .error form) ↔ ¬ Searchable name := by
  constructor
  · rintro ⟨form, h⟩ hsearchable
    cases (search_eq_find? hsearchable).symm.trans h
  · intro hnot
    cases h : search name text with
    | error form => exact ⟨form, rfl⟩
    | ok found => exact absurd (searchable_of_search_eq_ok h) hnot

theorem search_eq_ok_iff {found : Option Split} :
    search name text = .ok found ↔ Searchable name ∧ find? name text = found := by
  constructor
  · intro h
    have hsearchable := searchable_of_search_eq_ok h
    exact ⟨hsearchable, Except.ok.inj ((search_eq_find? hsearchable).symm.trans h)⟩
  · rintro ⟨hsearchable, rfl⟩
    exact search_eq_find? hsearchable

end

/-- **What a search finds.** Every pattern is well formed, and a search crashes exactly when the
engine refuses one of them. Otherwise it gives the last reference of the first form that occurs, in
the order of `Form.all`, and gives nothing only where no form occurs. -/
theorem found_is_last_of_first_form [Pattern.Engine] (name text : String) :
    (∀ form : Form, (Pattern.read? false (form.pattern name)).isSome) ∧
    ((∃ form, search name text = .error form) ↔ ¬ Searchable name) ∧
    (∀ s : Split, search name text = .ok (some s) ↔ Searchable name ∧
      ∃ tried form untried, Form.all = tried ++ form :: untried ∧
        (∀ earlier ∈ tried, ¬ earlier.OccursIn name.toList text.toList) ∧
        s.before ++ (s.reference ++ s.after) = text.toList ∧
        form.Refers name.toList s.reference s.after ∧
        ∀ u w r, text.toList = u ++ (w ++ r) → form.Refers name.toList w r →
          u.length ≤ s.before.length) ∧
    (search name text = .ok none ↔ Searchable name ∧
      ∀ form : Form, ¬ form.OccursIn name.toList text.toList) := by
  refine ⟨fun form => ?_, search_eq_error_iff, fun s => ?_, ?_⟩
  · rw [Pattern.read?, form.read?_pattern]
    rfl
  · rw [search_eq_ok_iff, find?_eq_some_iff]
    refine and_congr_right fun _ => ?_
    constructor
    · rintro ⟨tried, form, untried, hall, htried, hlast⟩
      exact ⟨tried, form, untried, hall, htried, hlast.cut, hlast.refers, hlast.last⟩
    · rintro ⟨tried, form, untried, hall, htried, hcut, hrefers, hlast⟩
      exact ⟨tried, form, untried, hall, htried, hcut, hrefers, hlast⟩
  · rw [search_eq_ok_iff, find?_eq_none_iff]

/-! ## Long names -/

/-- A pattern takes the room of its name, and what it takes without one. -/
theorem Form.weightFrom_expr (name : List Char) (form : Form) :
    (form.expr name).weightFrom 0 = 32 * byteWidth name + (form.expr []).weightFrom 0 := by
  have hparts : ∀ w, (form.lead ++ w).map Expr.char ++ form.items.filterMap (·.expr?) ≠ [] := by
    cases form <;> exact fun w => List.cons_ne_nil _ _
  have hpart : (form.part name).weightFrom 0 =
      32 * byteWidth name + (form.part []).weightFrom 0 := by
    rw [part, part, Expr.weightFrom_sequence (hparts _), Expr.weightFrom_sequence (hparts _)]
    simp only [List.map_append, List.sum_append, List.map_map, Function.comp_def,
      Expr.sum_weightFrom_chars, byteWidth_nil]
    omega
  rw [expr, expr, Expr.cut, Expr.cut, Expr.weightFrom_sequence (List.cons_ne_nil _ _),
    Expr.weightFrom_sequence (List.cons_ne_nil _ _)]
  simp only [List.map_cons, List.sum_cons, Expr.weightFrom, (form.part _).weightFrom_eq (0 + 64),
    hpart]
  omega

/-- The engine that stands alone has room for the patterns of names of at most 327373 bytes. -/
theorem searchable_iff_byteWidth {name : String} :
    Searchable name ↔ byteWidth name.toList ≤ 327373 := by
  have hsubscripted : (Form.subscripted.expr []).weightFrom 0 = 9816 := by decide +kernel
  have hmost : ∀ form : Form, (form.expr []).weightFrom 0 ≤ 9816 := by
    intro form
    cases form with
    | subscripted => exact Nat.le_of_eq hsubscripted
    | braced | bare | bareAtEnd | ternary => decide +kernel
  have hmax : maxWeight = 10485760 := rfl
  rw [searchable_iff]
  constructor
  · intro hfits
    have hle : (Form.subscripted.expr name.toList).weightFrom 0 ≤ maxWeight :=
      of_decide_eq_true (hfits .subscripted)
    rw [Form.weightFrom_expr] at hle
    omega
  · intro hwidth form
    refine decide_eq_true ?_
    rw [form.weightFrom_expr]
    have hle := hmost form
    omega

/-- In an empty text no form occurs, but the search for a long name crashes. -/
theorem long_name_is_not_missed :
    ¬ ∀ name text : String, search name text = .ok none ↔
      ∀ form : Form, ¬ form.OccursIn name.toList text.toList := by
  intro h
  have hnone := (h (String.ofList (List.replicate 330000 'a')) "").2 fun _ => occursIn_nil
  have hwidth := searchable_iff_byteWidth.1 (searchable_of_search_eq_ok hnone)
  rw [String.toList_ofList, byteWidth_replicate] at hwidth
  exact absurd hwidth (by decide)

end Occurrence

end Stencil
