import Mathlib.Data.List.Basic
import Stencil.Proofs.Text.Reads
import Stencil.SourcePath

/-!
# Components of a path

A path is made of components with slashes between them. Empty pieces between slashes count for
nothing, and so do single dots, unless one is at the start; the file name is the last component,
unless this is the root, the current directory or a parent directory.

A path of this kind is either cut around its file name (`Cut`), or it is one of three forms without
a name (`Nameless`): `exists_cut_or_nameless`. The components and the scan from the end of a path
are evaluated on these forms, and so they agree: `fileName?_eq_some_iff` and `Cut.split?_eq`.
-/

namespace Stencil.SourcePath

/-! ## Components -/

inductive Component
  | root
  | current
  | parent
  | normal (name : List Char)
  deriving DecidableEq, Repr

/-- What a piece of a path between slashes stands for, wherever it is. -/
def Component.ofPiece? (piece : List Char) : Option Component :=
  if piece = [] ∨ piece = ['.'] then none
  else if piece = ['.', '.'] then some .parent
  else some (.normal piece)

/-- What only the start of a path says. -/
def leading : List Char → List Component
  | '/' :: _ => [.root]
  | ['.'] => [.current]
  | '.' :: '/' :: _ => [.current]
  | _ => []

/-- What the pieces of a path say wherever they are. -/
def inner (path : List Char) : List Component :=
  (path.splitOn '/').filterMap Component.ofPiece?

def components (path : List Char) : List Component :=
  leading path ++ inner path

/-- The last component of a path, if it is a name. -/
def fileName? (path : List Char) : Option (List Char) :=
  match (components path).getLast? with
  | some (.normal name) => some name
  | _ => none

theorem Component.ofPiece?_ne_root (piece : List Char) : ofPiece? piece ≠ some .root := by
  unfold ofPiece?
  split_ifs <;> simp

theorem leading_cases (path : List Char) :
    (path.head? = some '/' ∧ leading path = [.root]) ∨
      (path.head? ≠ some '/' ∧ (leading path = [.current] ∨ leading path = [])) := by
  unfold leading
  split
  · exact .inl ⟨rfl, rfl⟩
  · exact .inr ⟨by decide, .inl rfl⟩
  · exact .inr ⟨by simp, .inl rfl⟩
  · next hslash _ _ =>
    refine .inr ⟨fun hhead => ?_, .inr rfl⟩
    obtain ⟨cs, hcs⟩ := List.head?_eq_some_iff.1 hhead
    exact hslash cs hcs

/-- A path is absolute when the root is one of its components. -/
theorem isAbsolute_iff {path : String} : isAbsolute path ↔ .root ∈ components path.toList := by
  have hinner : .root ∉ inner path.toList := fun hmem => by
    obtain ⟨piece, -, hpiece⟩ := List.mem_filterMap.1 hmem
    exact Component.ofPiece?_ne_root piece hpiece
  rw [components, List.mem_append, or_iff_left hinner, isAbsolute, beq_iff_eq]
  rcases leading_cases path.toList with ⟨hhead, h⟩ | ⟨hhead, h | h⟩ <;> simp [h, hhead]

/-! ## Forms of paths -/

/-- A directory in front of a name: none, or a text that ends with a slash. -/
def IsDirectory (directory : List Char) : Prop :=
  directory = [] ∨ ∃ above, directory = above ++ ['/']

/-- What does not count at the end of a path: slashes, and dots after slashes. -/
inductive Trailing : List Char → Prop
  | nil : Trailing []
  | slash {rest : List Char} : Trailing rest → Trailing (rest ++ ['/'])
  | dot {rest : List Char} : Trailing rest → Trailing (rest ++ ['/', '.'])

/-- A path with its file name set apart. -/
structure Cut (path directory name rest : List Char) : Prop where
  text : path = directory ++ (name ++ rest)
  directory : IsDirectory directory
  noSlash : '/' ∉ name
  normal : Component.ofPiece? name = some (.normal name)
  rest : Trailing rest

/-- A path without a file name. -/
inductive Nameless : List Char → Prop
  | empty {rest : List Char} : Trailing rest → Nameless rest
  | current {rest : List Char} : Trailing rest → Nameless ('.' :: rest)
  | parent {directory rest : List Char} : IsDirectory directory → Trailing rest →
      Nameless (directory ++ (['.', '.'] ++ rest))

/-- What is cut off at the end of what does not count does not count. -/
theorem Trailing.of_prefix {rest part : List Char} (h : Trailing rest) (hpart : part <+: rest) :
    Trailing part := by
  induction h with
  | nil =>
    rw [List.prefix_nil.1 hpart]
    exact .nil
  | slash h ih =>
    rcases List.prefix_concat_iff.1 hpart with rfl | hpart
    · exact .slash h
    · exact ih hpart
  | @dot rest h ih =>
    have hpart : part <+: (rest ++ ['/']) ++ ['.'] := by simpa using hpart
    rcases List.prefix_concat_iff.1 hpart with rfl | hpart
    · simpa using Trailing.dot h
    · rcases List.prefix_concat_iff.1 hpart with rfl | hpart
      · exact .slash h
      · exact ih hpart

theorem Component.ofPiece?_eq_normal_iff {piece name : List Char} :
    ofPiece? piece = some (.normal name) ↔
      name = piece ∧ piece ≠ [] ∧ piece ≠ ['.'] ∧ piece ≠ ['.', '.'] := by
  unfold ofPiece?
  split_ifs with hnone hparent
  · refine ⟨nofun, ?_⟩
    rintro ⟨-, hempty, hdot, -⟩
    exact (hnone.elim hempty hdot).elim
  · simp [hparent]
  · rw [not_or] at hnone
    simp [hnone, hparent, eq_comm]

/-- What does not count may be added to a path of any form. -/
theorem exists_cut_or_nameless_append {path : List Char} (more : List Char)
    (hmore : ∀ rest, Trailing rest → Trailing (rest ++ more))
    (h : (∃ directory name rest, Cut path directory name rest) ∨ Nameless path) :
    (∃ directory name rest, Cut (path ++ more) directory name rest) ∨ Nameless (path ++ more) := by
  rcases h with ⟨directory, name, rest, h⟩ | h
  · refine .inl ⟨directory, name, rest ++ more, ?_, h.directory, h.noSlash, h.normal,
      hmore _ h.rest⟩
    simp [h.text]
  · right
    cases h with
    | empty h => exact .empty (hmore _ h)
    | current h => exact .current (hmore _ h)
    | @parent directory rest hdirectory h =>
      have hparent := Nameless.parent hdirectory (hmore _ h)
      simpa using hparent

/-- A text up to its first slash. -/
theorem exists_piece (cs : List Char) :
    ∃ piece more, cs = piece ++ more ∧ '/' ∉ piece ∧ (more = [] ∨ ∃ rest, more = '/' :: rest) := by
  refine ⟨cs.takeWhile (· != '/'), cs.dropWhile (· != '/'), ?_, fun hmem => ?_, ?_⟩
  · rw [List.takeWhile_append_dropWhile]
  · have hne := List.all_eq_true.1 List.all_takeWhile '/' hmem
    simp at hne
  · have hstops := stops_dropWhile (· != '/') cs
    cases h : cs.dropWhile (· != '/') with
    | nil => exact .inl rfl
    | cons c rest =>
      rw [h, stops_cons] at hstops
      have hc : c = '/' := by simpa using hstops
      exact .inr ⟨rest, by rw [hc]⟩

/-- Every path has a file name in it or is of a form without one. -/
theorem exists_cut_or_nameless (path : List Char) :
    (∃ directory name rest, Cut path directory name rest) ∨ Nameless path := by
  rw [← List.reverse_reverse path]
  generalize path.reverse = cs
  fun_induction trimEnd cs with
  | case1 cs ih =>
    rw [List.reverse_cons]
    exact exists_cut_or_nameless_append ['/'] (fun _ => .slash) ih
  | case2 cs ih =>
    have hends : ('.' :: '/' :: cs).reverse = cs.reverse ++ ['/', '.'] := by simp
    rw [hends]
    exact exists_cut_or_nameless_append ['/', '.'] (fun _ => .dot) ih
  | case3 => exact .inr (.current .nil)
  | case4 cs hslash hdot hcurrent =>
    -- nothing is left to cut off, so the last piece is a name or two dots, if there is one
    obtain ⟨piece, more, rfl, hpiece, hmore⟩ := exists_piece cs
    have hdirectory : IsDirectory more.reverse := by
      rcases hmore with rfl | ⟨rest, rfl⟩
      · exact .inl rfl
      · exact .inr ⟨rest.reverse, List.reverse_cons⟩
    rw [List.reverse_append]
    by_cases hnil : piece = []
    · subst hnil
      rcases hmore with rfl | ⟨rest, rfl⟩
      · exact .inr (.empty .nil)
      · exact (hslash rest rfl).elim
    by_cases hparent : piece = ['.', '.']
    · rw [hparent]
      exact .inr (.parent hdirectory .nil)
    have hsingle : piece ≠ ['.'] := by
      rintro rfl
      rcases hmore with rfl | ⟨rest, rfl⟩
      · exact hcurrent rfl
      · exact hdot rest rfl
    have hback : piece.reverse ≠ [] ∧ piece.reverse ≠ ['.'] ∧ piece.reverse ≠ ['.', '.'] := by
      refine ⟨?_, ?_, ?_⟩ <;> rw [ne_eq, List.reverse_eq_iff] <;> assumption
    refine .inl ⟨more.reverse, piece.reverse, [], by simp, hdirectory, by simpa, ?_, .nil⟩
    exact Component.ofPiece?_eq_normal_iff.2 ⟨rfl, hback⟩

/-! ## The components of a form -/

theorem inner_append_slash (before after : List Char) :
    inner (before ++ '/' :: after) = inner before ++ inner after := by
  rw [inner, List.splitOn_append_cons_self, List.filterMap_append]
  rfl

theorem inner_of_noSlash {piece : List Char} (h : '/' ∉ piece) :
    inner piece = (Component.ofPiece? piece).toList := by
  rw [inner, List.splitOn_eq_singleton h, List.filterMap_cons, List.filterMap_nil]
  cases Component.ofPiece? piece <;> rfl

theorem inner_append_trailing (path : List Char) {rest : List Char} (h : Trailing rest) :
    inner (path ++ rest) = inner path := by
  have hnone : inner [] = [] ∧ inner ['.'] = [] := by decide
  induction h with
  | nil => rw [List.append_nil]
  | slash h ih => rw [← List.append_assoc, inner_append_slash, ih, hnone.1, List.append_nil]
  | dot h ih => rw [← List.append_assoc, inner_append_slash, ih, hnone.2, List.append_nil]

/-- The last component of a path is that of its last piece. -/
theorem getLast?_components {directory piece rest : List Char} {c : Component}
    (hdirectory : IsDirectory directory) (hpiece : '/' ∉ piece)
    (hc : Component.ofPiece? piece = some c) (hrest : Trailing rest) :
    (components (directory ++ (piece ++ rest))).getLast? = some c := by
  have hinner : ∃ before, inner (directory ++ piece) = before ++ [c] := by
    rcases hdirectory with rfl | ⟨above, rfl⟩
    · refine ⟨[], ?_⟩
      rw [List.nil_append, inner_of_noSlash hpiece, hc]
      rfl
    · refine ⟨inner above, ?_⟩
      rw [List.append_assoc, List.singleton_append, inner_append_slash, inner_of_noSlash hpiece, hc]
      rfl
  obtain ⟨before, hbefore⟩ := hinner
  rw [components, ← List.append_assoc, inner_append_trailing _ hrest, hbefore,
    ← List.append_assoc, List.getLast?_concat]

theorem Cut.fileName?_eq {path directory name rest : List Char}
    (h : Cut path directory name rest) : fileName? path = some name := by
  rw [fileName?, h.text, getLast?_components h.directory h.noSlash h.normal h.rest]

theorem fileName?_of_inner_eq_nil {path : List Char} (h : inner path = []) :
    fileName? path = none := by
  rw [fileName?, components, h, List.append_nil]
  rcases leading_cases path with ⟨-, h⟩ | ⟨-, h | h⟩ <;> rw [h] <;> rfl

theorem Nameless.fileName?_eq {path : List Char} (h : Nameless path) : fileName? path = none := by
  cases h with
  | empty h =>
    refine fileName?_of_inner_eq_nil ?_
    rw [← List.nil_append path, inner_append_trailing [] h]
    decide
  | @current rest h =>
    refine fileName?_of_inner_eq_nil ?_
    rw [← List.singleton_append, inner_append_trailing ['.'] h]
    decide
  | parent hdirectory h =>
    rw [fileName?, getLast?_components hdirectory (c := .parent) (by decide) (by decide) h]

/-- The file name of a path is what stands between a directory and what does not count. -/
theorem fileName?_eq_some_iff {path name : List Char} :
    fileName? path = some name ↔ ∃ directory rest, Cut path directory name rest := by
  constructor
  · intro h
    rcases exists_cut_or_nameless path with ⟨directory, name', rest, hcut⟩ | hnameless
    · rw [hcut.fileName?_eq, Option.some.injEq] at h
      subst h
      exact ⟨directory, rest, hcut⟩
    · rw [hnameless.fileName?_eq] at h
      cases h
  · rintro ⟨directory, rest, hcut⟩
    exact hcut.fileName?_eq

theorem fileName?_eq_none_iff {path : List Char} : fileName? path = none ↔ Nameless path := by
  refine ⟨fun h => ?_, Nameless.fileName?_eq⟩
  rcases exists_cut_or_nameless path with ⟨_, _, _, hcut⟩ | hnameless
  · rw [hcut.fileName?_eq] at h
    cases h
  · exact hnameless

/-! ## The scan from the end -/

theorem trimEnd_append_trailing (path : List Char) {rest : List Char} (h : Trailing rest) :
    trimEnd (path ++ rest).reverse = trimEnd path.reverse := by
  induction h with
  | nil => rw [List.append_nil]
  | @slash rest h ih =>
    have hends : (path ++ (rest ++ ['/'])).reverse = '/' :: (path ++ rest).reverse := by simp
    rw [hends, trimEnd, ih]
  | @dot rest h ih =>
    have hends : (path ++ (rest ++ ['/', '.'])).reverse = '.' :: '/' :: (path ++ rest).reverse := by
      simp
    rw [hends, trimEnd, ih]

/-- A last piece that is not empty and no single dot stays. -/
theorem trimEnd_of_piece {directory piece : List Char} (hpiece : '/' ∉ piece) (hnil : piece ≠ [])
    (hdot : piece ≠ ['.']) :
    trimEnd (directory ++ piece).reverse = (directory ++ piece).reverse := by
  rw [List.reverse_append]
  obtain ⟨cs, hcs⟩ : ∃ cs, piece.reverse = cs := ⟨_, rfl⟩
  have hslash : '/' ∉ cs := by rwa [← hcs, List.mem_reverse]
  have hne : cs ≠ [] ∧ cs ≠ ['.'] := by
    rw [← hcs]
    refine ⟨?_, ?_⟩ <;> rw [ne_eq, List.reverse_eq_iff] <;> assumption
  rw [hcs]
  match cs with
  | [] => exact absurd rfl hne.1
  | [c] =>
    have hc : c ≠ '/' ∧ c ≠ '.' := by simpa [eq_comm] using And.intro hslash hne.2
    exact trimEnd.eq_4 _ (fun _ he => hc.1 (List.cons.inj he).1)
      (fun _ he => hc.2 (List.cons.inj he).1) fun he => hc.2 (List.cons.inj he).1
  | c :: d :: cs =>
    have hcd : c ≠ '/' ∧ d ≠ '/' := by
      rw [List.mem_cons, List.mem_cons, not_or, not_or] at hslash
      exact ⟨Ne.symm hslash.1, Ne.symm hslash.2.1⟩
    exact trimEnd.eq_4 _ (fun _ he => hcd.1 (List.cons.inj he).1)
      (fun _ he => hcd.2 (List.cons.inj (List.cons.inj he).2).1)
      fun he => List.cons_ne_nil _ _ (List.cons.inj he).2

/-- The scan takes the last piece of a path for its name, two dots apart. -/
theorem split?_of_piece {path : String} {directory piece rest : List Char}
    (hpath : path.toList = directory ++ (piece ++ rest)) (hdirectory : IsDirectory directory)
    (hpiece : '/' ∉ piece) (hnil : piece ≠ []) (hdot : piece ≠ ['.']) (hrest : Trailing rest) :
    split? path = if piece = ['.', '.'] then none else some (directory, piece) := by
  have hkept : trimEnd path.toList.reverse = piece.reverse ++ directory.reverse := by
    rw [hpath, ← List.append_assoc, trimEnd_append_trailing _ hrest,
      trimEnd_of_piece hpiece hnil hdot, List.reverse_append]
  have hclass : ∀ c ∈ piece.reverse, (c != '/') = true := fun c hc =>
    bne_iff_ne.2 fun he => hpiece (he ▸ List.mem_reverse.1 hc)
  have hstops : Stops (· != '/') directory.reverse := by
    rcases hdirectory with rfl | ⟨above, rfl⟩
    · exact stops_nil _
    · simp
  unfold split?
  dsimp only
  rw [hkept, takeWhile_append_of_stops hclass hstops, dropWhile_append_of_stops hclass hstops]
  simp only [List.reverse_reverse, hnil, false_or]

theorem Cut.split?_eq {path : String} {directory name rest : List Char}
    (h : Cut path.toList directory name rest) : split? path = some (directory, name) := by
  obtain ⟨-, hnil, hdot, hparent⟩ := Component.ofPiece?_eq_normal_iff.1 h.normal
  rw [split?_of_piece h.text h.directory h.noSlash hnil hdot h.rest, if_neg hparent]

theorem split?_of_trimEnd_eq_nil {path : String} (h : trimEnd path.toList.reverse = []) :
    split? path = none := by
  rw [split?, h]
  rfl

theorem Nameless.split?_eq {path : String} (h : Nameless path.toList) : split? path = none := by
  generalize hcs : path.toList = cs at h
  cases h with
  | empty h =>
    refine split?_of_trimEnd_eq_nil ?_
    rw [hcs, ← List.nil_append cs, trimEnd_append_trailing [] h]
    rfl
  | @current rest h =>
    refine split?_of_trimEnd_eq_nil ?_
    rw [hcs, ← List.singleton_append, trimEnd_append_trailing ['.'] h]
    rfl
  | parent hdirectory h =>
    rw [split?_of_piece hcs hdirectory (by decide) (by decide) (by decide) h, if_pos rfl]

end Stencil.SourcePath
