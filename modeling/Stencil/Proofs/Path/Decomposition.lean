import Stencil.Proofs.Path.Components

/-!
# The variables of a path

The variables that a path gives values to are parts of the path. A file name is a stem and an
extension (`Parts`), and the path without its extension is what stands before the end of the stem.

This part is not cut out at the stem but in two steps: as many characters as the extension has are
taken off, and then what follows the stem of the path that is left. `Cut.shorten` says that this
path is cut in the same way as the whole one, with less behind the stem. One name is lost on the
way: `..py` has the stem `.`, and without its last two characters it is the parent directory. The
main statement is `builtins_take_path_apart`.
-/

namespace Stencil.SourcePath

/-! ## Stem and extension -/

/-- A file name as a stem and an extension. It is a stem as a whole, unless there is a dot behind
its first character. -/
inductive Parts : (name stem extension : List Char) → Prop
  | whole {name : List Char} : '.' ∉ name.tail → Parts name name []
  | dotted {stem extension : List Char} : stem ≠ [] → '.' ∉ extension →
      Parts (stem ++ '.' :: extension) stem extension

theorem exists_parts (name : List Char) : ∃ stem extension, Parts name stem extension := by
  cases name with
  | nil => exact ⟨[], [], .whole List.not_mem_nil⟩
  | cons c cs =>
    by_cases hdot : '.' ∈ cs
    · -- the last dot is the first one from the end
      obtain ⟨as, bs, hcs, has⟩ := List.eq_append_cons_of_mem (List.mem_reverse.2 hdot)
      have hname : c :: cs = (c :: bs.reverse) ++ '.' :: as.reverse := by
        rw [← List.reverse_reverse cs, hcs]
        simp
      rw [hname]
      exact ⟨_, _, .dotted (List.cons_ne_nil _ _) fun hmem => has (List.mem_reverse.1 hmem)⟩
    · exact ⟨_, _, .whole hdot⟩

theorem stemAndExtension_of_whole {name : List Char} (h : '.' ∉ name.tail) :
    stemAndExtension name = (name, none) := by
  cases name with
  | nil => rfl
  | cons c cs =>
    have hclass : ∀ a ∈ cs.reverse, (a != '.') = true := fun a ha =>
      bne_iff_ne.2 fun he => h (he ▸ List.mem_reverse.1 ha)
    have hstem : ((c :: cs).reverse.dropWhile (· != '.')).drop 1 = [] := by
      rw [List.reverse_cons, List.dropWhile_append_of_pos hclass, List.dropWhile_cons]
      split_ifs <;> rfl
    rw [stemAndExtension, hstem]
    rfl

theorem stemAndExtension_of_dotted {stem extension : List Char} (hstem : stem ≠ [])
    (hextension : '.' ∉ extension) :
    stemAndExtension (stem ++ '.' :: extension) = (stem, some extension) := by
  have hclass : ∀ a ∈ extension.reverse, (a != '.') = true := fun a ha =>
    bne_iff_ne.2 fun he => hextension (he ▸ List.mem_reverse.1 ha)
  have hstops : Stops (· != '.') ('.' :: stem.reverse) := by simp
  have hreverse : (stem ++ '.' :: extension).reverse =
      extension.reverse ++ '.' :: stem.reverse := by simp
  unfold stemAndExtension
  dsimp only
  rw [hreverse, takeWhile_append_of_stops hclass hstops, dropWhile_append_of_stops hclass hstops,
    List.drop_one, List.tail_cons, List.reverse_reverse, List.reverse_reverse, if_neg hstem]

namespace Parts

variable {name stem extension : List Char} (h : Parts name stem extension)
include h

theorem fst_eq : (stemAndExtension name).1 = stem := by
  cases h with
  | whole h => rw [stemAndExtension_of_whole h]
  | dotted hstem hextension => rw [stemAndExtension_of_dotted hstem hextension]

theorem snd_eq : (stemAndExtension name).2.getD [] = extension := by
  cases h with
  | whole h => rw [stemAndExtension_of_whole h, Option.getD_none]
  | dotted hstem hextension => rw [stemAndExtension_of_dotted hstem hextension, Option.getD_some]

theorem stem_ne_nil (hname : name ≠ []) : stem ≠ [] := by
  cases h with
  | whole _ => exact hname
  | dotted hstem _ => exact hstem

theorem extension_subset : extension ⊆ name := by
  cases h with
  | whole _ => exact List.nil_subset _
  | dotted _ _ => exact fun c hc => List.mem_append_right _ (List.mem_cons_of_mem _ hc)

theorem dot_notMem_extension : '.' ∉ extension := by
  cases h with
  | whole _ => exact List.not_mem_nil
  | dotted _ hextension => exact hextension

end Parts

/-! ## A path without its extension -/

/-- A path whose end is taken off, as many characters as there are in the extension, is cut like the
whole one; but nothing may be left of a name that is two dots and an extension. -/
theorem Cut.shorten {path directory stem extension rest : List Char}
    (h : Cut path directory (stem ++ '.' :: extension) rest) (hstem : stem ≠ [])
    (hname : ¬ (stem = ['.'] ∧ rest = [])) :
    Cut (path.take (path.length - extension.length)) directory
      (stem ++ '.' :: extension.take rest.length) (rest.take (rest.length - extension.length)) := by
  obtain ⟨-, -, -, hparent⟩ := Component.ofPiece?_eq_normal_iff.1 h.normal
  refine ⟨?_, h.directory, fun hmem => h.noSlash ?_, ?_, h.rest.of_prefix (List.take_prefix _ _)⟩
  · have hpath : path = (directory ++ (stem ++ ['.'])) ++ (extension ++ rest) := by
      simp [h.text]
    have hlength : path.length - extension.length =
        (directory ++ (stem ++ ['.'])).length + rest.length := by
      rw [hpath, List.length_append]
      have hends : (extension ++ rest).length = extension.length + rest.length := List.length_append
      omega
    rw [hlength, hpath, List.take_length_add_append, List.take_append]
    simp
  · rw [List.mem_append, List.mem_cons] at hmem ⊢
    exact hmem.imp_right (Or.imp_right List.mem_of_mem_take)
  · -- only two dots would be no name: a stem that is one dot, with nothing kept behind its dot
    obtain ⟨c, cs, rfl⟩ := List.exists_cons_of_ne_nil hstem
    refine Component.ofPiece?_eq_normal_iff.2 ⟨rfl, by simp, by simp, fun hdots => ?_⟩
    obtain ⟨rfl, htail⟩ := List.cons.inj hdots
    obtain ⟨rfl, htaken⟩ : cs = [] ∧ extension.take rest.length = [] := by
      simpa [List.append_eq_singleton_iff] using htail
    rcases List.take_eq_nil_iff.1 htaken with hrest | rfl
    · exact hname ⟨rfl, List.eq_nil_of_length_eq_zero hrest⟩
    · exact hparent rfl

theorem Nameless.withoutExtension_eq {path : String} (h : Nameless path.toList) :
    withoutExtension path = path := by
  unfold withoutExtension
  dsimp only
  rw [h.split?_eq, Option.bind_none, Option.getD_none, List.length_nil, Nat.sub_zero,
    List.take_length, String.ofList_toList, h.split?_eq]

section Cut

variable {path : String} {directory name rest stem extension : List Char}
  (h : Cut path.toList directory name rest) (hparts : Parts name stem extension)
include h hparts

/-- The two steps: the path that is left after the first one, and its stem. -/
theorem Cut.withoutExtension_eq_getD :
    withoutExtension path =
      let kept := String.ofList (path.toList.take (path.toList.length - extension.length))
      ((split? kept).map fun p => String.ofList (p.1 ++ (stemAndExtension p.2).1)).getD kept := by
  have hextension : ((split? path).bind fun p => (stemAndExtension p.2).2).getD [] = extension := by
    rw [h.split?_eq, Option.bind_some, hparts.snd_eq]
  unfold withoutExtension
  dsimp only
  rw [hextension]
  cases split? (String.ofList (path.toList.take (path.toList.length - extension.length))) <;> rfl

/-- What is left after the first step decides, if it has the same directory and stem. -/
theorem Cut.withoutExtension_eq_of_cut {name' rest' extension' : List Char}
    (hkept : Cut (path.toList.take (path.toList.length - extension.length)) directory name' rest')
    (hparts' : Parts name' stem extension') :
    withoutExtension path = String.ofList (directory ++ stem) := by
  rw [← String.toList_ofList (l := path.toList.take _)] at hkept
  rw [h.withoutExtension_eq_getD hparts]
  dsimp only
  rw [hkept.split?_eq, Option.map_some, Option.getD_some, hparts'.fst_eq]

/-- A path up to the end of the stem, two dots and an extension apart. -/
theorem Cut.withoutExtension_eq :
    withoutExtension path =
      String.ofList (directory ++ if stem = ['.'] ∧ rest = [] then ['.', '.'] else stem) := by
  have hall := hparts
  cases hparts with
  | whole hname =>
    have hsingle : ¬ (name = ['.'] ∧ rest = []) := fun he =>
      (Component.ofPiece?_eq_normal_iff.1 h.normal).2.2.1 he.1
    rw [if_neg hsingle]
    have hkept : Cut (path.toList.take (path.toList.length - 0)) directory name rest := by
      rw [Nat.sub_zero, List.take_length]
      exact h
    exact h.withoutExtension_eq_of_cut hall hkept hall
  | dotted hstem hdot =>
    by_cases hname : stem = ['.'] ∧ rest = []
    · -- the first step leaves the parent directory, where the second one finds no name
      rw [if_pos hname, h.withoutExtension_eq_getD hall]
      obtain ⟨rfl, rfl⟩ := hname
      have hkept : path.toList.take (path.toList.length - extension.length) =
          directory ++ ['.', '.'] := by
        have hpath : path.toList = (directory ++ ['.', '.']) ++ extension := by simp [h.text]
        rw [hpath, List.length_append, Nat.add_sub_cancel, List.take_left]
      have hnameless : Nameless (String.ofList (directory ++ ['.', '.'])).toList := by
        rw [String.toList_ofList]
        exact .parent h.directory .nil
      dsimp only
      rw [hkept, hnameless.split?_eq, Option.map_none, Option.getD_none]
    · rw [if_neg hname]
      have hdot' : '.' ∉ extension.take rest.length := fun hmem => hdot (List.mem_of_mem_take hmem)
      exact h.withoutExtension_eq_of_cut hall (h.shorten hstem hname) (.dotted hstem hdot')

end Cut

/-! ## The variables -/

section Values

variable (path : String) (withLanguage : Bool)

/-- The value that a path gives to a name. -/
def value? (name : String) : Option String :=
  (builtins path withLanguage).lookup name

theorem value?_basename : value? path withLanguage "basename" =
    some (String.ofList (stemAndExtension (((split? path).map (·.2)).getD [])).1) :=
  rfl

theorem value?_extension : value? path withLanguage "extension" =
    some (String.ofList ((stemAndExtension (((split? path).map (·.2)).getD [])).2.getD [])) :=
  rfl

theorem value?_filename : value? path withLanguage "filename" =
    some (String.ofList (((split? path).map (·.2)).getD [])) :=
  rfl

theorem value?_source : value? path withLanguage "source_path_no_ext" =
    if isAbsolute path then none else some (withoutExtension path) := by
  unfold value? builtins
  cases isAbsolute path <;> cases withLanguage <;> rfl

theorem value?_language {extension : String}
    (h : value? path withLanguage "extension" = some extension) :
    value? path withLanguage "lang" =
      if withLanguage then some ((language? extension).getD unknownLanguage) else none := by
  obtain rfl := Option.some.inj ((value?_extension path withLanguage).symm.trans h)
  unfold value? builtins
  cases isAbsolute path <;> cases withLanguage <;> rfl

end Values

/-- **The variables of a path take it apart.** The file name is the stem alone, when there is no dot
behind its first character, or else the stem, a dot and the extension. The path is a directory, the
file name and what does not count after it; a relative path without its extension is the directory
and the stem, so without such an end it is got back by adding the extension. The one exception is a
path that ends with a name of two dots and an extension, which leaves both dots. Without a file name
the three values are empty, and a relative path stays as it is. The language depends on the
extension alone. -/
theorem builtins_take_path_apart (path : String) (withLanguage : Bool) :
    let value := value? path withLanguage
    let relative := Component.root ∉ components path.toList
    ∃ basename extension filename,
      value "basename" = some basename ∧ value "extension" = some extension ∧
      value "filename" = some filename ∧
      (∀ name, fileName? path.toList = some name →
        filename = String.ofList name ∧ basename ≠ "" ∧
        '.' ∉ extension.toList ∧ '/' ∉ extension.toList ∧
        (('.' ∉ name.tail ∧ filename = basename ∧ extension = "") ∨
          filename = basename ++ "." ++ extension) ∧
        ∃ directory rest, Cut path.toList directory name rest ∧
          (relative → value "source_path_no_ext" = some (String.ofList directory ++
            if basename = "." ∧ rest = [] then ".." else basename)) ∧
          (relative → basename ≠ "." → rest = [] → extension ≠ "" →
            ∃ source, value "source_path_no_ext" = some source ∧
              source ++ "." ++ extension = path)) ∧
      (fileName? path.toList = none →
        basename = "" ∧ extension = "" ∧ filename = "" ∧
          (relative → value "source_path_no_ext" = some path)) ∧
      (¬ relative → value "source_path_no_ext" = none) ∧
      value "lang" =
        if withLanguage then some ((language? extension).getD unknownLanguage) else none := by
  intro value relative
  have habsolute : ¬ relative ↔ isAbsolute path := by rw [isAbsolute_iff, not_not]
  have hsource : relative → value "source_path_no_ext" = some (withoutExtension path) := fun h => by
    have hno : ¬ isAbsolute path := fun habs => habsolute.2 habs h
    rw [show value _ = _ from value?_source path withLanguage, if_neg hno]
  refine ⟨_, _, _, value?_basename path withLanguage, value?_extension path withLanguage,
    value?_filename path withLanguage, fun name hname => ?_, fun hnone => ?_, fun h => ?_,
    value?_language path withLanguage (value?_extension path withLanguage)⟩
  · obtain ⟨directory, rest, hcut⟩ := fileName?_eq_some_iff.1 hname
    obtain ⟨stem, extension, hparts⟩ := exists_parts name
    obtain ⟨-, hname, -⟩ := Component.ofPiece?_eq_normal_iff.1 hcut.normal
    have hdots : String.ofList stem = "." ↔ stem = ['.'] := by
      rw [← String.toList_inj, String.toList_ofList]
      rfl
    rw [hcut.split?_eq, Option.map_some, Option.getD_some, hparts.fst_eq, hparts.snd_eq,
      String.toList_ofList]
    refine ⟨rfl, ?_, hparts.dot_notMem_extension,
      fun hmem => hcut.noSlash (hparts.extension_subset hmem), ?_, directory, rest, hcut,
      fun hrelative => ?_, fun hrelative hstem hrest hextension => ?_⟩
    · rw [ne_eq, String.ofList_eq_empty_iff]
      exact hparts.stem_ne_nil hname
    · cases hparts with
      | whole hdot => exact .inl ⟨hdot, rfl, rfl⟩
      | dotted _ _ =>
        right
        rw [← String.toList_inj]
        simp
    · rw [hsource hrelative, hcut.withoutExtension_eq hparts, String.ofList_append]
      simp only [hdots]
      split_ifs <;> rfl
    · refine ⟨_, hsource hrelative, ?_⟩
      rw [hcut.withoutExtension_eq hparts, if_neg fun he => hstem (hdots.2 he.1),
        ← String.toList_inj, hcut.text, hrest]
      cases hparts with
      | whole _ => exact absurd rfl hextension
      | dotted _ _ => simp
  · have hnameless := fileName?_eq_none_iff.1 hnone
    rw [hnameless.split?_eq]
    refine ⟨rfl, rfl, rfl, fun hrelative => ?_⟩
    rw [hsource hrelative, hnameless.withoutExtension_eq]
  · rw [show value _ = _ from value?_source path withLanguage, if_pos (habsolute.1 h)]

/-- A relative path with an end that does not count, and one of a directory above it. -/
theorem builtins_take_path_apart_end :
    let path := "./a//b.tar.gz/./"
    fileName? path.toList = some "b.tar.gz".toList ∧ Component.root ∉ components path.toList ∧
      (∃ directory rest, Cut path.toList directory "b.tar.gz".toList rest ∧
        value? path true "source_path_no_ext" = some (String.ofList directory ++ "b.tar")) ∧
      fileName? "a/..".toList = none ∧ Component.root ∉ components "a/..".toList ∧
      value? "a/.." true "source_path_no_ext" = some "a/.." := by
  intro path
  have hname : fileName? path.toList = some "b.tar.gz".toList := by decide +kernel
  have hrelative : Component.root ∉ components path.toList := by decide +kernel
  have hstem : value? path true "basename" = some "b.tar" := by decide +kernel
  have hnone : fileName? "a/..".toList = none := by decide +kernel
  have hrelative' : Component.root ∉ components "a/..".toList := by decide +kernel
  obtain ⟨basename, _, _, hbasename, -, -, hnamed, -⟩ := builtins_take_path_apart path true
  obtain ⟨-, -, -, -, -, directory, rest, hcut, hsource, -⟩ := hnamed _ hname
  obtain ⟨_, _, _, -, -, -, -, hkept, -⟩ := builtins_take_path_apart "a/.." true
  refine ⟨hname, hrelative, ⟨directory, rest, hcut, ?_⟩, hnone, hrelative',
    (hkept hnone).2.2.2 hrelative'⟩
  obtain rfl : "b.tar" = basename := Option.some.inj (hstem.symm.trans hbasename)
  rw [hsource hrelative, if_neg fun he => absurd he.1 (by decide)]

/-- The stem of `..py` is one dot, and what is left of this path is two. -/
theorem builtins_keep_two_dots :
    fileName? "..py".toList = some "..py".toList ∧
      Component.root ∉ components "..py".toList ∧
      value? "..py" false "basename" = some "." ∧ value? "..py" false "extension" = some "py" ∧
      value? "..py" false "source_path_no_ext" = some ".." ∧
      ¬ ∃ directory rest, Cut "..py".toList directory "..py".toList rest ∧
        value? "..py" false "source_path_no_ext" = some (String.ofList directory ++ ".") := by
  have hsource : value? "..py" false "source_path_no_ext" = some ".." := by decide +kernel
  refine ⟨by decide +kernel, by decide +kernel, by decide +kernel, by decide +kernel, hsource, ?_⟩
  rintro ⟨directory, rest, hcut, hvalue⟩
  have hlength := congrArg List.length hcut.text
  rw [List.length_append, List.length_append] at hlength
  obtain rfl : directory = [] := List.eq_nil_of_length_eq_zero (by omega)
  rw [hsource] at hvalue
  exact absurd hvalue (by decide)

end Stencil.SourcePath
