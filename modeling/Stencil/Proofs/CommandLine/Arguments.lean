import Mathlib.Data.List.Nodup
import Mathlib.Data.List.Perm.Basic
import Mathlib.Data.List.TakeWhile
import Stencil.CommandLine.Arguments
import Stencil.Proofs.Text.Reads

/-!
# How arguments are spelled

`Spells forms arguments items` says what arguments stand for: an option with its value, or an
argument that belongs to no option, one item after the other. An option has several spellings, and
options of different names can come in any order. The main statement is
`Command.ofArguments?_eq_expand_iff`: the arguments that ask for an expansion are those that spell
admissible items after the name of the command, and what is asked for is read off the items.
-/

namespace Stencil.CommandLine

/-! ## The first equals sign -/

section EqualsSign

variable {cs : List Char} (h : '=' ∉ cs)
include h

theorem takeWhile_eq_self_of_not_mem : cs.takeWhile (· != '=') = cs :=
  List.takeWhile_eq_self_iff.2 fun _ ha => bne_iff_ne.2 fun e => h (e ▸ ha)

theorem takeWhile_append_equals (value : List Char) :
    (cs ++ '=' :: value).takeWhile (· != '=') = cs :=
  takeWhile_append_of_stops (fun _ ha => bne_iff_ne.2 fun e => h (e ▸ ha)) (by simp)

theorem dropWhile_append_equals (value : List Char) :
    (cs ++ '=' :: value).dropWhile (· != '=') = '=' :: value :=
  dropWhile_append_of_stops (fun _ ha => bne_iff_ne.2 fun e => h (e ▸ ha)) (by simp)

theorem dropWhile_eq_nil_of_not_mem : cs.dropWhile (· != '=') = [] :=
  List.dropWhile_eq_nil_iff.2 fun _ ha => bne_iff_ne.2 fun e => h (e ▸ ha)

end EqualsSign

theorem eq_of_dropWhile_eq_nil {cs : List Char} (h : cs.dropWhile (· != '=') = []) :
    cs.takeWhile (· != '=') = cs := by
  simpa [h] using List.takeWhile_append_dropWhile (p := (· != '=')) (l := cs)

theorem eq_of_dropWhile_eq_cons {cs value : List Char} {a : Char}
    (h : cs.dropWhile (· != '=') = a :: value) : cs.takeWhile (· != '=') ++ '=' :: value = cs := by
  have ha : a = '=' := by
    have hstop := stops_dropWhile (· != '=') cs a (by simp [h])
    simpa using hstop
  subst ha
  rw [← h, List.takeWhile_append_dropWhile]

/-! ## Shapes -/

/-- An argument that can be a value: a hyphen alone, or one that does not start with a hyphen. -/
def IsPlain (argument : String) : Prop :=
  argument = "-" ∨ argument.toList.head? ≠ some '-'

namespace Shape

/-- What an argument of a shape looks like. -/
def Spelled (argument : String) : Shape → Prop
  | stop => argument = "--"
  | long name none => argument = "--" ++ name
  | long name (some value) => argument = "--" ++ name ++ "=" ++ value
  | short letters => argument = "-" ++ String.ofList letters ∧ ∃ c cs, letters = c :: cs ∧ c ≠ '-'
  | plain => IsPlain argument

theorem spelled {argument : String} {s : Shape} (hs : Shape.of argument = s) :
    s.Spelled argument := by
  subst hs
  unfold Shape.of
  split
  next h => exact String.toList_inj.1 h
  next cs hcs h =>
    dsimp only
    cases hvalue : cs.dropWhile (· != '=') with
    | nil => exact String.toList_inj.1 (by simp [h, eq_of_dropWhile_eq_nil hvalue])
    | cons a value => exact String.toList_inj.1 (by simp [h, eq_of_dropWhile_eq_cons hvalue])
  next h => exact .inl (String.toList_inj.1 h)
  next cs h₁ h₂ h₃ h =>
    refine ⟨String.toList_inj.1 (by simp [h]), ?_⟩
    cases cs with
    | nil => exact absurd rfl h₃
    | cons c cs => exact ⟨c, cs, rfl, fun e => h₂ cs (e ▸ rfl)⟩
  next h₁ h₂ h₃ h₄ =>
    refine .inr fun hhead => ?_
    obtain ⟨cs, hcs⟩ := List.head?_eq_some_iff.1 hhead
    exact h₄ cs hcs

theorem of_plain {argument : String} (h : IsPlain argument) : Shape.of argument = plain := by
  rcases h with rfl | h
  · decide
  · unfold Shape.of
    split <;> simp_all

/-- After two hyphens there is the name of an option, and its value after an equals sign. -/
theorem of_hyphens {argument : String} {cs : List Char} (h : argument.toList = '-' :: '-' :: cs)
    (hne : cs ≠ []) :
    Shape.of argument = long (String.ofList (cs.takeWhile (· != '=')))
      ((cs.dropWhile (· != '=')).tail?.map String.ofList) := by
  unfold Shape.of
  split
  next h' => simp_all
  next cs' _ h' =>
    obtain rfl : cs' = cs := by simp_all
    dsimp only
    cases cs'.dropWhile (· != '=') <;> rfl
  next h' => simp_all
  next cs' _ h₂ _ h' =>
    obtain rfl : cs' = '-' :: cs := by simp_all
    exact absurd rfl (h₂ cs)
  next h₄ => exact absurd h (h₄ _)

theorem of_long {name : String} (hne : name ≠ "") (h : '=' ∉ name.toList) :
    Shape.of ("--" ++ name) = long name none := by
  rw [of_hyphens (by simp) (mt String.toList_eq_nil_iff.1 hne), takeWhile_eq_self_of_not_mem h,
    dropWhile_eq_nil_of_not_mem h, String.ofList_toList]
  rfl

theorem of_long_value {name : String} (h : '=' ∉ name.toList) (value : String) :
    Shape.of ("--" ++ name ++ "=" ++ value) = long name (some value) := by
  have htext : ("--" ++ name ++ "=" ++ value).toList =
      '-' :: '-' :: (name.toList ++ '=' :: value.toList) := by simp
  rw [of_hyphens htext (by simp), takeWhile_append_equals h, dropWhile_append_equals h,
    String.ofList_toList, List.tail?_cons, Option.map_some, String.ofList_toList]

theorem of_short {c : Char} (h : c ≠ '-') (cs : List Char) :
    Shape.of ("-" ++ String.ofList (c :: cs)) = short (c :: cs) := by
  have htext : ("-" ++ String.ofList (c :: cs)).toList = '-' :: c :: cs := by simp
  unfold Shape.of
  rw [htext]
  split <;> simp_all

end Shape

/-! ## Items -/

/-- One thing that arguments say: an option with its value, which is empty for a flag, or an
argument that belongs to no option. -/
inductive Item
  | option (form : OptionForm) (value : String)
  | other (argument : String)

/-- The option that has a name, and that value, if the item is one. -/
def Item.valueOf? (name : String) : Item → Option String
  | option form value => if form.name = name then some value else none
  | other _ => none

def Item.other? : Item → Option String
  | option _ _ => none
  | other argument => some argument

/-- The values of an option, in order. -/
def Item.values (name : String) (items : List Item) : List String :=
  items.filterMap (valueOf? name)

/-- The arguments that belong to no option, in order. -/
def Item.others (items : List Item) : List String :=
  items.filterMap other?

def Parsed.addItem? (p : Parsed) : Item → Option Parsed
  | .option form value => p.add? form value
  | .other argument => some (p.addOther argument)

def Parsed.addItems? (p : Parsed) (items : List Item) : Option Parsed :=
  items.foldlM addItem? p

/-- Letters after a hyphen stand for some items, and for an option that still needs its value. -/
inductive SpellsLetters (forms : List OptionForm) :
    List Char → List Item → Option OptionForm → Prop
  | nil : SpellsLetters forms [] [] none
  | flag {form c cs items pending} : form ∈ forms → form.letter = some c → form.kind = .flag →
      SpellsLetters forms cs items pending →
      SpellsLetters forms (c :: cs) (.option form "" :: items) pending
  | pending {form c} : form ∈ forms → form.letter = some c → form.kind ≠ .flag →
      SpellsLetters forms [c] [] (some form)
  | equals {form c} (value : List Char) : form ∈ forms → form.letter = some c →
      form.kind ≠ .flag →
      SpellsLetters forms (c :: '=' :: value) [.option form (String.ofList value)] none
  | joined {form c value} : form ∈ forms → form.letter = some c → form.kind ≠ .flag →
      value ≠ [] → value.head? ≠ some '=' →
      SpellsLetters forms (c :: value) [.option form (String.ofList value)] none

/-- Arguments stand for items, after an option that still needs its value if one is pending. -/
inductive Spells (forms : List OptionForm) : Option OptionForm → List String → List Item → Prop
  | nil : Spells forms none [] []
  | stop (rest : List String) : Spells forms none ("--" :: rest) (rest.map .other)
  | other {argument rest items} : IsPlain argument → Spells forms none rest items →
      Spells forms none (argument :: rest) (.other argument :: items)
  | flag {form rest items} : form ∈ forms → form.kind = .flag → Spells forms none rest items →
      Spells forms none (("--" ++ form.name) :: rest) (.option form "" :: items)
  | long {form rest items} : form ∈ forms → form.kind ≠ .flag →
      Spells forms (some form) rest items → Spells forms none (("--" ++ form.name) :: rest) items
  | equals {form rest items} (value : String) : form ∈ forms → form.kind ≠ .flag →
      Spells forms none rest items →
      Spells forms none (("--" ++ form.name ++ "=" ++ value) :: rest) (.option form value :: items)
  | letters {c cs here pending rest items} : c ≠ '-' → SpellsLetters forms (c :: cs) here pending →
      Spells forms pending rest items →
      Spells forms none (("-" ++ String.ofList (c :: cs)) :: rest) (here ++ items)
  | value {form argument rest items} : IsPlain argument → Spells forms none rest items →
      Spells forms (some form) (argument :: rest) (.option form argument :: items)

/-- Options can be told apart by name and by letter, and can be written as arguments. -/
structure Proper (forms : List OptionForm) : Prop where
  name : ∀ form ∈ forms, forms.find? (·.name == form.name) = some form
  letter : ∀ form ∈ forms, ∀ c, form.letter = some c →
    forms.find? (·.letter == some c) = some form
  name_ne : ∀ form ∈ forms, form.name ≠ ""
  not_mem_name : ∀ form ∈ forms, '=' ∉ form.name.toList

theorem proper_expandForms : Proper expandForms where
  name := by simp [expandForms, verboseForm]
  letter := by simp [expandForms, verboseForm]
  name_ne := by simp [expandForms, verboseForm]
  not_mem_name := by simp [expandForms, verboseForm]

/-! ## Reading what is spelled -/

def Letters.parsed : Letters → Parsed
  | flags p => p
  | value p => p
  | pending p _ => p

def Letters.pending? : Letters → Option OptionForm
  | flags _ => none
  | value _ => none
  | pending _ form => some form

section Reading

variable {forms : List OptionForm}

theorem Parsed.addItems?_cons (p : Parsed) (item : Item) (items : List Item) :
    p.addItems? (item :: items) = (p.addItem? item).bind (·.addItems? items) :=
  List.foldlM_cons

theorem Parsed.addItems?_append (p : Parsed) (items items' : List Item) :
    p.addItems? (items ++ items') = (p.addItems? items).bind (·.addItems? items') :=
  List.foldlM_append

theorem Parsed.addItems?_others (p : Parsed) (arguments : List String) :
    p.addItems? (arguments.map .other) = some { p with others := p.others ++ arguments } := by
  induction arguments generalizing p with
  | nil => simp [addItems?]
  | cons argument rest ih =>
    rw [List.map_cons, addItems?_cons, addItem?, Option.bind_some, ih]
    simp [addOther]

/-- The letter of an option with a value takes all letters after it. -/
theorem readLetters?_value {form : OptionForm} {c : Char} (p : Parsed) (cs : List Char)
    (hfind : forms.find? (·.letter == some c) = some form) (hkind : form.kind ≠ .flag) :
    readLetters? forms p (c :: cs) =
      match cs with
      | [] => some (.pending p form)
      | '=' :: value => (p.add? form (String.ofList value)).map .value
      | value => (p.add? form (String.ofList value)).map .value := by
  rw [readLetters?, hfind]
  dsimp only
  cases hform : form.kind with
  | flag => exact absurd hform hkind
  | path | texts => split <;> simp_all

/-- Letters are read as what they spell. -/
theorem readLetters?_of_spells (hforms : Proper forms) {letters : List Char} {items : List Item}
    {pending : Option OptionForm} (h : SpellsLetters forms letters items pending) (p : Parsed) :
    (readLetters? forms p letters).map (fun l => (l.parsed, l.pending?)) =
      (p.addItems? items).map (·, pending) := by
  induction h generalizing p with
  | nil => rfl
  | @flag form c cs items pending hmem hletter hkind _ ih =>
    rw [readLetters?, hforms.letter form hmem c hletter, Parsed.addItems?_cons, Parsed.addItem?]
    simp only [hkind]
    cases p.add? form "" with
    | none => rfl
    | some p => exact ih p
  | @pending form c hmem hletter hkind =>
    rw [readLetters?_value p [] (hforms.letter form hmem c hletter) hkind]
    rfl
  | @equals form c value hmem hletter hkind =>
    rw [readLetters?_value p _ (hforms.letter form hmem c hletter) hkind, Parsed.addItems?_cons,
      Parsed.addItem?]
    simp only
    cases p.add? form (String.ofList value) <;> rfl
  | @joined form c value hmem hletter hkind hne hhead =>
    rw [readLetters?_value p _ (hforms.letter form hmem c hletter) hkind, Parsed.addItems?_cons,
      Parsed.addItem?]
    split
    · exact absurd rfl hne
    · exact absurd rfl hhead
    · cases p.add? form (String.ofList value) <;> rfl

/-- Arguments are read as what they spell. -/
theorem readArguments?_of_spells (hforms : Proper forms) {pending : Option OptionForm}
    {arguments : List String} {items : List Item} (h : Spells forms pending arguments items)
    (p : Parsed) : readArguments? forms pending p arguments = p.addItems? items := by
  induction h generalizing p with
  | nil => rfl
  | stop rest =>
    rw [readArguments?, show Shape.of "--" = .stop by decide, Parsed.addItems?_others]
  | other hplain _ ih =>
    rw [readArguments?, Shape.of_plain hplain, Parsed.addItems?_cons]
    exact ih _
  | @flag form rest items hmem hkind _ ih =>
    rw [readArguments?, Shape.of_long (hforms.name_ne form hmem) (hforms.not_mem_name form hmem),
      Parsed.addItems?_cons, Parsed.addItem?]
    simp only [hforms.name form hmem, hkind]
    cases p.add? form "" with
    | none => rfl
    | some p => exact ih p
  | @long form rest items hmem hkind _ ih =>
    rw [readArguments?, Shape.of_long (hforms.name_ne form hmem) (hforms.not_mem_name form hmem)]
    simp only [hforms.name form hmem]
    cases hform : form.kind with
    | flag => exact absurd hform hkind
    | path => exact ih p
    | texts => exact ih p
  | @equals form rest items value hmem hkind _ ih =>
    rw [readArguments?, Shape.of_long_value (hforms.not_mem_name form hmem),
      Parsed.addItems?_cons, Parsed.addItem?]
    simp only [hforms.name form hmem]
    cases hform : form.kind with
    | flag => exact absurd hform hkind
    | path | texts =>
      cases p.add? form value with
      | none => rfl
      | some p => exact ih p
  | @letters c cs here pending rest items hc hletters _ ih =>
    have hread := readLetters?_of_spells hforms hletters p
    rw [readArguments?, Shape.of_short hc, Parsed.addItems?_append]
    dsimp only
    cases hparsed : p.addItems? here with
    | none =>
      rw [hparsed, Option.map_none, Option.map_eq_none_iff] at hread
      rw [hread]
      rfl
    | some p' =>
      rw [hparsed, Option.map_some, Option.map_eq_some_iff] at hread
      obtain ⟨l, hl, hpair⟩ := hread
      obtain ⟨rfl, rfl⟩ := Prod.mk.inj hpair
      rw [hl]
      cases l <;> exact ih _
  | @value form argument rest items hplain _ ih =>
    rw [readArguments?, Shape.of_plain hplain, Parsed.addItems?_cons, Parsed.addItem?]
    dsimp only
    cases p.add? form argument with
    | none => rfl
    | some p => exact ih p

/-! ## What is read is spelled -/

theorem mem_of_find?_name {form : OptionForm} {name : String}
    (h : forms.find? (·.name == name) = some form) : form ∈ forms ∧ form.name = name :=
  ⟨List.mem_of_find?_eq_some h, by simpa using List.find?_some h⟩

theorem mem_of_find?_letter {form : OptionForm} {c : Char}
    (h : forms.find? (·.letter == some c) = some form) : form ∈ forms ∧ form.letter = some c :=
  ⟨List.mem_of_find?_eq_some h, by simpa using List.find?_some h⟩

theorem exists_spellsLetters {p : Parsed} {letters : List Char} {l : Letters}
    (h : readLetters? forms p letters = some l) :
    ∃ items, SpellsLetters forms letters items l.pending? := by
  fun_induction readLetters? forms p letters with
  | case1 p =>
    cases h
    exact ⟨_, .nil⟩
  | case2 | case4 => cases h
  | case3 p c cs form hfind hkind p' hadd ih =>
    obtain ⟨hmem, hletter⟩ := mem_of_find?_letter hfind
    obtain ⟨items, hitems⟩ := ih h
    exact ⟨_, .flag hmem hletter hkind hitems⟩
  | case5 p c form hfind hkind =>
    cases h
    obtain ⟨hmem, hletter⟩ := mem_of_find?_letter hfind
    exact ⟨_, .pending hmem hletter hkind⟩
  | case6 p c form hfind value hkind =>
    obtain ⟨p', -, rfl⟩ := Option.map_eq_some_iff.1 h
    obtain ⟨hmem, hletter⟩ := mem_of_find?_letter hfind
    exact ⟨_, .equals value hmem hletter hkind⟩
  | case7 p c form hfind value hne hhead hkind =>
    obtain ⟨p', -, rfl⟩ := Option.map_eq_some_iff.1 h
    obtain ⟨hmem, hletter⟩ := mem_of_find?_letter hfind
    refine ⟨_, .joined hmem hletter hkind hne fun hequals => ?_⟩
    obtain ⟨rest, rfl⟩ := List.head?_eq_some_iff.1 hequals
    exact hhead rest rfl

theorem exists_spells {pending : Option OptionForm} {p q : Parsed} {arguments : List String}
    (h : readArguments? forms pending p arguments = some q) :
    ∃ items, Spells forms pending arguments items := by
  fun_induction readArguments? forms pending p arguments with
  | case1 p => exact ⟨_, .nil⟩
  | case2 | case4 | case5 | case8 | case9 | case11 | case13 | case15 => cases h
  | case3 form p argument rest hshape p' hadd ih =>
    obtain ⟨items, hitems⟩ := ih h
    exact ⟨_, .value (Shape.spelled hshape) hitems⟩
  | case6 p argument rest hshape =>
    obtain rfl : argument = "--" := Shape.spelled hshape
    exact ⟨_, .stop rest⟩
  | case7 p argument rest hshape ih =>
    obtain ⟨items, hitems⟩ := ih h
    exact ⟨_, .other (Shape.spelled hshape) hitems⟩
  | case10 p argument rest name form hfind hkind p' hadd hshape ih =>
    obtain rfl : argument = "--" ++ name := Shape.spelled hshape
    obtain ⟨hmem, rfl⟩ := mem_of_find?_name hfind
    obtain ⟨items, hitems⟩ := ih h
    exact ⟨_, .flag hmem hkind hitems⟩
  | case12 p argument rest name form hfind value p' hadd hkind hshape ih =>
    obtain rfl : argument = "--" ++ name ++ "=" ++ value := Shape.spelled hshape
    obtain ⟨hmem, rfl⟩ := mem_of_find?_name hfind
    obtain ⟨items, hitems⟩ := ih h
    exact ⟨_, .equals value hmem hkind hitems⟩
  | case14 p argument rest name form hfind hkind hshape ih =>
    obtain rfl : argument = "--" ++ name := Shape.spelled hshape
    obtain ⟨hmem, rfl⟩ := mem_of_find?_name hfind
    obtain ⟨items, hitems⟩ := ih h
    exact ⟨_, .long hmem hkind hitems⟩
  | case16 p argument rest letters hshape p' hread ih
  | case17 p argument rest letters hshape p' hread ih
  | case18 p argument rest letters hshape p' form hread ih =>
    obtain ⟨rfl, c, cs, rfl, hc⟩ := Shape.spelled hshape
    obtain ⟨here, hhere⟩ := exists_spellsLetters hread
    obtain ⟨items, hitems⟩ := ih h
    exact ⟨_, .letters hc hhere hitems⟩

end Reading

/-! ## Admissible items -/

/-- Some items can be added to what is known: flags and paths are given once, those given before
counted, and no path is empty. -/
structure Parsed.Admits (p : Parsed) (items : List Item) : Prop where
  once : ∀ form value, .option form value ∈ items → form.kind ≠ .texts →
    (p.values form.name ++ Item.values form.name items).length ≤ 1
  filled : ∀ form value, .option form value ∈ items → form.kind = .path → value ≠ ""

/-- The options among some items have forms from a list. -/
def Item.Within (forms : List OptionForm) (items : List Item) : Prop :=
  ∀ form value, .option form value ∈ items → form ∈ forms

section Admissible

variable {forms : List OptionForm} {items : List Item}

theorem Item.within_cons_option {form : OptionForm} {value : String} (h : form ∈ forms)
    (hitems : Within forms items) : Within forms (.option form value :: items) := by
  intro f v hmem
  rcases List.mem_cons.1 hmem with heq | hmem
  · cases heq
    exact h
  · exact hitems f v hmem

theorem Item.within_cons_other (argument : String) (hitems : Within forms items) :
    Within forms (.other argument :: items) := by
  intro f v hmem
  rcases List.mem_cons.1 hmem with heq | hmem
  · cases heq
  · exact hitems f v hmem

theorem SpellsLetters.within {letters : List Char} {pending : Option OptionForm}
    (h : SpellsLetters forms letters items pending) :
    Item.Within forms items ∧ ∀ form ∈ pending, form ∈ forms := by
  have hnil : Item.Within forms [] := fun _ _ hmem => absurd hmem List.not_mem_nil
  induction h with
  | nil => exact ⟨hnil, by simp⟩
  | flag hmem _ _ _ ih => exact ⟨Item.within_cons_option hmem ih.1, ih.2⟩
  | pending hmem => exact ⟨hnil, by simpa using hmem⟩
  | equals value hmem => exact ⟨Item.within_cons_option hmem hnil, by simp⟩
  | joined hmem => exact ⟨Item.within_cons_option hmem hnil, by simp⟩

theorem Spells.within {pending : Option OptionForm} {arguments : List String}
    (h : Spells forms pending arguments items) (hpending : ∀ form ∈ pending, form ∈ forms) :
    Item.Within forms items := by
  induction h with
  | nil => exact fun _ _ hmem => absurd hmem List.not_mem_nil
  | stop rest => simp [Item.Within]
  | other _ _ ih => exact Item.within_cons_other _ (ih (by simp))
  | flag hmem _ _ ih => exact Item.within_cons_option hmem (ih (by simp))
  | long hmem _ _ ih => exact ih (by simpa using hmem)
  | equals value hmem _ _ ih => exact Item.within_cons_option hmem (ih (by simp))
  | letters _ hletters _ ih =>
    intro form value hmem
    obtain ⟨hhere, hpending'⟩ := hletters.within
    rcases List.mem_append.1 hmem with hmem | hmem
    · exact hhere form value hmem
    · exact ih hpending' form value hmem
  | value _ _ ih => exact Item.within_cons_option (hpending _ rfl) (ih (by simp))

theorem Proper.eq_of_name (hforms : Proper forms) {f g : OptionForm} (hf : f ∈ forms)
    (hg : g ∈ forms) (h : f.name = g.name) : f = g := by
  have hfind := hforms.name f hf
  rw [h, hforms.name g hg] at hfind
  exact (Option.some.inj hfind).symm

theorem Item.values_cons_option (name : String) (form : OptionForm) (value : String) :
    values name (.option form value :: items) =
      (if form.name = name then [value] else []) ++ values name items := by
  by_cases h : form.name = name
  · simp [values, valueOf?, h]
  · simp [values, valueOf?, h]

theorem Item.exists_of_values_ne_nil {name : String} (h : values name items ≠ []) :
    ∃ form value, .option form value ∈ items ∧ form.name = name := by
  induction items with
  | nil => exact absurd rfl h
  | cons item items ih =>
    cases item with
    | other argument =>
      obtain ⟨form, value, hmem, hname⟩ := ih h
      exact ⟨form, value, List.mem_cons_of_mem _ hmem, hname⟩
    | option form value =>
      by_cases hname : form.name = name
      · exact ⟨form, value, List.mem_cons_self, hname⟩
      · rw [values_cons_option, if_neg hname] at h
        obtain ⟨form', value', hmem, hname'⟩ := ih h
        exact ⟨form', value', List.mem_cons_of_mem _ hmem, hname'⟩

theorem Parsed.has_iff (p : Parsed) (name : String) : p.has name ↔ p.values name ≠ [] := by
  simp [has, values, List.filterMap_eq_nil_iff]

theorem Parsed.add?_eq_some_iff {p q : Parsed} {form : OptionForm} {value : String} :
    p.add? form value = some q ↔
      (form.kind ≠ .texts → p.values form.name = []) ∧ (form.kind = .path → value ≠ "") ∧
        q = { p with options := p.options ++ [(form.name, value)] } := by
  have hhas : p.has form.name = false ↔ p.values form.name = [] := by
    rw [← Bool.not_eq_true, has_iff, not_not]
  unfold add?
  cases form.kind <;> simp [hhas, eq_comm (a := q), and_assoc]

theorem Parsed.values_add (p : Parsed) (name name' value : String) :
    ({ p with options := p.options ++ [(name', value)] } : Parsed).values name =
      p.values name ++ if name' = name then [value] else [] := by
  by_cases h : name' = name
  · simp [values, h]
  · simp [values, h]

theorem Parsed.values_of_addItems? {p q : Parsed} (h : p.addItems? items = some q)
    (name : String) : q.values name = p.values name ++ Item.values name items := by
  induction items generalizing p with
  | nil =>
    cases h
    exact (List.append_nil _).symm
  | cons item items ih =>
    rw [addItems?_cons, Option.bind_eq_some_iff] at h
    obtain ⟨p', hitem, hitems⟩ := h
    rw [ih hitems]
    cases item with
    | option form value =>
      obtain ⟨-, -, rfl⟩ := add?_eq_some_iff.1 hitem
      rw [values_add, Item.values_cons_option, List.append_assoc]
    | other argument =>
      cases hitem
      rfl

theorem Parsed.others_of_addItems? {p q : Parsed} (h : p.addItems? items = some q) :
    q.others = p.others ++ Item.others items := by
  induction items generalizing p with
  | nil =>
    cases h
    exact (List.append_nil _).symm
  | cons item items ih =>
    rw [addItems?_cons, Option.bind_eq_some_iff] at h
    obtain ⟨p', hitem, hitems⟩ := h
    rw [ih hitems]
    cases item with
    | option form value =>
      obtain ⟨-, -, rfl⟩ := add?_eq_some_iff.1 hitem
      rfl
    | other argument =>
      cases hitem
      simp [addOther, Item.others, Item.other?]

theorem Parsed.admits_cons_other {p : Parsed} {argument : String} :
    p.Admits (.other argument :: items) ↔ (p.addOther argument).Admits items := by
  constructor
  · rintro ⟨honce, hfilled⟩
    exact ⟨fun f v hmem => honce f v (List.mem_cons_of_mem _ hmem),
      fun f v hmem => hfilled f v (List.mem_cons_of_mem _ hmem)⟩
  · rintro ⟨honce, hfilled⟩
    refine ⟨fun f v hmem => honce f v ?_, fun f v hmem => hfilled f v ?_⟩ <;> simpa using hmem

/-- An option can be added, and then further items, when all of them can. -/
theorem Parsed.admits_cons_option {p : Parsed} {form : OptionForm} {value : String}
    (hforms : Proper forms) (hwithin : Item.Within forms (.option form value :: items)) :
    p.Admits (.option form value :: items) ↔
      (form.kind ≠ .texts → p.values form.name = []) ∧ (form.kind = .path → value ≠ "") ∧
        ({ p with options := p.options ++ [(form.name, value)] } : Parsed).Admits items := by
  have hcount : ∀ name,
      p.values name ++ Item.values name (.option form value :: items) =
        ({ p with options := p.options ++ [(form.name, value)] } : Parsed).values name ++
          Item.values name items := fun name => by
    rw [values_add, Item.values_cons_option, List.append_assoc]
  have hcons : ∀ {f v}, Item.option f v ∈ items → Item.option f v ∈ .option form value :: items :=
    List.mem_cons_of_mem _
  constructor
  · rintro ⟨honce, hfilled⟩
    refine ⟨fun hkind => ?_, hfilled form value List.mem_cons_self, fun f v hmem hkind => ?_,
      fun f v hmem => hfilled f v (hcons hmem)⟩
    · have hlength := honce form value List.mem_cons_self hkind
      rw [Item.values_cons_option, if_pos rfl] at hlength
      simp only [List.length_append, List.length_singleton] at hlength
      exact List.length_eq_zero_iff.1 (by omega)
    · rw [← hcount]
      exact honce f v (hcons hmem) hkind
  · rintro ⟨hfirst, hpath, honce, hfilled⟩
    refine ⟨fun f v hmem hkind => ?_, fun f v hmem => ?_⟩
    · rw [hcount]
      rcases List.mem_cons.1 hmem with heq | hmem
      · cases heq
        by_cases hlater : Item.values form.name items = []
        · rw [hlater, values_add, hfirst hkind]
          simp
        -- a later option of this name has the same form, so it counts too
        · obtain ⟨g, w, hg, hname⟩ := Item.exists_of_values_ne_nil hlater
          obtain rfl : g = form := hforms.eq_of_name (hwithin g w (hcons hg))
            (hwithin form value List.mem_cons_self) hname
          exact honce g w hg hkind
      · exact honce f v hmem hkind
    · rcases List.mem_cons.1 hmem with heq | hmem
      · cases heq
        exact hpath
      · exact hfilled f v hmem

theorem Parsed.exists_addItems?_iff (hforms : Proper forms) (hwithin : Item.Within forms items)
    (p : Parsed) : (∃ q, p.addItems? items = some q) ↔ p.Admits items := by
  induction items generalizing p with
  | nil => exact ⟨fun _ => ⟨by simp, by simp⟩, fun _ => ⟨p, rfl⟩⟩
  | cons item items ih =>
    have hrest : Item.Within forms items := fun f v hmem =>
      hwithin f v (List.mem_cons_of_mem _ hmem)
    simp only [addItems?_cons, Option.bind_eq_some_iff]
    cases item with
    | other argument =>
      rw [admits_cons_other, ← ih hrest]
      simp [addItem?]
    | option form value =>
      rw [admits_cons_option hforms hwithin, ← ih hrest]
      constructor
      · rintro ⟨q, p', hitem, hitems⟩
        obtain ⟨honce, hfilled, rfl⟩ := add?_eq_some_iff.1 hitem
        exact ⟨honce, hfilled, q, hitems⟩
      · rintro ⟨honce, hfilled, q, hitems⟩
        exact ⟨q, _, add?_eq_some_iff.2 ⟨honce, hfilled, rfl⟩, hitems⟩

end Admissible

/-! ## Asking for an expansion -/

/-- What some items ask for. -/
def Expansion.ofItems (items : List Item) : Expansion where
  template := (Item.others items).head?
  file := (Item.values "file" items).head?
  buildFile := (Item.values "vars" items).head?
  definitions := Item.values "define" items
  builtins := Item.values "builtin" items
  source := (Item.values "source" items).head?
  safe := !(Item.values "safe" items).isEmpty

/-- Arguments that ask for an expansion by the items that they stand for. The option `verbose` can
come before the command. -/
structure Invokes (arguments : List String) (items : List Item) : Prop where
  spelled : ∃ before ∈ [[], ["-v"], ["--verbose"]], ∃ rest,
    arguments = before ++ "expand" :: rest ∧ Spells expandForms none rest items
  admitted : Parsed.empty.Admits items
  others : (Item.others items).length ≤ 1

theorem Expansion.ofItems_eq {items : List Item} {p : Parsed}
    (hvalues : ∀ name, p.values name = Item.values name items)
    (hothers : p.others = Item.others items) :
    (⟨p.others.head?, (p.values "file").head?, (p.values "vars").head?, p.values "define",
        p.values "builtin", (p.values "source").head?, p.has "safe"⟩ : Expansion) =
      ofItems items := by
  have hsafe : p.has "safe" = !(Item.values "safe" items).isEmpty := by
    rw [Bool.eq_iff_iff, p.has_iff, hvalues]
    simp
  rw [hsafe, hvalues, hvalues, hvalues, hvalues, hvalues, hothers]
  rfl

theorem command?_expand_iff {arguments : List String} {c : Command} :
    command? "expand" arguments = some c ↔
      ∃ items, Spells expandForms none arguments items ∧ Parsed.empty.Admits items ∧
        (Item.others items).length ≤ 1 ∧ c = .expand (.ofItems items) := by
  have hcommand : command? "expand" arguments = some c ↔
      ∃ p, readArguments? expandForms none .empty arguments = some p ∧ p.others.length ≤ 1 ∧
        c = .expand ⟨p.others.head?, (p.values "file").head?, (p.values "vars").head?,
          p.values "define", p.values "builtin", (p.values "source").head?, p.has "safe"⟩ := by
    show (readArguments? expandForms none .empty arguments).bind (fun p =>
      (guard (p.others.length ≤ 1) : Option Unit).bind fun _ => some (Command.expand _)) =
        some c ↔ _
    rw [Option.bind_eq_some_iff]
    refine exists_congr fun p => and_congr_right fun _ => ?_
    by_cases hlength : p.others.length ≤ 1
    · have hguard : (guard (p.others.length ≤ 1) : Option Unit) = some () := if_pos hlength
      rw [hguard, Option.bind_some, Option.some.injEq, eq_comm, and_iff_right hlength]
    · have hguard : (guard (p.others.length ≤ 1) : Option Unit) = none := if_neg hlength
      rw [hguard, Option.bind_none]
      constructor
      · intro h
        cases h
      · exact fun h => absurd h.1 hlength
  rw [hcommand]
  constructor
  · rintro ⟨p, hp, hlength, hc⟩
    obtain ⟨items, hitems⟩ := exists_spells hp
    rw [readArguments?_of_spells proper_expandForms hitems] at hp
    have hothers : p.others = Item.others items := Parsed.others_of_addItems? hp
    have hadmits := (Parsed.exists_addItems?_iff proper_expandForms (hitems.within (by simp)) _).1
      ⟨p, hp⟩
    rw [Expansion.ofItems_eq (Parsed.values_of_addItems? hp) hothers] at hc
    exact ⟨items, hitems, hadmits, hothers ▸ hlength, hc⟩
  · rintro ⟨items, hitems, hadmits, hlength, hc⟩
    obtain ⟨p, hp⟩ :=
      (Parsed.exists_addItems?_iff proper_expandForms (hitems.within (by simp)) _).2 hadmits
    have hothers : p.others = Item.others items := Parsed.others_of_addItems? hp
    refine ⟨p, ?_, hothers ▸ hlength, ?_⟩
    · rw [readArguments?_of_spells proper_expandForms hitems, hp]
    · rw [Expansion.ofItems_eq (Parsed.values_of_addItems? hp) hothers, hc]

theorem eq_expand_of_command? {name : String} {arguments : List String} {e : Expansion}
    (h : command? name arguments = some (.expand e)) : name = "expand" := by
  unfold command? at h
  split at h
  · rfl
  · simp only [bind, Option.bind_eq_some_iff] at h
    obtain ⟨p, -, hp⟩ := h
    split at hp
    · split at hp <;> cases hp
    · cases hp
  · simp only [bind, Option.bind_eq_some_iff] at h
    obtain ⟨p, -, hp⟩ := h
    split at hp <;> cases hp
  · cases h

/-- Of the letters before the command only a single `v` leads on. -/
theorem eq_of_leadingLetters? {verbose verbose' : Bool} {c : Char} {cs : List Char}
    (h : leadingLetters? verbose (c :: cs) = some (.more verbose')) :
    verbose = false ∧ c :: cs = ['v'] ∧ verbose' = true := by
  have htrue : ∀ cs v, leadingLetters? true cs = some (.more v) → cs = [] ∧ v = true := by
    intro cs v h
    unfold leadingLetters? at h
    split at h <;> simp_all
  unfold leadingLetters? at h
  split at h
  next heq => cases heq
  next => cases h
  next => cases h
  next cs' heq =>
    cases heq
    cases verbose with
    | true => cases h
    | false =>
      obtain ⟨rfl, rfl⟩ := htrue _ _ h
      exact ⟨rfl, rfl, rfl⟩
  next => cases h

/-- Asking for help is no expansion. -/
theorem or_help_eq_expand_iff {c : Option Command} {asked : Bool} {e : Expansion} :
    c.or (if asked then some .help else none) = some (.expand e) ↔ c = some (.expand e) := by
  cases c <;> cases asked <;> simp

/-- The first argument is the command, or else it asks for a verbose run. -/
theorem Command.ofArguments?_cons_eq_expand_iff {verbose : Bool} {argument : String}
    {rest : List String} {e : Expansion} :
    ofArguments? verbose (argument :: rest) = some (.expand e) ↔
      (argument = "expand" ∧ command? "expand" rest = some (.expand e)) ∨
      (verbose = false ∧ (argument = "-v" ∨ argument = "--verbose") ∧
        ofArguments? true rest = some (.expand e)) := by
  constructor
  · intro h
    rw [ofArguments?] at h
    cases hshape : Shape.of argument with
    | plain =>
      rw [hshape] at h
      replace h := or_help_eq_expand_iff.1 h
      obtain rfl := eq_expand_of_command? h
      exact .inl ⟨rfl, h⟩
    | stop =>
      rw [hshape] at h
      cases h
    | long name value? =>
      rw [hshape] at h
      dsimp only at h
      split_ifs at h with hvalue hversion hhelp hverbose
      · cases h
      · cases h
      · simp only [Bool.and_eq_true, Bool.not_eq_true', decide_eq_true_eq] at hverbose
        obtain ⟨rfl, rfl⟩ := hverbose
        obtain rfl : value? = none := by simpa using hvalue
        exact .inr ⟨rfl, .inr (Shape.spelled hshape), h⟩
    | short letters =>
      rw [hshape] at h
      obtain ⟨rfl, c, cs, rfl, -⟩ := Shape.spelled hshape
      dsimp only at h
      split at h
      · next verbose' hletters =>
        obtain ⟨rfl, hcs, rfl⟩ := eq_of_leadingLetters? hletters
        exact .inr ⟨rfl, .inl (hcs ▸ rfl), h⟩
      · cases h
      · cases h
      · cases h
  · rintro (⟨rfl, h⟩ | ⟨rfl, rfl | rfl, h⟩)
    · rw [ofArguments?, show Shape.of "expand" = .plain by decide]
      exact or_help_eq_expand_iff.2 h
    · rw [ofArguments?, show Shape.of "-v" = .short ['v'] by decide]
      exact h
    · rw [ofArguments?, show Shape.of "--verbose" = .long "verbose" none by decide]
      exact h

/-- **The arguments that ask for an expansion are those that spell one.** -/
theorem Command.ofArguments?_eq_expand_iff {arguments : List String} {e : Expansion} :
    ofArguments? false arguments = some (.expand e) ↔
      ∃ items, Invokes arguments items ∧ e = .ofItems items := by
  have hexpand : ∀ rest, command? "expand" rest = some (.expand e) ↔
      ∃ items, Spells expandForms none rest items ∧ Parsed.empty.Admits items ∧
        (Item.others items).length ≤ 1 ∧ e = .ofItems items := by
    simp [command?_expand_iff]
  constructor
  · intro h
    obtain ⟨before, hbefore, rest, rfl, hrest⟩ :
        ∃ before ∈ [[], ["-v"], ["--verbose"]], ∃ rest,
          arguments = before ++ "expand" :: rest ∧ command? "expand" rest = some (.expand e) := by
      obtain _ | ⟨argument, rest⟩ := arguments
      · cases h
      obtain ⟨rfl, hcommand⟩ | ⟨-, hverbose, hnext⟩ := ofArguments?_cons_eq_expand_iff.1 h
      · exact ⟨[], by simp, rest, rfl, hcommand⟩
      obtain _ | ⟨argument', rest⟩ := rest
      · cases hnext
      obtain ⟨rfl, hcommand⟩ | ⟨hfalse, -⟩ := ofArguments?_cons_eq_expand_iff.1 hnext
      · exact ⟨[argument], by simpa using hverbose, rest, rfl, hcommand⟩
      · cases hfalse
    obtain ⟨items, hitems, hadmits, hlength, rfl⟩ := (hexpand rest).1 hrest
    exact ⟨items, ⟨⟨before, hbefore, rest, rfl, hitems⟩, hadmits, hlength⟩, rfl⟩
  · rintro ⟨items, ⟨⟨before, hbefore, rest, rfl, hitems⟩, hadmits, hlength⟩, rfl⟩
    have hrest := (hexpand rest).2 ⟨items, hitems, hadmits, hlength, rfl⟩
    have hnone : ∀ verbose, ofArguments? verbose ("expand" :: rest) =
        some (.expand (.ofItems items)) :=
      fun verbose => ofArguments?_cons_eq_expand_iff.2 (.inl ⟨rfl, hrest⟩)
    simp only [List.mem_cons, List.not_mem_nil, or_false] at hbefore
    rcases hbefore with rfl | rfl | rfl
    · exact hnone false
    · exact ofArguments?_cons_eq_expand_iff.2 (.inr ⟨rfl, .inl rfl, hnone true⟩)
    · exact ofArguments?_cons_eq_expand_iff.2 (.inr ⟨rfl, .inr rfl, hnone true⟩)

/-! ## Interleaving -/

/-- Items in another order that keeps the order of the definitions and that of the built-ins. -/
structure Item.Interleaved (items items' : List Item) : Prop where
  perm : items.Perm items'
  definitions : values "define" items' = values "define" items
  builtins : values "builtin" items' = values "builtin" items

section Interleaving

variable {items items' : List Item}

theorem eq_of_perm_of_length_le_one {α : Type} {as bs : List α} (h : as.Perm bs)
    (hlength : as.length ≤ 1) : bs = as := by
  match as, hlength with
  | [], _ => exact h.nil_eq.symm
  | [a], _ => exact List.perm_singleton.1 h.symm

theorem Parsed.Admits.perm {p : Parsed} (h : p.Admits items) (hperm : items.Perm items') :
    p.Admits items' where
  once form value hmem hkind := by
    have hvalues : (Item.values form.name items).length = (Item.values form.name items').length :=
      (hperm.filterMap _).length_eq
    rw [List.length_append, ← hvalues, ← List.length_append]
    exact h.once form value (hperm.mem_iff.2 hmem) hkind
  filled form value hmem := h.filled form value (hperm.mem_iff.2 hmem)

/-- An option that is not given again has at most one value. -/
theorem length_values_le_one (hwithin : Item.Within expandForms items)
    (h : Parsed.empty.Admits items) {name : String}
    (hname : ∀ form ∈ expandForms, form.name = name → form.kind ≠ .texts) :
    (Item.values name items).length ≤ 1 := by
  by_cases hnil : Item.values name items = []
  · simp [hnil]
  · obtain ⟨form, value, hmem, rfl⟩ := Item.exists_of_values_ne_nil hnil
    exact h.once form value hmem (hname form (hwithin form value hmem) rfl)

theorem Expansion.ofItems_interleaved (hwithin : Item.Within expandForms items)
    (h : Parsed.empty.Admits items) (hothers : (Item.others items).length ≤ 1)
    (hinter : Item.Interleaved items items') : ofItems items' = ofItems items := by
  have honce : ∀ name, (∀ form ∈ expandForms, form.name = name → form.kind ≠ .texts) →
      Item.values name items' = Item.values name items := fun name hname =>
    eq_of_perm_of_length_le_one (hinter.perm.filterMap _) (length_values_le_one hwithin h hname)
  have hothers' : Item.others items' = Item.others items :=
    eq_of_perm_of_length_le_one (hinter.perm.filterMap _) hothers
  rw [ofItems, hothers', honce "file" (by decide), honce "vars" (by decide), hinter.definitions,
    hinter.builtins, honce "source" (by decide), honce "safe" (by decide), ofItems]

end Interleaving

end Stencil.CommandLine
