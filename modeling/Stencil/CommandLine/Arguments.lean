/-!
# Arguments

The commands that arguments stand for. Options may come before and after the other arguments, up to
an argument `--`. An option with a value is written `--name value` or `--name=value`, or with its
letter `-n value`, `-nvalue` or `-n=value`; letters of options without a value can share one hyphen.
An argument that starts with a hyphen is never taken as a value, except a hyphen alone.
-/

namespace Stencil.CommandLine

/-- How often an option can be given, and whether it has a value. A path is a value that is not
empty. -/
inductive OptionKind
  | flag
  | path
  | texts
  deriving DecidableEq

/-- An option. -/
structure OptionForm where
  name : String
  letter : Option Char
  kind : OptionKind

/-- What is known of the arguments: the options with their values, and the other arguments. -/
structure Parsed where
  options : List (String × String)
  others : List String

namespace Parsed

def empty : Parsed := ⟨[], []⟩

/-- Whether an option was given. -/
def has (p : Parsed) (name : String) : Bool :=
  p.options.any (·.1 == name)

/-- The values of an option, in order. -/
def values (p : Parsed) (name : String) : List String :=
  p.options.filterMap fun o => if o.1 = name then some o.2 else none

/-- Adds an option, unless it must not be given again or its value is missing. -/
def add? (p : Parsed) (form : OptionForm) (value : String) : Option Parsed :=
  let refused :=
    match form.kind with
    | .flag => p.has form.name
    | .path => p.has form.name || value == ""
    | .texts => false
  if refused then none else some { p with options := p.options ++ [(form.name, value)] }

/-- Adds an argument that belongs to no option. -/
def addOther (p : Parsed) (argument : String) : Parsed :=
  { p with others := p.others ++ [argument] }

end Parsed

/-- What an argument looks like. -/
inductive Shape
  | stop
  | long (name : String) (value : Option String)
  | short (letters : List Char)
  | plain
  deriving DecidableEq

/-- The shape of an argument. -/
def Shape.of (argument : String) : Shape :=
  match argument.toList with
  | ['-', '-'] => .stop
  | '-' :: '-' :: cs =>
    let name := String.ofList (cs.takeWhile (· != '='))
    match cs.dropWhile (· != '=') with
    | [] => .long name none
    | _ :: value => .long name (some (String.ofList value))
  | ['-'] => .plain
  | '-' :: cs => .short cs
  | _ => .plain

/-- What the letters after a hyphen amount to: all are flags, or the last option has its value here
or in the next argument. -/
inductive Letters
  | flags (parsed : Parsed)
  | value (parsed : Parsed)
  | pending (parsed : Parsed) (form : OptionForm)

/-- Reads the letters after a hyphen. -/
def readLetters? (forms : List OptionForm) (p : Parsed) : List Char → Option Letters
  | [] => some (.flags p)
  | c :: cs =>
    match forms.find? (·.letter == some c) with
    | none => none
    | some form =>
      match form.kind, cs with
      | .flag, _ =>
        match p.add? form "" with
        | some p => readLetters? forms p cs
        | none => none
      | _, [] => some (.pending p form)
      | _, '=' :: value => (p.add? form (String.ofList value)).map .value
      | _, value => (p.add? form (String.ofList value)).map .value

/-- Reads arguments. `pending` is an option that still needs its value. -/
def readArguments? (forms : List OptionForm) :
    (pending : Option OptionForm) → Parsed → List String → Option Parsed
  | none, p, [] => some p
  | some _, _, [] => none
  | some form, p, argument :: rest =>
    match Shape.of argument with
    | .plain =>
      match p.add? form argument with
      | some p => readArguments? forms none p rest
      | none => none
    | _ => none
  | none, p, argument :: rest =>
    match Shape.of argument with
    | .stop => some { p with others := p.others ++ rest }
    | .plain => readArguments? forms none (p.addOther argument) rest
    | .long name value? =>
      match forms.find? (·.name == name) with
      | none => none
      | some form =>
        match form.kind, value? with
        | .flag, some _ => none
        | .flag, none =>
          match p.add? form "" with
          | some p => readArguments? forms none p rest
          | none => none
        | _, some value =>
          match p.add? form value with
          | some p => readArguments? forms none p rest
          | none => none
        | _, none => readArguments? forms (some form) p rest
    | .short letters =>
      match readLetters? forms p letters with
      | none => none
      | some (.flags p) => readArguments? forms none p rest
      | some (.value p) => readArguments? forms none p rest
      | some (.pending p form) => readArguments? forms (some form) p rest

/-! ## Commands -/

/-- What to expand, and with which variables. -/
structure Expansion where
  template : Option String
  file : Option String
  buildFile : Option String
  definitions : List String
  builtins : List String
  source : Option String
  safe : Bool
  deriving DecidableEq, Repr

/-- What to do. -/
inductive Command
  | version
  | help
  | expand (e : Expansion)
  | check (path : String)
  | refs (name template : String)
  deriving DecidableEq, Repr

/-- The option that every command has. -/
def verboseForm : OptionForm := ⟨"verbose", some 'v', .flag⟩

/-- The options of `expand`. -/
def expandForms : List OptionForm := [
  verboseForm,
  ⟨"file", some 'f', .path⟩,
  ⟨"vars", none, .path⟩,
  ⟨"define", some 'D', .texts⟩,
  ⟨"builtin", some 'B', .texts⟩,
  ⟨"source", none, .path⟩,
  ⟨"safe", none, .flag⟩]

/-- The command with a given name. -/
def command? (name : String) (arguments : List String) : Option Command := do
  match name with
  | "expand" =>
    let p ← readArguments? expandForms none .empty arguments
    guard (p.others.length ≤ 1)
    pure (.expand
      { template := p.others.head?
        file := (p.values "file").head?
        buildFile := (p.values "vars").head?
        definitions := p.values "define"
        builtins := p.values "builtin"
        source := (p.values "source").head?
        safe := p.has "safe" })
  | "check" =>
    let p ← readArguments? [verboseForm] none .empty arguments
    match p.others with
    | [path] => if path = "" then none else pure (.check path)
    | _ => none
  | "refs" =>
    let p ← readArguments? [verboseForm] none .empty arguments
    match p.others with
    | [name, template] => pure (.refs name template)
    | _ => none
  | _ => none

/-- Whether some letters after a hyphen ask for help: an `h` comes after flags only. -/
def helpLetters (forms : List OptionForm) (p : Parsed) : List Char → Bool
  | [] => false
  | c :: cs =>
    if c = 'h' then true
    else
      match forms.find? (·.letter == some c) with
      | some ⟨name, letter, .flag⟩ =>
        (p.add? ⟨name, letter, .flag⟩ "").any fun p => helpLetters forms p cs
      | _ => false

/-- Whether an argument asks for help, when `p` is known of those before it. -/
def isHelp (forms : List OptionForm) (p : Parsed) (argument : String) : Bool :=
  match Shape.of argument with
  | .long name none => name == "help"
  | .short letters => helpLetters forms p letters
  | _ => false

/-- Whether the arguments of a command ask for help before anything is wrong with them. `fits` tells
whether arguments that belong to no option can be the first ones of the command. -/
def asksForHelp (forms : List OptionForm) (fits : List String → Bool) (arguments : List String) :
    Bool :=
  (List.range arguments.length).any fun n =>
    let before := arguments.take n
    !before.contains "--" &&
      (readArguments? forms none .empty before).any fun p =>
        fits p.others && (arguments[n]?).any (isHelp forms p)

/-- Whether help on a command is asked for. -/
def helpOn (name : String) (arguments : List String) : Bool :=
  match name with
  | "expand" => asksForHelp expandForms (fun others => others.length ≤ 1) arguments
  | "check" =>
    asksForHelp [verboseForm] (fun others => others.length ≤ 1 && !others.contains "") arguments
  | "refs" => asksForHelp [verboseForm] (fun others => others.length ≤ 2) arguments
  | "help" => arguments.length ≤ 1 && arguments.all (["expand", "check", "refs", "help"].contains ·)
  | _ => false

/-- What the letters after a hyphen in front of the command say: that a command follows, and whether
`v` was given, or that it is the version or help that is asked for. -/
inductive Leading
  | more (verbose : Bool)
  | version
  | help

/-- Reads the letters after a hyphen in front of the command. -/
def leadingLetters? (verbose : Bool) : List Char → Option Leading
  | [] => some (.more verbose)
  | 'V' :: _ => some .version
  | 'h' :: _ => some .help
  | 'v' :: cs => if verbose then none else leadingLetters? true cs
  | _ :: _ => none

/-- The command that arguments stand for; `none` where they are not used properly. -/
def Command.ofArguments? (verbose : Bool) : List String → Option Command
  | [] => none
  | argument :: rest =>
    match Shape.of argument with
    | .plain => (command? argument rest).or (if helpOn argument rest then some .help else none)
    | .stop => none
    | .long name value? =>
      if value?.isSome then none
      else if name = "version" then some .version
      else if name = "help" then some .help
      else if name = "verbose" && !verbose then ofArguments? true rest
      else none
    | .short letters =>
      match leadingLetters? verbose letters with
      | some (.more verbose) => ofArguments? verbose rest
      | some .version => some .version
      | some .help => some .help
      | none => none

end Stencil.CommandLine
