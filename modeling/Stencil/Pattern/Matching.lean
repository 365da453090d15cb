import Stencil.Pattern.Program

/-!
# Matching

A program is run from one place of a text by following all its threads at once, the preferred one
first, one character at a time. No two threads stand at the same instruction, since the preferred
one makes the other superfluous. The matches of a text are found from left to right, each from the
first place after the last one where the program accepts.
-/

namespace Stencil.Pattern

/-- Where the groups of a pattern began and ended, as far as they were met. -/
abbrev Slots := Array (Option Nat)

/-- A thread stands at an instruction that reads a character or accepts. -/
structure Thread where
  address : Nat
  slots : Slots

/-- A place between two characters of a text. -/
structure Place where
  position : Nat
  before : Option Char
  after : Option Char

/-- Follows the instructions that read nothing. `todo` holds the addresses still to be followed,
the preferred one first, `seen` the addresses met at this place and `found` the threads, in reverse.
Every address is followed once and adds at most two to `todo`, so that `fuel` of twice the program's
size, and two, is always enough. -/
def follow (program : Array Instr) (place : Place) :
    (fuel : Nat) → (todo : List Thread) → (seen : Array Bool) → (found : List Thread) →
      Array Bool × List Thread
  | 0, _, seen, found => (seen, found)
  | _ + 1, [], seen, found => (seen, found)
  | fuel + 1, t :: todo, seen, found =>
    if seen.getD t.address true then follow program place fuel todo seen found
    else
      let seen := seen.setIfInBounds t.address true
      match program[t.address]? with
      | none => follow program place fuel todo seen found
      | some (.jump next) => follow program place fuel (⟨next, t.slots⟩ :: todo) seen found
      | some (.split a b) =>
        follow program place fuel (⟨a, t.slots⟩ :: ⟨b, t.slots⟩ :: todo) seen found
      | some (.save slot next) =>
        follow program place fuel
          (⟨next, t.slots.setIfInBounds slot (some place.position)⟩ :: todo) seen found
      | some (.look l next) =>
        if l.holds place.before place.after then
          follow program place fuel (⟨next, t.slots⟩ :: todo) seen found
        else follow program place fuel todo seen found
      | some _ => follow program place fuel todo seen (t :: found)

/-- The threads that several addresses lead to at one place, in the order of preference. -/
def threadsFrom (program : Array Instr) (place : Place) (starts : List Thread) : List Thread :=
  let step := fun (state : Array Bool × List Thread) (t : Thread) =>
    follow program place (2 * program.size + 2) [t] state.1 state.2
  (starts.foldl step (Array.replicate program.size false, [])).2.reverse

/-- Whether a thread stands at the end of the program. -/
def Thread.accepts (program : Array Instr) (t : Thread) : Bool :=
  match program[t.address]? with
  | some .accept => true
  | _ => false

/-- The thread after reading a character, if its instruction takes the character. -/
def Thread.step? (program : Array Instr) (c : Char) (t : Thread) : Option Thread :=
  match program[t.address]? with
  | some (.char d next) => if c = d then some ⟨next, t.slots⟩ else none
  | some (.set s next) => if s.contains c then some ⟨next, t.slots⟩ else none
  | _ => none

/-- Where a run ended, and what its groups held. -/
structure Outcome where
  stop : Nat
  slots : Slots

/-- The outcome of the first thread that accepts, or else the outcome known before. -/
def accepted (program : Array Instr) (position : Nat) (best : Option Outcome)
    (threads : List Thread) : Option Outcome :=
  match threads.find? fun t => t.accepts program with
  | some t => some ⟨position, t.slots⟩
  | none => best

/-- Runs the threads over the characters of a text. A thread that accepts ends the threads after
it; of several that accept, the last one met was preferred. -/
def runThreads (program : Array Instr) (position : Nat) (best : Option Outcome)
    (threads : List Thread) : List Char → Option Outcome
  | [] => accepted program position best threads
  | c :: cs =>
    let live := threads.takeWhile fun t => !t.accepts program
    match live.filterMap (·.step? program c) with
    | [] => accepted program position best threads
    | moved =>
      runThreads program (position + 1) (accepted program position best threads)
        (threadsFrom program ⟨position + 1, some c, cs.head?⟩ moved) cs

/-- One match of a pattern: a range of characters, and a range for each group that took part. -/
structure Match where
  start : Nat
  stop : Nat
  groups : List (Option (Nat × Nat))
  deriving DecidableEq, Repr

/-- The group with number `n`; number zero is the whole match. -/
def Match.group? (m : Match) (n : Nat) : Option (Nat × Nat) :=
  match n with
  | 0 => some (m.start, m.stop)
  | n + 1 => (m.groups[n]?).join

end Pattern

/-- A pattern ready for matching. -/
structure Pattern where
  program : Array Pattern.Instr
  groups : Nat

namespace Pattern

/-- The range of a group, when both its ends were met. -/
def slotRange (slots : Slots) (n : Nat) : Option (Nat × Nat) :=
  match slots[2 * n]?.join, slots[2 * n + 1]?.join with
  | some a, some b => some (a, b)
  | _, _ => none

/-- The preferred match that starts at a given place. -/
def matchAt (p : Pattern) (before : Option Char) (position : Nat) (text : List Char) :
    Option Match :=
  let slots : Slots := Array.replicate (2 * (p.groups + 1)) none
  let threads := threadsFrom p.program ⟨position, before, text.head?⟩ [⟨0, slots⟩]
  (runThreads p.program position none threads text).map fun o =>
    ⟨position, o.stop, (List.range p.groups).map fun n => slotRange o.slots (n + 1)⟩

/-- The match at a place that may follow a match ending at `last`: it does not start before that
end, and is not empty there. -/
def freshMatchAt (p : Pattern) (before : Option Char) (position : Nat) (last : Option Nat)
    (text : List Char) : Option Match :=
  if last.any (position < ·) then none
  else
    (p.matchAt before position text).filter fun m =>
      !(m.stop == position && last == some position)

/-- The matches from a place on, when the match before ended at `last`. -/
def matchesFrom (p : Pattern) (before : Option Char) (position : Nat) (last : Option Nat) :
    List Char → List Match
  | [] => (p.freshMatchAt before position last []).toList
  | c :: cs =>
    match p.freshMatchAt before position last (c :: cs) with
    | some m => m :: matchesFrom p (some c) (position + 1) (some m.stop) cs
    | none => matchesFrom p (some c) (position + 1) last cs

/-- All matches in a text, from left to right. -/
def findAll (p : Pattern) (text : List Char) : List Match :=
  p.matchesFrom none 0 none text

/-- The first match from a place on. -/
def firstFrom? (p : Pattern) (before : Option Char) (position : Nat) : List Char → Option Match
  | [] => p.matchAt before position []
  | c :: cs =>
    match p.matchAt before position (c :: cs) with
    | some m => some m
    | none => firstFrom? p (some c) (position + 1) cs

/-- The first match in a text. -/
def find? (p : Pattern) (text : List Char) : Option Match :=
  p.firstFrom? none 0 text

end Pattern

end Stencil
