import Scopelight.Pattern.Program

/-!
# Running match programs

The program of a pattern goes through a text once and keeps the threads that are alive at
a position in their order of preference.  As long as no match is known, each position
starts a new thread behind those that started earlier.  A thread that reaches an
instruction after another one at the same position is dropped, because the first arrival
is preferred and has the same future; so the time is bounded by the product of program and
text.  The match that is reported is the one of the most preferred path: the leftmost one,
and of those that start together the one that the pattern tries first.
-/

namespace Scopelight

namespace Pattern

/-- A position in a text. -/
structure Cursor where
  before : Option Char
  /-- The number of bytes before the position. -/
  offset : Nat
  rest : List Char

/-- Positions noted in slots, latest first. -/
abbrev Saves := List (Nat × Nat)

/-- The latest position noted in a slot. -/
def Saves.last? (saves : Saves) (slot : Nat) : Option Nat :=
  (saves.find? fun entry => entry.1 = slot).map Prod.snd

/-- The span of a group: both of its ends must have been noted. -/
def Saves.group? (saves : Saves) (index : Nat) : Option (Nat × Nat) :=
  match saves.last? (2 * index), saves.last? (2 * index + 1) with
  | some start, some stop => some (start, stop)
  | _, _ => none

/-- A thread at an instruction. -/
structure Thread where
  place : Nat
  start : Nat
  saves : Saves

/-- A complete match. -/
structure Acceptance where
  start : Nat
  stop : Nat
  saves : Saves

/-- The spans of the whole match and of so many groups. -/
def Acceptance.captures (accepted : Acceptance) (groups : Nat) :
    List (Option (Nat × Nat)) :=
  some (accepted.start, accepted.stop) ::
    (List.range groups).map fun index => accepted.saves.group? (index + 1)

namespace Inst

/-- The place after an instruction that takes a character, if it takes this one. -/
def after? (inst : Inst) (c : Char) : Option Nat :=
  match inst with
  | .char expected next => if c = expected then some next else none
  | .chars set next => if set.contains c.toNat then some next else none
  | _ => none

/-- The places after an instruction that goes on without taking a character, the preferred
one first; absent if the instruction waits for a character or accepts. -/
def silent? (inst : Inst) (cursor : Cursor) : Option (List Nat) :=
  match inst with
  | .jump next => some [next]
  | .save _ next => some [next]
  | .look condition next =>
      some (if condition.holds cursor.before cursor.rest.head? then [next] else [])
  | .split first second => some [first, second]
  | _ => none

def note (inst : Inst) (offset : Nat) (saves : Saves) : Saves :=
  match inst with
  | .save slot _ => (slot, offset) :: saves
  | _ => saves

end Inst

/-- The instructions reached so far at one position, and the threads that wait there to take
a character or to accept, latest first. -/
structure Sweep where
  reached : Array Bool
  waiting : List Thread

namespace Sweep

def empty (code : Array Inst) : Sweep :=
  ⟨Array.replicate code.size false, []⟩

/-- One step from a thread at a position: the threads that it goes on as, and the sweep
with its instruction noted.  A thread at an instruction that was reached before is dropped,
and one that waits for a character or accepts joins those that wait. -/
def expand (code : Array Inst) (cursor : Cursor) (thread : Thread) :
    Sweep → List Thread × Sweep
  | ⟨reached, waiting⟩ =>
      if reached.getD thread.place true then ([], ⟨reached, waiting⟩)
      else
        let reached := reached.setIfInBounds thread.place true
        match code[thread.place]? with
        | none => ([], ⟨reached, waiting⟩)
        | some inst =>
            match inst.silent? cursor with
            | none => ([], ⟨reached, thread :: waiting⟩)
            | some places =>
                let saves := inst.note cursor.offset thread.saves
                (places.map fun place => ⟨place, thread.start, saves⟩, ⟨reached, waiting⟩)

/-- Follow the instructions that take no character from the pending threads on, the most
preferred one first. -/
def follow (code : Array Inst) (cursor : Cursor) : Nat → List Thread → Sweep → Sweep
  | 0, _, sweep => sweep
  | _, [], sweep => sweep
  | fuel + 1, thread :: pending, sweep =>
      let (threads, sweep) := sweep.expand code cursor thread
      follow code cursor fuel (threads ++ pending) sweep

end Sweep

/-- The threads that wait at a position after the given ones have gone as far as they can.
Each instruction is followed once and leads to two others at most, which bounds the number
of steps. -/
def settle (code : Array Inst) (cursor : Cursor) (threads : List Thread) : List Thread :=
  (Sweep.follow code cursor (threads.length + 2 * code.size) threads
    (Sweep.empty code)).waiting.reverse

/-- Let the waiting threads of one position take the next character, in order of preference.
A thread that accepts ends the turn: those after it are less preferred.  The result is the
complete match, if there is one, and the threads at the next position. -/
def advance (code : Array Inst) (offset : Nat) (taken : Option Char) :
    List Thread → Option Acceptance × List Thread
  | [] => (none, [])
  | thread :: threads =>
      match code[thread.place]? with
      | some .accept => (some ⟨thread.start, offset, thread.saves⟩, [])
      | some inst =>
          match taken.bind inst.after? with
          | some next =>
              let (accepted, others) := advance code offset taken threads
              (accepted, { thread with place := next } :: others)
          | none => advance code offset taken threads
      | none => advance code offset taken threads

/-- The complete match at a position, if there is one, and the threads at the next position. -/
def turn (code : Array Inst) (cursor : Cursor) (threads : List Thread) :
    Option Acceptance × List Thread :=
  advance code cursor.offset cursor.rest.head? (settle code cursor threads)

/-- The threads of a position with the one that starts there.  None starts from a limit on,
or once a match is known. -/
def enter (limit offset : Nat) (best : Option Acceptance) (threads : List Thread) :
    List Thread :=
  if best.isNone && decide (offset < limit) then threads ++ [⟨0, offset, []⟩] else threads

/-- Run the threads of a position, and those that start later but before a limit, to the end
of the text.  A match that is completed later is preferred to one that was completed
before, because what was less preferred was dropped then. -/
def run (code : Array Inst) (limit : Nat) :
    List Char → Option Char → Nat → List Thread → Option Acceptance → Option Acceptance
  | rest, before, offset, threads, best =>
      let (accepted, next) :=
        turn code ⟨before, offset, rest⟩ (enter limit offset best threads)
      let best := accepted.or best
      match rest with
      | [] => best
      | c :: rest =>
          if next.isEmpty && (best.isSome || decide (limit ≤ offset)) then best
          else run code limit rest (some c) (offset + c.utf8Size) next best

/-- The most preferred match of a program that starts at or after a position, but before a
limit. -/
def search? (code : Array Inst) (limit : Nat) (cursor : Cursor) : Option Acceptance :=
  run code limit cursor.rest cursor.before cursor.offset [] none

end Pattern

end Scopelight
