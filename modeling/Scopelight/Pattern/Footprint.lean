import Scopelight.Pattern.Plan
import Scopelight.Unicode.ByteSequence

/-!
# Footprints

Counted repetitions multiply, so a short pattern can ask for an enormous amount of work.
Its footprint is the memory of an automaton that reads the matches of its plan byte by
byte.  A pattern is refused if the automaton that reads forwards, with states that note the
ends of groups, or the one that reads backwards is too large.

The automata are not built.  Their states are only numbered, in the order in which a
construction would add them.  A state takes a fixed amount of memory; each range of bytes
that it sorts by, and each way that it forks into, takes some more.  Numbers matter because
sets of characters share states, and which states are remembered for sharing depends on a
hash of their successors.
-/

namespace Scopelight

namespace Pattern

/-- The states of an automaton and the memory that they take beyond their own size. -/
structure Tally where
  states : Nat
  extra : Nat

namespace Tally

/-- The greatest memory of an automaton in bytes. -/
def limit : Nat := 10485760

/-- The memory of an automaton in bytes. -/
def memory (tally : Tally) : Nat :=
  32 * tally.states + tally.extra

/-- A tally unless it is beyond the limit. -/
def bounded (tally : Tally) : Option Tally :=
  if tally.memory ≤ limit then some tally else none

/-- So many more states with so much further memory in all. -/
def grow (tally : Tally) (states extra : Nat) : Option Tally :=
  bounded ⟨tally.states + states, tally.extra + extra⟩

/-- The memory of one way that a state forks into. -/
def forkBytes : Nat := 4

/-- The memory of one range of bytes that a state sorts by. -/
def rangeBytes : Nat := 8

/-- Connect the end of a part to a state, which is one more way if the end forks. -/
def leave (tally : Tally) (forks : Bool) : Option Tally :=
  if forks then tally.grow 0 forkBytes else some tally

end Tally

/-- A step of the count.  The flag of the result says whether the last state of the part
that was counted is one that forks. -/
abbrev Counter := Tally → Option (Tally × Bool)

def mixHash (hash : UInt64) (value : Nat) : UInt64 :=
  (hash ^^^ value.toUInt64) * 1099511628211

def hashNumbers (values : List Nat) : UInt64 :=
  values.foldl mixHash 14695981039346656037

/-- States that are remembered for sharing.  Each has one slot, given by the hash of what
it is remembered by, and is forgotten when another state needs the slot. -/
abbrev Shelf := Array (Option (List Nat × Nat))

namespace Shelf

def ofSlots (slots : Nat) : Shelf :=
  Array.replicate slots none

def slot (shelf : Shelf) (key : List Nat) : Nat :=
  (hashNumbers key % shelf.size.toUInt64).toNat

def find? (shelf : Shelf) (key : List Nat) : Option Nat :=
  match shelf[shelf.slot key]? with
  | some (some (held, state)) => if held = key then some state else none
  | _ => none

/-- The state remembered by some numbers; a new state if there is none, which is then
remembered. -/
def place (shelf : Shelf) (key : List Nat) (bytes : Nat) (tally : Tally) :
    Option (Nat × Shelf × Tally) :=
  match shelf.find? key with
  | some state => some (state, shelf, tally)
  | none =>
      (tally.grow 1 bytes).map fun grown =>
        let slot := shelf.slot key
        (tally.states, shelf.setIfInBounds slot (some (key, tally.states)), grown)

end Shelf

open Unicode (ByteRange byteSequences)

/-- Rows of byte ranges in runs that share their first range, each run with what follows
that range in its rows. -/
def groupByHead : List (List ByteRange) → List (ByteRange × List (List ByteRange))
  | [] => []
  | [] :: rows => groupByHead rows
  | (range :: row) :: rows =>
      match groupByHead rows with
      | (next, tails) :: groups =>
          if range = next then (range, row :: tails) :: groups
          else (range, [row]) :: (next, tails) :: groups
      | [] => [(range, [row])]

/-- The state that sorts by the first bytes of some rows, after the states that sort by the
bytes behind them.  Equal states are one. -/
def countRows (target : Nat) :
    Nat → List (List ByteRange) → Shelf → Tally → Option (Nat × Shelf × Tally)
  | 0, _, shelf, tally => some (target, shelf, tally)
  | depth + 1, rows, shelf, tally => do
      let groups := groupByHead rows
      let (keys, shelf, tally) ← groups.foldlM
        (fun (keys, shelf, tally) (range, tails) => do
          let (next, shelf, tally) ←
            if tails.all List.isEmpty then some (target, shelf, tally)
            else countRows target depth tails shelf tally
          return (next :: range.2 :: range.1 :: keys, shelf, tally))
        (([] : List Nat), shelf, tally)
      shelf.place keys.reverse (Tally.rangeBytes * groups.length) tally

/-- The states that read one row of byte ranges backwards up to a given state. -/
def countBackwards : List ByteRange → Nat → Shelf → Tally → Option (Nat × Shelf × Tally)
  | [], state, shelf, tally => some (state, shelf, tally)
  | range :: row, state, shelf, tally => do
      let (next, shelf, tally) ← shelf.place [state, range.1, range.2] 0 tally
      countBackwards row next shelf tally

/-- Count the states of a set of characters.  ASCII characters need one that sorts and one
where it leads to.  Forwards there is a tree of states, in which equal ones are shared;
backwards there is a fork into rows of states, which share their ends. -/
def countSet (backwards : Bool) (set : CharSet) : Counter := fun tally => do
  if set.isAscii then
    return (← tally.grow 2 (Tally.rangeBytes * set.ranges.length), false)
  let rows := set.ranges.flatMap fun (first, last) => byteSequences first last
  if backwards then
    let opened ← tally.grow 2 0
    let (_, counted) ← rows.foldlM
      (fun (shelf, tally) row => do
        let (_, shelf, tally) ← countBackwards row opened.states.pred shelf tally
        return (shelf, ← tally.leave true))
      (Shelf.ofSlots 1000, opened)
    return (counted, false)
  else
    let opened ← tally.grow 1 0
    let (_, _, counted) ← countRows tally.states 4 rows (.ofSlots 10000) opened
    return (counted, false)

/-- The first bytes of some words with the rests of these words, cut where a word is empty.
An empty word counts once as long as no other word has come. -/
def chunksOf : Bool → Bool → List (List Nat) → List (Nat × List Nat) × List (List (Nat × List Nat))
  | _, _, [] => ([], [])
  | started, ended, [] :: words =>
      if !started && ended then chunksOf started ended words
      else
        let (chunk, chunks) := chunksOf started true words
        ([], chunk :: chunks)
  | _, ended, (byte :: word) :: words =>
      let (chunk, chunks) := chunksOf true ended words
      ((byte, word) :: chunk, chunks)

/-- The states and the further memory of a tree of words.  A place of the tree forks into
its chunks and, between them, to the end. -/
def treeSize : Nat → List (List Nat) → Nat × Nat
  | 0, _ => (0, 0)
  | depth + 1, words =>
      let (chunk, chunks) := chunksOf false false words
      let sizes := (chunk :: chunks).map fun chunk =>
        let bytes := (chunk.map Prod.fst).eraseDups
        let below := bytes.map fun byte =>
          let rests := chunk.filterMap fun (first, rest) =>
            if first = byte then some rest else none
          if rests.all List.isEmpty then (0, 0) else treeSize depth rests
        let sorting := if bytes.length ≤ 1 then 0 else Tally.rangeBytes * bytes.length
        let own := if bytes.isEmpty then (0, 0) else (1, sorting + Tally.forkBytes)
        (own :: below).foldl (fun (states, extra) (more, further) =>
          (states + more, extra + further)) (0, 0)
      sizes.foldl (fun (states, extra) (more, further) => (states + more, extra + further))
        (1, Tally.forkBytes * chunks.length)

/-- The bytes of a text. -/
def textBytes (text : List Char) : List Nat :=
  text.flatMap fun c => Unicode.bytesOf c.toNat

/-- The bytes of a plan that is a text. -/
def Plan.textBytes? : Plan → Option (List Nat)
  | .text first rest => some (textBytes (first :: rest))
  | _ => none

/-- Count the states of alternatives that are all texts, which are a tree of words. -/
def countTexts (backwards : Bool) (texts : List (List Nat)) : Counter := fun tally => do
  let words := if backwards then texts.map List.reverse else texts
  let depth := (words.map List.length).foldl max 0
  let (states, extra) := treeSize (depth + 1) words
  return (← tally.grow (states + 1) extra, false)

def countFurther (part : Counter) : Nat → Bool → Counter
  | 0, forks, tally => some (tally, forks)
  | count + 1, forks, tally =>
      match part tally with
      | none => none
      | some (tally, next) =>
          match tally.leave forks with
          | none => none
          | some tally => countFurther part count next tally

def countCopies (part : Counter) : Nat → Counter
  | 0, tally => (tally.grow 1 0).map (·, false)
  | count + 1, tally =>
      match part tally with
      | none => none
      | some (tally, forks) => countFurther part count forks tally

/-- Count so many copies of a part, each after a state that forks past it. -/
def countOptional (part : Counter) : Nat → Bool → Counter
  | 0, forks, tally => (tally.leave forks).map (·, false)
  | count + 1, forks, tally =>
      match (tally.grow 1 (2 * Tally.forkBytes)).bind part with
      | none => none
      | some (tally, next) =>
          match tally.leave forks with
          | none => none
          | some tally => countOptional part count next tally

def countRepeated (least : Nat) (most : Option Nat) (consumes : Bool) (part : Counter) :
    Counter := fun tally =>
  match least, most with
  | 0, some 1 => do
      let (tally, forks) ← part (← tally.grow 1 (2 * Tally.forkBytes))
      return (← (← tally.grow 1 0).leave forks, false)
  | 0, none => do
      if consumes then
        let (tally, forks) ← part (← tally.grow 1 Tally.forkBytes)
        return (← tally.leave forks, true)
      else
        let (tally, forks) ← part tally
        return (← (← tally.grow 3 (4 * Tally.forkBytes)).leave forks, false)
  | least + 1, none => do
      let (tally, before) ← if least = 0 then some (tally, false) else countCopies part least tally
      let (tally, forks) ← part tally
      return (← (← (← tally.grow 1 Tally.forkBytes).leave before).leave forks, true)
  | least, some most => do
      let (tally, forks) ← countCopies part least tally
      if most ≤ least then return (tally, forks)
      else countOptional part (most - least) forks (← tally.grow 1 0)

/-- End a part of a plan.  The number says which branch of alternatives it is, with zero
for none.  The state that forks into the branches is added after the second one, and so is
the state where they come together. -/
def endBranch (number : Nat) (counted : Option (Tally × Bool)) : Option (Tally × Bool) := do
  let (tally, forks) ← counted
  if number = 0 then return (tally, forks)
  else
    let joining := if number = 2 then 2 else 0
    return (← (← tally.grow joining Tally.forkBytes).leave forks, false)

/-- Count the states of a plan.  The number says which branch of alternatives the plan is
or, where it is a row of several branches, the first of them is. -/
def Plan.count (backwards : Bool) : Plan → Nat → Counter
  | .empty, number, tally => endBranch number ((tally.grow 1 0).map (·, false))
  | .text first rest, number, tally =>
      endBranch number ((tally.grow (textBytes (first :: rest)).length 0).map (·, false))
  | .chars set, number, tally => endBranch number (countSet backwards set tally)
  | .look _, number, tally => endBranch number ((tally.grow 1 0).map (·, false))
  | .capture _ body, number, tally =>
      endBranch number <|
        if backwards then body.count backwards 0 tally
        else do
          let (tally, forks) ← body.count backwards 0 (← tally.grow 1 0)
          return (← (← tally.grow 1 0).leave forks, false)
  | .repeated least most _ body, number, tally =>
      endBranch number
        (countRepeated least most body.consumes (body.count backwards 0) tally)
  | .seq first rest, number, tally =>
      endBranch number <|
        if backwards then do
          let (tally, before) ← rest.count backwards 0 tally
          let (tally, forks) ← first.count backwards 0 tally
          return (← tally.leave before, forks)
        else do
          let (tally, before) ← first.count backwards 0 tally
          let (tally, forks) ← rest.count backwards 0 tally
          return (← tally.leave before, forks)
  | .alt first rest, number, tally =>
      match if number = 0 then (Plan.alt first rest).branches.mapM textBytes? else none with
      | some texts => countTexts backwards texts tally
      | none => do
          let (tally, _) ← endBranch (max number 1) (first.count backwards 0 tally)
          rest.count backwards (max number 1 + 1) tally

/-- Count the states of a whole pattern.  Before the plan stands a loop that passes over the
text up to a match, unless a match has to stand at the end of the text where reading
starts; behind it stands a state for a complete match. -/
def Plan.countAll (plan : Plan) (backwards : Bool) : Option Tally := do
  let fixed := if backwards then plan.endsWith .textEnd else plan.beginsWith .textStart
  let start : Tally :=
    if fixed then ⟨1, 0⟩ else ⟨3, Tally.rangeBytes + 2 * Tally.forkBytes⟩
  let (tally, forks) ← (Plan.capture 0 plan).count backwards 0 start
  (← tally.grow 1 0).leave forks

/-- Whether both automata of a plan keep within the limit. -/
def Plan.fits (plan : Plan) : Bool :=
  (plan.countAll false).isSome && (plan.countAll true).isSome

end Pattern

end Scopelight
