import Scopelight.Line.Tokenize

/-!
# Token caches

A document keeps the tokens and the end state of each of its lines, so that after an edit
only the lines from the edited one on are tokenized, until the end states agree with the
ones stored before.  A whole document may also be tokenized on the side; such a pass
carries a ticket and is installed only if nothing newer has happened since the ticket was
issued.
-/

namespace Scopelight

/-- What is stored about a line.  A line that was edited has no tokens but keeps the end
state it had. -/
structure CachedLine where
  tokens : Option (List Token) := none
  endState : Option State := none
  deriving DecidableEq

/-- A ticket for a pass over a whole document. -/
structure PassTicket where
  generation : Nat
  deriving DecidableEq

/-- The result of a pass over a whole document. -/
structure DocumentPass where
  ticket : PassTicket
  lines : List LineTokens
  deriving DecidableEq

/-- The stored results for the lines of a document. -/
structure TokenCache where
  lines : List CachedLine
  invalidFrom : Nat
  generation : Nat
  /-- The greatest number of bytes of a line that is scanned. -/
  lineLimit : Nat
  deriving DecidableEq

/-- Why an edit is refused. -/
inductive EditError where
  /-- The last line of the edit has no number of 64 bits. -/
  | rangeOverflow
  deriving DecidableEq

namespace CachedLine

def empty : CachedLine :=
  {}

def ofResult (result : LineTokens) : CachedLine where
  tokens := some result.tokens
  endState := some result.endState

def invalidate (line : CachedLine) : CachedLine :=
  { line with tokens := none }

/-- The index of the last line without tokens. -/
def lastDirty? : List CachedLine → Option Nat
  | [] => none
  | stored :: later =>
      match lastDirty? later with
      | some line => some (line + 1)
      | none => if stored.tokens.isSome then none else some 0

end CachedLine

namespace TokenCache

def wordSize : Nat := 0x10000000000000000

def unlimited : Nat :=
  wordSize - 1

/-- A cache without lines.  The limit is at least 1. -/
def empty (lineLimit : Nat) : TokenCache where
  lines := []
  invalidFrom := 0
  generation := 0
  lineLimit := max lineLimit 1

def lineCount (cache : TokenCache) : Nat :=
  cache.lines.length

/-- The tokens of a line, none if it was never tokenized. -/
def tokens (cache : TokenCache) (line : Nat) : List Token :=
  (cache.lines[line]?.bind CachedLine.tokens).getD []

/-- The state at the end of a line, if it is known. -/
def endState? (cache : TokenCache) (line : Nat) : Option State :=
  cache.lines[line]?.bind CachedLine.endState

/-- The state that a line starts from, as far as it is known. -/
def startState (cache : TokenCache) : Nat → State
  | 0 => .initial
  | previous + 1 => (cache.endState? previous).getD .initial

def isDirty (cache : TokenCache) : Bool :=
  decide (cache.invalidFrom < cache.lineCount)

def invalidateLine (cache : TokenCache) (line : Nat) : TokenCache :=
  { cache with
    lines := cache.lines.modify line CachedLine.invalidate
    invalidFrom := min cache.invalidFrom line
    generation := cache.generation + 1 }

/-- Note that the texts from a line on have changed. -/
def invalidateFrom (cache : TokenCache) (line : Nat) : TokenCache :=
  { cache with
    lines :=
      cache.lines.take line ++ (cache.lines.drop line).map CachedLine.invalidate
    invalidFrom := min cache.invalidFrom line
    generation := cache.generation + 1 }

def invalidateAll (cache : TokenCache) : TokenCache :=
  { cache with
    lines := []
    invalidFrom := 0
    generation := cache.generation + 1 }

/-- Replace some lines by new ones.  The line that then stands at the place of the edit
follows another line than before, so it is invalid as well. -/
def editLines (cache : TokenCache) (start removed inserted : Nat) :
    Except EditError TokenCache :=
  let first := min start cache.lineCount
  if first + removed < wordSize then
    let last := min (first + removed) cache.lineCount
    let spliced :=
      cache.lines.take first ++ List.replicate inserted CachedLine.empty ++
        cache.lines.drop last
    .ok ({ cache with lines := spliced }.invalidateLine first)
  else .error .rangeOverflow

theorem editLines_eq_ok_iff {cache edited : TokenCache} {start removed inserted : Nat} :
    cache.editLines start removed inserted = .ok edited ↔
      min start cache.lineCount + removed < wordSize ∧
        invalidateLine { cache with
          lines := cache.lines.take (min start cache.lineCount) ++
            List.replicate inserted CachedLine.empty ++
              cache.lines.drop (min (min start cache.lineCount + removed) cache.lineCount) }
          (min start cache.lineCount) = edited := by
  simp only [editLines]
  split
  case isTrue fits => simp [fits]
  case isFalse beyond => simp [beyond]

theorem editLines_eq_error_iff {cache : TokenCache} {start removed inserted : Nat}
    {error : EditError} :
    cache.editLines start removed inserted = .error error ↔
      wordSize ≤ min start cache.lineCount + removed := by
  cases error
  simp [editLines]

/-- Match the number of lines to that of the document. -/
def fit (cache : TokenCache) (count : Nat) : TokenCache :=
  { cache with
    lines :=
      cache.lines.take count ++
        List.replicate (count - cache.lineCount) CachedLine.empty
    invalidFrom :=
      if cache.lineCount < count then min cache.invalidFrom cache.lineCount
      else cache.invalidFrom }

/-- Tokenize the lines that need it: those without tokens, and those after a line whose
end state has changed.  Behind the last line without tokens it is over as soon as the end
states agree again.  The first line has the given index and starts in the given state; the
flag says whether that state is new.  The number of lines tokenized is counted. -/
def refresh (grammar : Grammar) (limit lastDirty : Nat) :
    Nat → State → Bool → List CachedLine → List (List Char) → List CachedLine × Nat
  | line, state, stateChanged, stored :: later, text :: texts =>
      if !stateChanged && stored.tokens.isSome then
        if lastDirty < line then (stored :: later, 0)
        else
          let (lines, count) :=
            refresh grammar limit lastDirty (line + 1) (stored.endState.getD .initial) false
              later texts
          (stored :: lines, count)
      else
        let result := grammar.tokenizeLineLimited limit text state
        let changed := decide (stored.endState ≠ some result.endState)
        let (lines, count) :=
          refresh grammar limit lastDirty (line + 1) result.endState changed later texts
        (.ofResult result :: lines, count + 1)
  | _, _, _, lines, _ => (lines, 0)

/-- Bring the cache up to date with the lines of a document.  The second component is the
number of lines that were tokenized. -/
def updateWith (cache : TokenCache) (grammar : Grammar) (texts : List (List Char)) :
    TokenCache × Nat :=
  let fitted := cache.fit texts.length
  match CachedLine.lastDirty? fitted.lines with
  | none => ({ fitted with invalidFrom := texts.length }, 0)
  | some lastDirty =>
      let start := fitted.invalidFrom
      let (refreshed, count) :=
        refresh grammar cache.lineLimit lastDirty start (fitted.startState start) false
          (fitted.lines.drop start) (texts.drop start)
      ({ fitted with
          lines := fitted.lines.take start ++ refreshed
          invalidFrom := texts.length },
        count)

/-- Bring the cache up to date.  Without a grammar no line has tokens. -/
def update (cache : TokenCache) (grammar : Option Grammar) (texts : List (List Char)) :
    TokenCache × Nat :=
  match grammar with
  | none => (cache.invalidateAll, 0)
  | some grammar => cache.updateWith grammar texts

/-- Issue the ticket for a pass over the whole document.  Earlier tickets lapse. -/
def beginPass (cache : TokenCache) : TokenCache × PassTicket :=
  ({ cache with generation := cache.generation + 1 }, ⟨cache.generation + 1⟩)

/-- The results of lines, the first of which starts in a state. -/
def passLines (grammar : Grammar) (limit : Nat) (state : State) :
    List (List Char) → List LineTokens
  | [] => []
  | text :: texts =>
      let result := grammar.tokenizeLineLimited limit text state
      result :: passLines grammar limit result.endState texts

def runPass (grammar : Grammar) (texts : List (List Char)) (lineLimit : Nat)
    (ticket : PassTicket) : DocumentPass where
  ticket
  lines := passLines grammar (max lineLimit 1) .initial texts

/-- Install the result of a pass unless its ticket has lapsed.  The second component says
whether it was installed. -/
def commit (cache : TokenCache) (pass : DocumentPass) : TokenCache × Bool :=
  if pass.ticket.generation = cache.generation then
    ({ cache with
        lines := pass.lines.map CachedLine.ofResult
        invalidFrom := pass.lines.length },
      true)
  else (cache, false)

end TokenCache

end Scopelight
