import Scopelight.Line.Candidate
import Scopelight.Line.Pieces
import Scopelight.Pattern.Reference

/-!
# Tokenizing a line

One line is scanned from left to right, starting from the state that the line before left.
Each step takes the next match, lays down tokens up to its end, and opens or closes a span
where it says so.  Matches that take no character are guarded, so that the scan ends; if
nothing more matches, the rest of the line gets the scopes of the innermost open span.
-/

namespace Scopelight

/-- The tokens of a line and the state after it.  How many steps the scan took is left out:
the number limits the scan, and no later result depends on it. -/
structure LineTokens where
  /-- Tokens that follow each other without gaps and cover the line. -/
  tokens : List Token
  endState : State
  deriving DecidableEq

/-- Where the tokenizer stands in a line. -/
structure Scan where
  stack : List OpenFrame
  pieces : Pieces
  position : Nat
  /-- The offset at which `\G` holds, if any. -/
  anchor : Option Nat
  /-- The place of the last closing match that took no character, and the depth of the
  stack at that time. -/
  emptyClose : Option (Nat × Nat)

/-- The outcome of one step. -/
inductive Step where
  | done (stack : List OpenFrame) (pieces : Pieces)
  | more (next : Scan)

namespace Scan

/-- The scopes inside the innermost open span, or those of the whole text. -/
def scopesInside (root : List Scope) : List OpenFrame → List Scope
  | [] => root
  | top :: _ => top.frame.contentScopes

def start (state : State) : Scan where
  stack := state.stack.map fun frame => ⟨frame, none⟩
  pieces := .empty
  position := 0
  anchor :=
    match state.stack with
    | [] => none
    | top :: _ => if top.openedAtLineEnd then some 0 else none
  emptyClose := none

/-- The state that a stack leaves to the next line. -/
def finish (stack : List OpenFrame) : State :=
  ⟨stack.map OpenFrame.frame⟩

end Scan

namespace Grammar

variable (grammar : Grammar)

def rootScopes : List Scope :=
  [grammar.scopeName]

/-- The pieces of a whole line, of which the rest has the scopes of the innermost open
span. -/
def finalPieces (line : List Char) (stack : List OpenFrame) (pieces : Pieces) : Pieces :=
  pieces.produce (Text.byteLength line) (Scan.scopesInside grammar.rootScopes stack)

def giveUp (line : List Char) (stack : List OpenFrame) (pieces : Pieces) : Step :=
  .done stack (grammar.finalPieces line stack pieces)

def closingCaptures (id : RuleId) : Captures :=
  match grammar.rule? id with
  | some (.span rule) => rule.closingCaptures
  | _ => .empty

/-- The scopes around a match that starts inside the innermost open span. -/
def scopesAround (scan : Scan) : List Scope :=
  Scan.scopesInside grammar.rootScopes scan.stack

/-- The pieces after the match that closes a span. -/
def closedPieces (scan : Scan) (top : OpenFrame) (found : Match) : Pieces :=
  scan.pieces.layMatch top.frame.contentScopes top.frame.nameScopes
    (grammar.closingCaptures top.frame.rule) found

/-- The scan after the innermost open span has been closed. -/
def closedScan (scan : Scan) (top : OpenFrame) (outer : List OpenFrame) (found : Match) :
    Scan where
  stack := outer
  pieces := grammar.closedPieces scan top found
  position := max scan.position found.stop
  anchor := top.opening.bind Opening.outerAnchor
  emptyClose :=
    if found.start = found.stop then some (found.start, scan.stack.length)
    else scan.emptyClose

/-- Take a match that closes the innermost open span.  A closing match without characters
counts once at one place and depth, and a span that was opened and closed without any
progress stays open. -/
def takeClose (line : List Char) (scan : Scan) (found : Match) : Step :=
  if found.start = found.stop ∧
      scan.emptyClose = some (found.start, scan.stack.length) then
    grammar.giveUp line scan.stack scan.pieces
  else
    match scan.stack with
    | [] => grammar.giveUp line [] scan.pieces
    | top :: outer =>
        if found.stop ≤ scan.position ∧
            top.opening.map Opening.entered = some scan.position then
          grammar.giveUp line (top :: outer) (grammar.closedPieces scan top found)
        else .more (grammar.closedScan scan top outer found)

/-- The pieces after a match of a rule with a single pattern. -/
def passedPieces (scan : Scan) (rule : SingleRule) (found : Match) : Pieces :=
  scan.pieces.layMatch (grammar.scopesAround scan) (grammar.scopesAround scan ++ rule.name)
    rule.captures found

/-- The scan after a match of a rule with a single pattern. -/
def passedScan (scan : Scan) (rule : SingleRule) (found : Match) : Scan :=
  { scan with pieces := grammar.passedPieces scan rule found, position := found.stop }

def takeSingle (line : List Char) (scan : Scan) (rule : SingleRule) (found : Match) :
    Step :=
  if found.stop ≤ scan.position then
    grammar.giveUp line scan.stack (grammar.passedPieces scan rule found)
  else .more (grammar.passedScan scan rule found)

def openFrame (line : List Char) (scan : Scan) (id : RuleId) (rule : SpanRule)
    (found : Match) : OpenFrame :=
  let nameScopes := grammar.scopesAround scan ++ rule.name
  {
    frame := {
      rule := id
      nameScopes
      contentScopes := nameScopes ++ rule.contentName
      closing :=
        if rule.hasReferences then
          some (String.ofList
            (Pattern.fillReferences line found.captures rule.closing.toList))
        else none
      openedAtLineEnd := decide (found.stop = Text.byteLength line)
    }
    opening := some ⟨scan.anchor, scan.position, found.stop⟩
  }

def openedScan (line : List Char) (scan : Scan) (id : RuleId) (rule : SpanRule)
    (found : Match) : Scan :=
  let opened := grammar.openFrame line scan id rule found
  {
    stack := opened :: scan.stack
    pieces :=
      scan.pieces.layMatch (grammar.scopesAround scan) opened.frame.nameScopes
        rule.openingCaptures found
    position := max scan.position found.stop
    anchor := some found.stop
    emptyClose := scan.emptyClose
  }

/-- Whether a span of a rule was already opened while the tokenizer stood at a position. -/
def reentered (stack : List OpenFrame) (id : RuleId) (position : Nat) : Bool :=
  stack.any fun opened =>
    opened.frame.rule == id && opened.opening.map Opening.entered == some position

/-- The pieces up to a match that is not taken. -/
def skippedPieces (scan : Scan) (found : Match) : Pieces :=
  scan.pieces.produce found.start (grammar.scopesAround scan)

/-- Take a match that opens a span.  A rule cannot be opened twice without progress. -/
def takeOpen (line : List Char) (scan : Scan) (id : RuleId) (rule : SpanRule)
    (found : Match) : Step :=
  if found.stop ≤ scan.position ∧ reentered scan.stack id scan.position = true then
    grammar.giveUp line scan.stack (grammar.skippedPieces scan found)
  else .more (grammar.openedScan line scan id rule found)

def step (line : List Char) (scan : Scan) : Step :=
  match grammar.upcoming? scan.stack line scan.position scan.anchor with
  | none => grammar.giveUp line scan.stack scan.pieces
  | some (.close found) => grammar.takeClose line scan found
  | some (.start id found) =>
      match grammar.rule? id with
      | some (.single rule) => grammar.takeSingle line scan rule found
      | some (.span rule) => grammar.takeOpen line scan id rule found
      | _ =>
          grammar.giveUp line scan.stack (grammar.skippedPieces scan found)

/-- At most so many steps, after which the line is given up. -/
def runSteps (line : List Char) : Nat → Scan → List OpenFrame × Pieces
  | 0, scan => (scan.stack, grammar.finalPieces line scan.stack scan.pieces)
  | fuel + 1, scan =>
      match grammar.step line scan with
      | .done stack pieces => (stack, pieces)
      | .more next => runSteps line fuel next

def stepLimit (line : List Char) (state : State) : Nat :=
  4 * (Text.byteLength line + 1) + 16 * (state.stack.length + 1)

def tokenizeLine (line : List Char) (state : State) : LineTokens :=
  let (stack, pieces) :=
    grammar.runSteps line (stepLimit line state) (Scan.start state)
  ⟨pieces.toList, Scan.finish stack⟩

/-- The tokens of a line, which is not scanned if it has more bytes than the limit: it is
one token then, and the state carries over. -/
def tokenizeLineLimited (limit : Nat) (line : List Char) (state : State) : LineTokens :=
  if Text.byteLength line ≤ limit then grammar.tokenizeLine line state
  else
    ⟨[⟨0, Text.byteLength line, state.contentScopes?.getD grammar.rootScopes⟩], state⟩

/-- The tokens of a list of lines, the first of which starts in a state. -/
def tokenizeFrom (state : State) : List (List Char) → List LineTokens
  | [] => []
  | line :: rest =>
      let result := grammar.tokenizeLine line state
      result :: tokenizeFrom result.endState rest

def tokenizeLines (lines : List (List Char)) : List LineTokens :=
  grammar.tokenizeFrom .initial lines

end Grammar

end Scopelight
