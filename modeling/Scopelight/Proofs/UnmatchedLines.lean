import Scopelight.Proofs.LineTurns
import Scopelight.Proofs.LoadedGrammar
import Scopelight.Proofs.MetadataWord
import Scopelight.Proofs.UpcomingMatch
import Scopelight.Provider

/-!
# Lines without any match

A line in which nothing starts and nothing ends is one token with the scopes inside the
innermost open span, and it leaves the state as it is.  An empty line has no token, and the
token that stands in for it has the scope of the whole text, whatever is open.
-/

namespace Scopelight

namespace Grammar

variable {grammar : Grammar} {line : List Char} {state : State}

/-- No pattern of the innermost context and no closing pattern of the innermost span matches
anywhere in a line. -/
structure Unmatched (grammar : Grammar) (line : List Char) (state : State) : Prop where
  noStart : ∀ scanner,
    grammar.candidateScanner? (grammar.contextOf (Scan.start state).stack) = some scanner →
      scanner.find line 0 (Scan.start state).anchor = none
  noClose : ∀ top rule scanner, state.stack.head? = some top →
    grammar.rule? top.rule = some (.span rule) → grammar.closingScanner? top = some scanner →
      scanner.find line 0 (Scan.start state).anchor = none

/-- What two scanners find decides whether a line is without any match. -/
theorem Unmatched.of_isNone
    (noStart :
      ((grammar.candidateScanner? (grammar.contextOf (Scan.start state).stack)).bind
        fun scanner => scanner.find line 0 (Scan.start state).anchor).isNone = true)
    (noClose :
      ((state.stack.head?.bind grammar.closingScanner?).bind
        fun scanner => scanner.find line 0 (Scan.start state).anchor).isNone = true) :
    Unmatched grammar line state where
  noStart scanner scannerEq := by simpa [scannerEq] using noStart
  noClose top rule scanner topEq _ scannerEq := by
    simpa [topEq, scannerEq] using noClose

theorem searchClose?_of_none {scanner : Scanner} {allowEmpty : Bool}
    {contentStart anchor : Option Nat} {position : Nat}
    (absent : scanner.find line position anchor = none) (fuel : Nat) :
    searchClose? scanner allowEmpty contentStart line anchor fuel position = none := by
  cases fuel with
  | zero => rfl
  | succ fuel => simp [searchClose?, absent]

theorem Unmatched.upcomingIn?_eq (unmatched : Unmatched grammar line state) :
    grammar.upcomingIn? line (Scan.start state) = none := by
  cases upcomingEq : grammar.upcomingIn? line (Scan.start state) with
  | none => rfl
  | some upcoming =>
      rcases upcoming?_cases upcomingEq with
        ⟨id, found, -, startEq⟩ | ⟨found, top, -, topEq, closeEq⟩
      · obtain ⟨-, scanner, scannerEq, foundEq, -⟩ := nextStart?_eq_some_iff.mp startEq
        rw [show (Scan.start state).position = 0 from rfl,
          unmatched.noStart scanner scannerEq] at foundEq
        cases foundEq
      · have frameEq : state.stack.head? = some top.frame := by
          simp only [Scan.start, List.head?_map, Option.map_eq_some_iff] at topEq
          obtain ⟨frame, frameEq, rfl⟩ := topEq
          exact frameEq
        unfold nextClose? at closeEq
        split at closeEq
        · next rule ruleEq =>
            split at closeEq
            · cases closeEq
            · next scanner scannerEq =>
                have absent : scanner.find line (Scan.start state).position
                    (Scan.start state).anchor = none :=
                  unmatched.noClose top.frame rule scanner frameEq ruleEq scannerEq
                rw [searchClose?_of_none absent] at closeEq
                cases closeEq
        · cases closeEq

theorem finish_start (state : State) : Scan.finish (Scan.start state).stack = state := by
  simp [Scan.finish, Scan.start, Function.comp_def]

theorem scopesInside_start (root : List Scope) (state : State) :
    Scan.scopesInside root (Scan.start state).stack = state.contentScopes?.getD root := by
  cases found : state.stack <;> simp [Scan.start, Scan.scopesInside, State.contentScopes?, found]

/-- The tokens of a line without any match: one over the whole line, or none if the line is
empty. -/
theorem Unmatched.tokenizeLine_eq (unmatched : Unmatched grammar line state) :
    grammar.tokenizeLine line state =
      ⟨(Pieces.empty.produce (Text.byteLength line)
        (state.contentScopes?.getD grammar.rootScopes)).toList, state⟩ := by
  have absent := unmatched.upcomingIn?_eq
  have givesUp : grammar.step line (Scan.start state) =
      grammar.giveUp line (Scan.start state).stack .empty := by
    unfold step
    unfold upcomingIn? at absent
    rw [absent]
    rfl
  obtain ⟨fuel, fuelEq⟩ : ∃ fuel, stepLimit line state = fuel + 1 :=
    ⟨stepLimit line state - 1, by unfold stepLimit; omega⟩
  rw [tokenizeLine, fuelEq, runSteps, givesUp]
  simp only [giveUp, finalPieces, finish_start, scopesInside_start]

theorem Unmatched.tokenizeLineLimited_eq (unmatched : Unmatched grammar line state)
    (limit : Nat) :
    grammar.tokenizeLineLimited limit line state =
      ⟨if line = [] then []
        else [⟨0, Text.byteLength line, state.contentScopes?.getD grammar.rootScopes⟩],
        state⟩ := by
  unfold tokenizeLineLimited
  cases line with
  | nil => simp [unmatched.tokenizeLine_eq, Pieces.produce, Pieces.empty, Pieces.toList]
  | cons c rest =>
      have nonempty : c.utf8Size ≠ 0 := Nat.ne_of_gt c.utf8Size_pos
      split
      · simp [unmatched.tokenizeLine_eq, Pieces.produce, Pieces.empty, Pieces.toList, nonempty]
      · simp

end Grammar

namespace Provider

variable (provider : Provider)

/-- The scopes of the one token that a line without any match is encoded as. -/
def unmatchedScopes (grammar : Grammar) (line : List Char) (state : State) : List Scope :=
  if line = [] then grammar.rootScopes else state.contentScopes?.getD grammar.rootScopes

theorem encodeLine_of_unmatched {grammar : Grammar} {line : List Char} {state : State}
    (loaded : provider.grammar = some grammar)
    (unmatched : grammar.Unmatched line state) :
    provider.encodeLine line state =
      .ok ⟨[0, (provider.metadata (unmatchedScopes grammar line state)).word], state⟩ := by
  rw [encodeLine_of_grammar loaded, unmatched.tokenizeLineLimited_eq]
  unfold unmatchedScopes
  split
  · rfl
  · rfl

/-- A line without any match is encoded as one token, which starts at once and leaves the
state as it is.  The token has the class, the bracket bit and the style of the scopes inside
the innermost open span, or of the scope of the whole text if the line is empty. -/
theorem encodeLine_unmatched {grammar : Grammar} {line : List Char} {state : State}
    (loaded : provider.grammar = some grammar)
    (unmatched : grammar.Unmatched line state) :
    ∃ metadata : Metadata,
      provider.encodeLine line state = .ok ⟨[0, metadata.word], state⟩ ∧
      let scopes := unmatchedScopes grammar line state
      metadata.language = provider.languageNumber ∧ metadata.kind = .ofScopes scopes ∧
        metadata.balanced = provider.config.isBalanced scopes ∧
        metadata.font = (provider.styleOf scopes).font ∧
        metadata.foreground = (provider.styleOf scopes).foreground % 0x200 ∧
        metadata.background = (provider.styleOf scopes).background % 0x100 := by
  refine ⟨provider.metadata (unmatchedScopes grammar line state),
    provider.encodeLine_of_unmatched loaded unmatched, ?_⟩
  simp [metadata]

/-- The state inside the span of the small grammar, opened at the end of a line. -/
def markState : State where
  stack := [{
    rule := 1
    nameScopes := [⟨"text.marks"⟩, ⟨"mark"⟩]
    contentScopes := [⟨"text.marks"⟩, ⟨"mark"⟩, ⟨"mark.inner"⟩]
    closing := none
    openedAtLineEnd := true
  }]

/-- Settings under which brackets are matched inside the span of the small grammar only. -/
def markConfig : Config where
  balancedSelectors := ["mark"]

theorem isBalanced_markConfig :
    markConfig.isBalanced [⟨"text.marks"⟩, ⟨"mark"⟩, ⟨"mark.inner"⟩] = true ∧
      markConfig.isBalanced [⟨"text.marks"⟩] = false := by
  decide +kernel

/-- A provider of the small grammar with these settings. -/
def markProvider (grammar : Grammar) : Provider where
  config := markConfig
  engine := .standard
  grammar := some grammar
  theme := none
  languageNumber := 1

/-- The span of the small grammar goes on over a line with another letter, and over an empty
line. -/
theorem markDocument_unmatched :
    ∃ grammar, Grammar.ofDocument .standard true markDocument = .ok grammar ∧
      (grammar.tokenizeLine ['<'] .initial).endState = markState ∧
      grammar.scopeName = ⟨"text.marks"⟩ ∧
      grammar.Unmatched ['b'] markState ∧ grammar.Unmatched [] markState := by
  have evaluated : ((Grammar.ofDocument .standard true markDocument).toOption.any fun grammar =>
      decide ((grammar.tokenizeLine ['<'] .initial).endState = markState ∧
        grammar.scopeName = ⟨"text.marks"⟩ ∧
        ∀ line ∈ [['b'], []],
          ((grammar.candidateScanner? (grammar.contextOf (Scan.start markState).stack)).bind
            fun scanner => scanner.find line 0 (Scan.start markState).anchor).isNone = true ∧
          ((markState.stack.head?.bind grammar.closingScanner?).bind
            fun scanner => scanner.find line 0 (Scan.start markState).anchor).isNone = true)) =
      true := by
    decide +kernel
  obtain ⟨grammar, loaded, checked⟩ := Grammar.exists_ok_of_any evaluated
  obtain ⟨opened, scopeNameEq, absent⟩ := of_decide_eq_true checked
  have unmatched (line : List Char) (listed : line ∈ [['b'], []]) :
      grammar.Unmatched line markState :=
    .of_isNone (absent line listed).1 (absent line listed).2
  exact ⟨grammar, loaded, opened, scopeNameEq, unmatched _ (by simp), unmatched _ (by simp)⟩

/-- Inside the span brackets are matched on a line with another letter, but not on an empty
line. -/
theorem encodeLine_markDocument :
    ∃ grammar, Grammar.ofDocument .standard true markDocument = .ok grammar ∧
      (∃ metadata : Metadata, metadata.balanced = true ∧
        (markProvider grammar).encodeLine ['b'] markState =
          .ok ⟨[0, metadata.word], markState⟩) ∧
      ∃ metadata : Metadata, metadata.balanced = false ∧
        (markProvider grammar).encodeLine [] markState =
          .ok ⟨[0, metadata.word], markState⟩ := by
  obtain ⟨grammar, loaded, -, scopeNameEq, filled, empty⟩ := markDocument_unmatched
  obtain ⟨inner, innerEq, -, -, innerBalanced, -⟩ :=
    encodeLine_unmatched (markProvider grammar) rfl filled
  obtain ⟨outer, outerEq, -, -, outerBalanced, -⟩ :=
    encodeLine_unmatched (markProvider grammar) rfl empty
  refine ⟨grammar, loaded, ⟨inner, ?_, innerEq⟩, ⟨outer, ?_, outerEq⟩⟩
  · exact innerBalanced.trans isBalanced_markConfig.1
  · rw [outerBalanced, unmatchedScopes, if_pos rfl, Grammar.rootScopes, scopeNameEq]
    exact isBalanced_markConfig.2

/-- Not every line without any match is encoded with the scopes inside the innermost open
span. -/
theorem not_encodeLine_contentScopes :
    ¬∀ (provider : Provider) (grammar : Grammar) (line : List Char) (state : State),
      provider.grammar = some grammar → grammar.Unmatched line state →
        provider.encodeLine line state =
          .ok ⟨[0, (provider.metadata
            (state.contentScopes?.getD grammar.rootScopes)).word], state⟩ := by
  intro always
  obtain ⟨grammar, -, -, scopeNameEq, -, empty⟩ := markDocument_unmatched
  have claimed := always (markProvider grammar) grammar [] markState rfl empty
  rw [encodeLine_of_unmatched (markProvider grammar) rfl empty, unmatchedScopes, if_pos rfl]
    at claimed
  have wordsEq : ((markProvider grammar).metadata grammar.rootScopes).word =
      ((markProvider grammar).metadata
        (markState.contentScopes?.getD grammar.rootScopes)).word := by
    simpa using claimed
  have metadataEq : (markProvider grammar).metadata grammar.rootScopes =
      (markProvider grammar).metadata
        (markState.contentScopes?.getD grammar.rootScopes) :=
    congrArg Metadata.mk wordsEq
  have balancedEq := congrArg Metadata.balanced metadataEq
  simp only [metadata, Metadata.balanced_encode, Grammar.rootScopes, scopeNameEq]
    at balancedEq
  have outer := isBalanced_markConfig.2.symm.trans balancedEq
  rw [show markState.contentScopes?.getD [⟨"text.marks"⟩] =
    [⟨"text.marks"⟩, ⟨"mark"⟩, ⟨"mark.inner"⟩] from rfl] at outer
  cases outer.trans isBalanced_markConfig.1

end Provider

end Scopelight
