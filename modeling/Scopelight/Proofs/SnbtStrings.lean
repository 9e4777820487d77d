import Scopelight.Proofs.EscapedText
import Scopelight.Proofs.PlannedSteps
import Scopelight.Proofs.SnbtText

/-!
# Escaped texts are strings of SNBT

A text that is escaped and put between double quotes is one string, whatever the text is.
The opening quote opens the string; inside it only a backslash starts a match, and this
match takes the character after it.  Escaping leaves every quote and every backslash behind
a backslash, so the first quote that is not taken is the last one.
-/

namespace Scopelight

namespace Snbt

open Pattern

/-- The scopes inside a string between double quotes. -/
def stringScopes : List Scope :=
  [⟨"source.snbt"⟩, ⟨"string.quoted.double.snbt"⟩]

def stringBeginScopes : List Scope :=
  stringScopes ++ [⟨"punctuation.definition.string.begin.snbt"⟩]

def stringEndScopes : List Scope :=
  stringScopes ++ [⟨"punctuation.definition.string.end.snbt"⟩]

def escapeScopes : List Scope :=
  stringScopes ++ [⟨"constant.character.escape.snbt"⟩]

/-- What the rules for strings between double quotes are in a table of rules. -/
def hasStrings (book : Rulebook) : Bool :=
  (book.firstStart? patternPlans (Plan.avoids '"') book.root).any fun id =>
    (book.span? id).any fun rule => (book.named? "escape").any fun escapeId =>
      (book.single? escapeId).any fun escape =>
        book.startsFirst patternPlans (Plan.avoids '"') book.root ['"'] id &&
          decide (book.candidates id = [escapeId] ∧
            book.startPlan? patternPlans escapeId = some escapePlan ∧
            patternPlans.plan? rule.closing = some (.text '"' []) ∧
            rule.closingLast = false ∧ [⟨"source.snbt"⟩] ++ rule.name = stringScopes ∧
            rule.contentName = [] ∧
            stringScopes ++ (rule.openingCaptures.get? 0).getD [] = stringBeginScopes ∧
            stringScopes ++ (rule.closingCaptures.get? 0).getD [] = stringEndScopes ∧
            stringScopes ++ escape.name ++ (escape.captures.get? 0).getD [] = escapeScopes)

/-- The rules of a grammar for strings between double quotes and for the escapes in them. -/
structure StringRules (grammar : Grammar) where
  id : RuleId
  rule : SpanRule
  escapeId : RuleId
  escape : SingleRule
  scopeNameEq : grammar.scopeName = ⟨"source.snbt"⟩
  ruleEq : grammar.rule? id = some (.span rule)
  escapeEq : grammar.rule? escapeId = some (.single escape)
  starts : ∀ rest, grammar.StartsFirst grammar.root ['"'] rest id
  candidatesEq : grammar.candidates id = [escapeId]
  escapes : grammar.startPattern? escapeId = some (.ofPlan escapePlan false)
  closes : compile? rule.closing = some (.ofPlan (.text '"' []) false)
  preferred : rule.closingLast = false
  nameEq : [⟨"source.snbt"⟩] ++ rule.name = stringScopes
  contentNameEq : rule.contentName = []
  beginEq : stringScopes ++ (rule.openingCaptures.get? 0).getD [] = stringBeginScopes
  endEq : stringScopes ++ (rule.closingCaptures.get? 0).getD [] = stringEndScopes
  escapeNameEq : stringScopes ++ escape.name ++ (escape.captures.get? 0).getD [] = escapeScopes

/-- The grammar of SNBT has these rules. -/
theorem exists_stringRules (strict : Bool) :
    ∃ loaded, grammar .standard strict = .ok loaded ∧
      Grammar.Classifying structural loaded ∧ Nonempty (StringRules loaded) := by
  obtain ⟨loaded, loadedEq, scopeNameEq, checked⟩ :=
    grammar_loads strict hasStrings (by decide +kernel)
  obtain ⟨other, otherEq, classifying⟩ := exists_classifying strict
  obtain rfl := Except.ok.inj (loadedEq.symm.trans otherEq)
  refine ⟨loaded, loadedEq, classifying, ?_⟩
  simp only [hasStrings, Option.any_eq_true, Bool.and_eq_true, decide_eq_true_eq] at checked
  obtain ⟨id, -, rule, ruleEq, escapeId, -, escape, escapeEq, starts, candidatesEq, escapes,
    closes, preferred, nameEq, contentNameEq, beginEq, endEq, escapeNameEq⟩ := checked
  exact ⟨{
    id, rule, escapeId, escape, scopeNameEq, candidatesEq, preferred, nameEq, contentNameEq,
    beginEq, endEq, escapeNameEq
    ruleEq := Rulebook.span?_eq_some.mp ruleEq
    escapeEq := Rulebook.single?_eq_some.mp escapeEq
    starts := fun rest => Grammar.startsFirst_of_check patternPlans_right starts
      fun plan avoids => Plan.silent_of_avoids avoids rest
    escapes := Grammar.startPattern?_of_startPlan? patternPlans_right escapes
    closes := patternPlans_right.compile? closes
  }⟩

/-- A character that neither ends a string nor starts an escape. -/
def Plain (c : Char) : Prop :=
  c ≠ '"' ∧ c ≠ '\\'

/-- A character that an escaped text may have behind a backslash. -/
def Escapable (c : Char) : Prop :=
  c = '\\' ∨ c = '"' ∨ c = 'n'

/-- An escaped character is a pair with a backslash or plain. -/
theorem escapeChar_cases (c : Char) :
    (∃ d, Escapable d ∧ Text.escapeChar c = ['\\', d]) ∨
      (Plain c ∧ Text.escapeChar c = [c]) := by
  rcases Text.escapeChar_pair_or_plain c with ⟨d, known, pairEq, -⟩ | ⟨unmarked, plainEq⟩
  · exact .inl ⟨d, by simpa [Escapable] using known, pairEq⟩
  · simp only [List.mem_cons, not_or] at unmarked
    exact .inr ⟨⟨unmarked.2.1, unmarked.1⟩, plainEq⟩

theorem escapePlan_matchesOnly {c : Char} (escapable : Escapable c) :
    escapePlan.matchesOnly ['\\', c] = true := by
  rcases escapable with rfl | rfl | rfl <;> decide

theorem escapePlan_avoids {c : Char} (other : c ≠ '\\') : escapePlan.avoids c = true := by
  have consumes : escapePlan.consumes = true := by decide
  have firstConsumes : (Plan.text '\\' []).consumes = true := by decide
  rw [Plan.avoids, consumes, escapePlan, Plan.beginsBy, firstConsumes]
  simp [Plan.beginsBy, Ne.symm other]

/-! ### The tokens of a string -/

/-- Tokens, latest first, of which the first is that of an opening quote and the others are
those of text and escapes in a string. -/
def BeginsString (tokens : List Token) : Prop :=
  ∃ inner, tokens = inner ++ [⟨0, 1, stringBeginScopes⟩] ∧
    ∀ token ∈ inner, token.scopes = stringScopes ∨ token.scopes = escapeScopes

theorem BeginsString.produce {pieces : Pieces} (begins : BeginsString pieces.tokens) (stop : Nat)
    {scopes : List Scope} (inside : scopes = stringScopes ∨ scopes = escapeScopes) :
    BeginsString (pieces.produce stop scopes).tokens := by
  obtain ⟨inner, tokensEq, allInside⟩ := begins
  have differs : stringBeginScopes ≠ scopes := by
    rcases inside with rfl | rfl <;> decide
  unfold Pieces.produce
  split
  case isTrue => exact ⟨inner, tokensEq, allInside⟩
  case isFalse =>
    rw [tokensEq]
    cases inner with
    | nil =>
        refine ⟨[⟨pieces.covered, stop, scopes⟩], ?_, by simpa using inside⟩
        simp [differs]
    | cons last inner =>
        simp only [List.cons_append]
        rw [List.forall_mem_cons] at allInside
        split
        case isTrue =>
          refine ⟨{ last with stop } :: inner, rfl, ?_⟩
          rw [List.forall_mem_cons]
          exact allInside
        case isFalse =>
          refine ⟨⟨pieces.covered, stop, scopes⟩ :: last :: inner, rfl, ?_⟩
          rw [List.forall_mem_cons, List.forall_mem_cons]
          exact ⟨inside, allInside⟩

/-- A token with new scopes is a token of its own. -/
theorem BeginsString.concat {pieces : Pieces} (begins : BeginsString pieces.tokens) {stop : Nat}
    (proper : pieces.covered < stop) :
    (pieces.produce stop stringEndScopes).tokens =
      ⟨pieces.covered, stop, stringEndScopes⟩ :: pieces.tokens := by
  obtain ⟨inner, tokensEq, allInside⟩ := begins
  have differs : ∀ last ∈ pieces.tokens, last.scopes ≠ stringEndScopes := by
    intro last member
    rw [tokensEq] at member
    rcases List.mem_append.mp member with isInner | isFirst
    · rcases allInside last isInner with scopesEq | scopesEq <;> rw [scopesEq] <;> decide
    · rw [List.mem_singleton.mp isFirst]
      decide
  unfold Pieces.produce
  rw [if_neg (Nat.not_le_of_lt proper)]
  obtain ⟨tokens, covered⟩ := pieces
  cases tokens with
  | nil => rfl
  | cons last others =>
      have newScopes := differs last List.mem_cons_self
      simp [newScopes]

/-- The tokens of a line that is one string: the quotes by themselves, with text and escapes
between them. -/
def IsString (length : Nat) (tokens : List Token) : Prop :=
  ∃ inner, tokens = ⟨0, 1, stringBeginScopes⟩ ::
      (inner ++ [⟨length - 1, length, stringEndScopes⟩]) ∧
    ∀ token ∈ inner, token.scopes = stringScopes ∨ token.scopes = escapeScopes

theorem IsString.in_string {length : Nat} {tokens : List Token}
    (inString : IsString length tokens) :
    ∀ token ∈ tokens, ⟨"string.quoted.double.snbt"⟩ ∈ token.scopes := by
  obtain ⟨inner, rfl, allInside⟩ := inString
  intro token member
  simp only [List.mem_cons, List.mem_append, List.not_mem_nil, or_false] at member
  rcases member with rfl | isInner | rfl
  · decide
  · rcases allInside token isInner with scopesEq | scopesEq <;> rw [scopesEq] <;> decide
  · simp [stringEndScopes, stringScopes]

theorem BeginsString.isString {pieces : Pieces} (begins : BeginsString pieces.tokens)
    {length : Nat} (lengthEq : length = pieces.covered + 1) :
    IsString length (pieces.produce length stringEndScopes).toList := by
  have proper : pieces.covered < length := by omega
  have tokensEq := begins.concat proper
  obtain ⟨inner, beginsEq, allInside⟩ := begins
  refine ⟨inner.reverse, ?_, fun token member => allInside token (List.mem_reverse.mp member)⟩
  rw [Pieces.toList, tokensEq, beginsEq, lengthEq]
  simp

/-! ### The scan of a string -/

open Grammar

/-- A scan stands inside a string that was opened at the start of the line. -/
structure Inside {grammar : Grammar} (strings : StringRules grammar) (line : List Char)
    (scan : Scan) : Prop where
  swept : Swept structural grammar line scan
  stackEq : ∃ opened, scan.stack = [opened] ∧ opened.frame.rule = strings.id
  begins : BeginsString scan.pieces.tokens

namespace Inside

variable {grammar : Grammar} {strings : StringRules grammar}
  {line before plain after : List Char} {scan : Scan}

theorem exists_fits (inside : Inside strings line scan) :
    ∃ opened, scan.stack = [opened] ∧ opened.frame.rule = strings.id ∧
      grammar.FrameFits grammar.rootScopes opened.frame strings.rule ∧
      opened.frame.nameScopes = stringScopes ∧ opened.frame.contentScopes = stringScopes := by
  obtain ⟨opened, stackEq, idEq⟩ := inside.stackEq
  have wellFormed := inside.swept.wellFormed
  rw [stackEq] at wellFormed
  cases wellFormed with
  | @cons _ _ rule fits _ =>
      have ruleEq := fits.ruleEq
      rw [idEq, strings.ruleEq] at ruleEq
      cases ruleEq
      have nameEq : opened.frame.nameScopes = stringScopes := by
        rw [fits.nameScopesEq, ← strings.nameEq]
        change [grammar.scopeName] ++ _ = _
        rw [strings.scopeNameEq]
      have contentEq : opened.frame.contentScopes = stringScopes := by
        rw [fits.contentScopesEq, nameEq, strings.contentNameEq, List.append_nil]
      exact ⟨opened, stackEq, idEq, fits, nameEq, contentEq⟩

theorem scopesAround_eq (inside : Inside strings line scan) :
    grammar.scopesAround scan = stringScopes := by
  obtain ⟨opened, stackEq, -, -, -, contentEq⟩ := inside.exists_fits
  rw [scopesAround, stackEq]
  exact contentEq

theorem contextOf_eq (inside : Inside strings line scan) :
    grammar.contextOf scan.stack = strings.id := by
  obtain ⟨opened, stackEq, idEq⟩ := inside.stackEq
  rw [stackEq]
  exact idEq

theorem candidates_eq (inside : Inside strings line scan) :
    grammar.candidates (grammar.contextOf scan.stack) = [strings.escapeId] := by
  rw [inside.contextOf_eq, strings.candidatesEq]

theorem closing_eq (classifying : Classifying structural grammar)
    (inside : Inside strings line scan) {top : OpenFrame} (topEq : scan.stack.head? = some top) :
    grammar.closingPattern? top.frame = some (.ofPlan (.text '"' []) false) := by
  obtain ⟨opened, stackEq, -, fits, -⟩ := inside.exists_fits
  rw [stackEq] at topEq
  obtain rfl := Option.some.inj topEq
  rw [closingPattern?_eq classifying.classifies fits, strings.closes]

theorem closesLast_eq (inside : Inside strings line scan) :
    grammar.closesLast (grammar.contextOf scan.stack) = false := by
  simp only [inside.contextOf_eq, closesLast, strings.ruleEq, strings.preferred]

/-- Plain characters are passed over. -/
theorem skips (classifying : Classifying structural grammar) (inside : Inside strings line scan)
    (allPlain : ∀ c ∈ plain, Plain c) : grammar.Skips scan.stack plain where
  starts := by
    intro id member c cPlain rest
    rw [inside.candidates_eq, List.mem_singleton] at member
    rw [member]
    have avoids := escapePlan_avoids (allPlain c cPlain).2
    exact ⟨_, strings.escapes, Plan.silent_of_avoids avoids rest⟩
  closes := by
    intro top topEq c cPlain rest
    exact ⟨_, inside.closing_eq classifying topEq,
      Plan.silent_of_avoids (Plan.text_avoids (allPlain c cPlain).1 []) rest⟩

/-- Behind plain characters an escape is passed. -/
theorem step_escape (classifying : Classifying structural grammar)
    (inside : Inside strings line scan) {c : Char} (escapable : Escapable c)
    (positionEq : Text.byteLength before = scan.position)
    (lineEq : line = before ++ (plain ++ (['\\', c] ++ after)))
    (allPlain : ∀ d ∈ plain, Plain d) :
    ∃ next, grammar.step line scan = .more next ∧ Inside strings line next ∧
      next.position = Text.byteLength (before ++ (plain ++ ['\\', c])) := by
  have starts : grammar.StartsFirst (grammar.contextOf scan.stack) ['\\', c] after
      strings.escapeId :=
    ⟨[], [], inside.candidates_eq, ⟨_, strings.escapes, escapePlan_matchesOnly escapable⟩,
      fun _ member => absurd member List.not_mem_nil⟩
  obtain ⟨index, upcoming⟩ := (inside.swept.priority classifying).starts_first positionEq lineEq
    (inside.skips classifying allPlain) starts fun top topEq =>
      ⟨_, inside.closing_eq classifying topEq,
        Plan.silent_of_avoids (Plan.text_avoids (by decide) []) _⟩
  have stepEq := inside.swept.step_pass classifying upcoming strings.escapeEq
  refine ⟨_, stepEq, ⟨(inside.swept.goes_on classifying stepEq).1, inside.stackEq, ?_⟩, ?_⟩
  · have sizePos := c.utf8Size_pos
    have proper : 0 < Text.byteLength ['\\', c] := by
      rw [Text.byteLength_cons, Text.byteLength_cons]
      omega
    change BeginsString (grammar.passedPieces scan strings.escape _).tokens
    rw [passedPieces, Pieces.layMatch_whole (by rw [inside.swept.coveredEq]; omega) proper,
      inside.scopesAround_eq, strings.escapeNameEq]
    exact (inside.begins.produce _ (.inl rfl)).produce _ (.inr rfl)
  · change scan.position + _ + _ = _
    simp only [Text.byteLength_append, positionEq, Nat.add_assoc]

/-- Behind plain characters at the end of the line the string is closed. -/
theorem step_close (classifying : Classifying structural grammar)
    (inside : Inside strings line scan)
    (positionEq : Text.byteLength before = scan.position)
    (lineEq : line = before ++ (plain ++ (['"'] ++ [])))
    (allPlain : ∀ d ∈ plain, Plain d) :
    ∃ next, grammar.step line scan = .more next ∧ Swept structural grammar line next ∧
      next.stack = [] ∧ next.position = Text.byteLength line ∧
      IsString (Text.byteLength line) next.pieces.toList := by
  obtain ⟨opened, stackEq, idEq, fits, nameEq, contentEq⟩ := inside.exists_fits
  have topEq : scan.stack.head? = some opened := by rw [stackEq, List.head?_cons]
  have upcoming := (inside.swept.priority classifying).closes_first positionEq lineEq
    (inside.skips classifying allPlain) topEq ⟨_, inside.closing_eq classifying topEq, by decide⟩
    (by decide) inside.closesLast_eq
  have stepEq := inside.swept.step_close classifying upcoming stackEq
  have lengthEq : Text.byteLength line = scan.position + Text.byteLength plain + 1 := by
    rw [lineEq, ← positionEq]
    simp [Text.byteLength_append, Nat.add_assoc]
    rfl
  refine ⟨_, stepEq, (inside.swept.goes_on classifying stepEq).1, rfl, ?_, ?_⟩
  · change max scan.position (scan.position + _ + 1) = _
    omega
  · have capturesEq : grammar.closingCaptures opened.frame.rule =
        strings.rule.closingCaptures := by
      simp only [closingCaptures, fits.ruleEq]
    have coveredEq := inside.swept.coveredEq
    change IsString _ (grammar.closedPieces scan opened _).toList
    rw [closedPieces, Pieces.layMatch_whole (by omega) (by decide), contentEq, nameEq,
      capturesEq, strings.endEq]
    have begins := inside.begins.produce (scan.position + Text.byteLength plain) (.inl rfl)
    have covered := Pieces.covered_produce scan.pieces (scan.position + Text.byteLength plain)
      stringScopes
    rw [lengthEq]
    exact begins.isString (by omega)

/-- A scan inside a string comes to the end of the line with the string closed. -/
theorem runSteps_isString (classifying : Classifying structural grammar) (text : List Char)
    (fuel : Nat) (inside : Inside strings line scan)
    (positionEq : Text.byteLength before = scan.position)
    (lineEq : line = before ++ (plain ++ (Text.escape text ++ ['"'])))
    (allPlain : ∀ d ∈ plain, Plain d) (enough : Text.byteLength line < scan.position + fuel) :
    (grammar.runSteps line fuel scan).1 = [] ∧
      IsString (Text.byteLength line) (grammar.runSteps line fuel scan).2.toList := by
  induction text generalizing before plain scan fuel with
  | nil =>
      obtain ⟨next, stepEq, swept, stackEq, atEnd, inString⟩ :=
        inside.step_close classifying positionEq lineEq allPlain
      have advances := (inside.swept.goes_on classifying stepEq).2
      obtain ⟨more, rfl⟩ : ∃ more, fuel = more + 2 := ⟨fuel - 2, by omega⟩
      have covered : Text.byteLength line ≤ next.pieces.covered := by
        rw [swept.coveredEq, atEnd]
      simp only [runSteps, stepEq, swept.step_end classifying atEnd.ge, giveUp, finalPieces,
        Pieces.produce_of_le covered]
      exact ⟨stackEq, inString⟩
  | cons c text ih =>
      rw [Text.escape_cons] at lineEq
      rcases escapeChar_cases c with ⟨d, escapable, pairEq⟩ | ⟨cPlain, singleEq⟩
      · rw [pairEq, List.append_assoc] at lineEq
        obtain ⟨next, stepEq, nextInside, nextPosition⟩ :=
          inside.step_escape classifying escapable positionEq lineEq allPlain
        have advances := (inside.swept.goes_on classifying stepEq).2
        obtain ⟨more, rfl⟩ : ∃ more, fuel = more + 1 := by
          have insideLine := nextInside.swept.boundary.le_length
          exact ⟨fuel - 1, by omega⟩
        simp only [runSteps, stepEq]
        have restEq : line = (before ++ (plain ++ ['\\', d])) ++
            ([] ++ (Text.escape text ++ ['"'])) := by
          rw [lineEq]
          simp
        exact ih more nextInside nextPosition.symm restEq
          (fun _ member => absurd member List.not_mem_nil) (by omega)
      · rw [singleEq, List.append_assoc, ← List.append_assoc plain] at lineEq
        refine ih fuel inside positionEq lineEq (fun d member => ?_) enough
        rcases List.mem_append.mp member with old | new
        · exact allPlain d old
        · rw [List.mem_singleton.mp new]
          exact cPlain

end Inside

/-- The quote at the start of a line opens a string. -/
theorem step_begin {grammar : Grammar} (classifying : Classifying structural grammar)
    (strings : StringRules grammar) (rest : List Char) :
    ∃ next, grammar.step ('"' :: rest) (Scan.start .initial) = .more next ∧
      Inside strings ('"' :: rest) next ∧ next.position = 1 := by
  have swept : Swept structural grammar ('"' :: rest) (Scan.start .initial) := Swept.start .nil
  have lineEq : '"' :: rest = [] ++ (['"'] ++ rest) := rfl
  obtain ⟨index, upcoming⟩ := (swept.priority classifying).starts_here rfl lineEq
    (strings.starts rest) (fun _ isTop => by cases isTop)
  have stepEq := swept.step_open classifying upcoming strings.ruleEq
  refine ⟨_, stepEq, ⟨(swept.goes_on classifying stepEq).1, ⟨_, rfl, rfl⟩, [], ?_, ?_⟩, rfl⟩
  · have nameEq : grammar.scopesAround (Scan.start .initial) ++ strings.rule.name =
        stringScopes := by
      rw [← strings.nameEq]
      change [grammar.scopeName] ++ _ = _
      rw [strings.scopeNameEq]
    have proper : 0 < Text.byteLength ['"'] := by decide
    have laid := Pieces.layMatch_whole (Nat.le_refl Pieces.empty.covered) proper
      (grammar.scopesAround (Scan.start .initial)) stringScopes strings.rule.openingCaptures index
    rw [strings.beginEq] at laid
    change (Pieces.layMatch _ _ (_ ++ strings.rule.name) _ _).tokens = _
    rw [nameEq]
    exact congrArg Pieces.tokens laid
  · exact fun _ member => absurd member List.not_mem_nil

theorem runSteps_escaped {grammar : Grammar} (classifying : Classifying structural grammar)
    (strings : StringRules grammar) (text : List Char) {line : List Char}
    (lineEq : line = '"' :: (Text.escape text ++ ['"'])) :
    (grammar.runSteps line (stepLimit line .initial) (Scan.start .initial)).1 = [] ∧
      IsString (Text.byteLength line)
        (grammar.runSteps line (stepLimit line .initial) (Scan.start .initial)).2.toList := by
  obtain ⟨next, stepEq, inside, positionEq⟩ :=
    step_begin classifying strings (Text.escape text ++ ['"'])
  rw [← lineEq] at stepEq inside
  obtain ⟨more, limitEq⟩ : ∃ more, stepLimit line .initial = more + 1 := ⟨_, rfl⟩
  have enough : Text.byteLength line < next.position + more := by
    simp only [stepLimit] at limitEq
    omega
  rw [limitEq]
  simp only [runSteps, stepEq]
  have restEq : line = ['"'] ++ ([] ++ (Text.escape text ++ ['"'])) := lineEq
  have quoteLength : Text.byteLength ['"'] = next.position := positionEq.symm
  exact inside.runSteps_isString classifying text more quoteLength restEq
    (fun _ member => absurd member List.not_mem_nil) enough

/-- A text that is escaped and put between double quotes is one string: the line ends in the
initial state, its first and its last token are the quotes, and all its tokens are in the
string. -/
theorem tokenizeLine_escaped (strict : Bool) :
    ∃ loaded, grammar .standard strict = .ok loaded ∧ ∀ text : List Char,
      let line := '"' :: (Text.escape text ++ ['"'])
      let result := loaded.tokenizeLine line .initial
      result.endState = .initial ∧ IsString (Text.byteLength line) result.tokens ∧
        ∀ token ∈ result.tokens, ⟨"string.quoted.double.snbt"⟩ ∈ token.scopes := by
  obtain ⟨loaded, loadedEq, classifying, ⟨strings⟩⟩ := exists_stringRules strict
  refine ⟨loaded, loadedEq, fun text => ?_⟩
  intro line result
  have lineEq : line = '"' :: (Text.escape text ++ ['"']) := rfl
  have ends := runSteps_escaped classifying strings text lineEq
  refine ⟨congrArg Scan.finish ends.1, ends.2, ?_⟩
  exact ends.2.in_string

end Snbt

end Scopelight
