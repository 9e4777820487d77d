import Scopelight.Pattern.Expr
import Scopelight.Text.Hex
import Scopelight.Unicode.Letters
import Scopelight.Unicode.Category
import Scopelight.Unicode.White

/-!
# Reading patterns

Recursive-descent reading of a pattern text into an expression.  A reader is a state
transformer over the text that is left; a pattern that breaks a rule of the notation has no
reading.  Fuel bounds the recursion: each step takes at least one character, so the length
of the text is enough.
-/

namespace Scopelight

namespace Pattern

/-- What a reader carries along. -/
structure ReaderState where
  rest : List Char
  extended : Bool
  captures : Nat
  names : List (List Char)

abbrev Reader := StateT ReaderState Option

namespace Reader

/-- A text without the white space and the comments it starts with.  The flag says whether
the text starts inside a comment. -/
def dropSpace : Bool → List Char → List Char
  | _, [] => []
  | true, c :: rest => dropSpace (c != '\n') rest
  | false, c :: rest =>
      if Unicode.isWhite c then dropSpace false rest
      else if c = '#' then dropSpace true rest
      else c :: rest

/-- Skip white space and comments where the extended mode is on. -/
def skipSpace : Reader Unit :=
  modify fun state =>
    if state.extended then { state with rest := dropSpace false state.rest } else state

def peek : Reader (Option Char) := do
  return (← get).rest.head?

/-- The next character; the text must not end here. -/
def next : Reader Char := do
  match (← get).rest with
  | [] => failure
  | c :: _ => return c

def bump : Reader Unit :=
  modify fun state => { state with rest := state.rest.tail }

/-- Pass over one character and the space after it. -/
def advance : Reader Unit := do
  bump
  skipSpace

def take? (text : List Char) : Reader Bool := do
  let state ← get
  if text.isPrefixOf state.rest then
    set { state with rest := state.rest.drop text.length }
    return true
  else return false

/-- The longest run of accepted characters, with the space around them skipped in the
extended mode, and the text after it.  The flag says whether the text starts inside a
comment. -/
def spanAccepted (extended : Bool) (accept : Char → Bool) :
    Bool → List Char → List Char × List Char
  | _, [] => ([], [])
  | true, c :: rest => spanAccepted extended accept (c != '\n') rest
  | false, c :: rest =>
      if extended && Unicode.isWhite c then spanAccepted extended accept false rest
      else if extended && c == '#' then spanAccepted extended accept true rest
      else if accept c then
        let (taken, left) := spanAccepted extended accept false rest
        (c :: taken, left)
      else ([], c :: rest)

def takeWhile (accept : Char → Bool) : Reader (List Char) := do
  let state ← get
  let (taken, left) := spanAccepted state.extended accept false state.rest
  set { state with rest := left }
  return taken

end Reader

open Reader

/-- The character with a code point written in hexadecimal digits. -/
def scalarOfHex? (digits : List Char) : Option Char := do
  let values ← digits.mapM Text.hexValue?
  let code := values.foldl (fun total value => total * 16 + value) 0
  if h : code.isValidChar then some (Char.ofNatAux code h) else none

/-- The characters with a meaning of their own in patterns. -/
def isMeta (c : Char) : Bool :=
  ['\\', '.', '+', '*', '?', '(', ')', '|', '[', ']', '{', '}', '^', '$', '#', '&', '-',
    '~'].contains c

/-- The characters that a backslash makes literal: all ASCII characters but letters,
digits and the two angle brackets. -/
def isEscapable (c : Char) : Bool :=
  isMeta c ||
    (decide (c.toNat < 0x80) && !c.isAlphanum && c != '<' && c != '>')

private def alphabeticRanges : List (Nat × Nat) :=
  Unicode.Letters.alphabetic.ranges

private def numberRanges : List (List (Nat × Nat)) :=
  [Unicode.Category.decimalNumber.ranges, Unicode.Category.letterNumber.ranges,
    Unicode.Category.otherNumber.ranges]

/-- The characters that may stand in a group name, at its start or after it. -/
def isNameChar (first : Bool) (c : Char) : Bool :=
  c == '_' || Unicode.inRanges c.toNat alphabeticRanges ||
    (!first &&
      (c == '.' || c == '[' || c == ']' ||
        numberRanges.any fun ranges => Unicode.inRanges c.toNat ranges))

/-- A number of copies written in decimal digits, below two to the thirty-second. -/
def readDecimal? : Reader (Option Nat) := do
  modify fun state => { state with rest := state.rest.dropWhile Unicode.isWhite }
  let digits ← takeWhile Char.isDigit
  let state ← get
  set { state with rest := state.rest.dropWhile Unicode.isWhite }
  if digits.isEmpty then return none
  let value := digits.foldl (fun total c => total * 10 + (c.toNat - 0x30)) 0
  if value < 0x100000000 then return some value else failure

def readHexDigits : Nat → Reader (List Char)
  | 0 => return []
  | count + 1 => do
      let c ← next
      if (Text.hexValue? c).isNone then failure
      advance
      return c :: (← readHexDigits count)

/-- The part of a hexadecimal escape after its letter, for so many digits where no braces
are used. -/
def readHex (count : Nat) : Reader Expr := do
  advance
  if (← next) = '{' then
    advance
    let digits ← takeWhile (· != '}')
    if (← next) != '}' || digits.isEmpty then failure
    advance
    return .literal ⟨← scalarOfHex? digits, false⟩
  else
    let digits ← readHexDigits count
    return .literal ⟨← scalarOfHex? digits, count == 2⟩

/-- The two parts of a text around the first place where a separator stands in it. -/
def splitAt? (separator : List Char) : List Char → Option (List Char × List Char)
  | [] => none
  | c :: rest =>
      if separator.isPrefixOf (c :: rest) then
        some ([], (c :: rest).drop separator.length)
      else (splitAt? separator rest).map fun (before, after) => (c :: before, after)

/-- The property that the text between the braces of an escape names, and whether it is
the characters without the property that are meant. -/
def propertyName (text : List Char) : PropertyName × Bool :=
  match splitAt? ['!', '='] text with
  | some (name, value) => (.valued name value, true)
  | none =>
      match (splitAt? [':'] text).or (splitAt? ['='] text) with
      | some (name, value) => (.valued name value, false)
      | none => (.plain text, false)

/-- The part of a property escape after its letter. -/
def readProperty (negated : Bool) : Reader Expr := do
  advance
  let c ← next
  if c = '{' then
    advance
    let text ← takeWhile (· != '}')
    if (← next) != '}' then failure
    bump
    let (name, without) := propertyName text
    return .property name (negated != without)
  else if c = '\\' then failure
  else
    advance
    return .property (.plain [c]) negated

/-- The name in braces that can follow `\b`.  Anything but a letter or a hyphen after the
brace leaves the brace to be read as a count. -/
def readBoundaryKind : Reader Expr := do
  let before ← get
  if before.rest.head? != some '{' then return .assertion .wordBoundary
  advance
  let accepted (c : Char) : Bool := c.isAlpha || c == '-'
  if !accepted (← next) then
    set before
    return .assertion .wordBoundary
  let name ← takeWhile accepted
  if (← next) != '}' then failure
  bump
  if name = "start".toList then return .assertion .wordStart
  else if name = "end".toList then return .assertion .wordEnd
  else if name = "start-half".toList then return .assertion .wordStartHalf
  else if name = "end-half".toList then return .assertion .wordEndHalf
  else failure

def readEscape : Reader Expr := do
  bump
  let c ← next
  if c.isDigit then failure
  else if c = 'x' then readHex 2
  else if c = 'u' then readHex 4
  else if c = 'U' then readHex 8
  else if c = 'p' then readProperty false
  else if c = 'P' then readProperty true
  else
    bump
    let literal (code : Nat) : Expr := .literal ⟨Char.ofNat code, false⟩
    if isEscapable c then return .literal ⟨c, false⟩
    match c with
    | 'd' => return .short .digit false
    | 'D' => return .short .digit true
    | 's' => return .short .space false
    | 'S' => return .short .space true
    | 'w' => return .short .word false
    | 'W' => return .short .word true
    | 'a' => return literal 0x07
    | 'f' => return literal 0x0C
    | 't' => return literal 0x09
    | 'n' => return literal 0x0A
    | 'r' => return literal 0x0D
    | 'v' => return literal 0x0B
    | 'A' => return .assertion .textStart
    | 'z' => return .assertion .textEnd
    | 'b' => readBoundaryKind
    | 'B' => return .assertion .notWordBoundary
    | '<' => return .assertion .wordStart
    | '>' => return .assertion .wordEnd
    | _ => failure

/-- One character, escape or assertion outside a class. -/
def readPrimitive : Reader Expr := do
  let c ← next
  if c = '\\' then readEscape
  else
    bump
    match c with
    | '.' => return .dot
    | '^' => return .assertion .lineStart
    | '$' => return .assertion .lineEnd
    | _ => return .literal ⟨c, false⟩

/-- The class with a name between `[:` and `:]`. -/
def namedClass? (name : String) : Option NamedClass :=
  match name with
  | "alnum" => some .alnum
  | "alpha" => some .alpha
  | "ascii" => some .ascii
  | "blank" => some .blank
  | "cntrl" => some .cntrl
  | "digit" => some .digit
  | "graph" => some .graph
  | "lower" => some .lower
  | "print" => some .print
  | "punct" => some .punct
  | "space" => some .space
  | "upper" => some .upper
  | "word" => some .word
  | "xdigit" => some .xdigit
  | _ => none

/-- A class such as `[:alpha:]` or `[:^alpha:]` at the start of a text, with the text after
it. -/
def namedClassAt? (text : List Char) : Option (ClassExpr × List Char) :=
  match text with
  | '[' :: ':' :: inner =>
      let (negated, named) :=
        match inner with
        | '^' :: named => (true, named)
        | _ => (false, inner)
      let name := named.takeWhile (· != ':')
      match named.dropWhile (· != ':') with
      | ':' :: ']' :: rest =>
          (namedClass? (String.ofList name)).map fun kind => (.named kind negated, rest)
      | _ => none
  | _ => none

/-- One character or escape inside a class. -/
def readClassAtom : Reader Expr := do
  let c ← next
  if c = '\\' then readEscape
  else
    bump
    return .literal ⟨c, false⟩

/-- The character after the next one, where the extended mode passes over white space and
one number sign. -/
def peekPast (extended : Bool) (rest : List Char) : Option Char :=
  if extended then
    let blank := rest.tail.dropWhile Unicode.isWhite
    let left :=
      match blank with
      | '#' :: more => more.dropWhile Unicode.isWhite
      | _ => blank
    if left.isEmpty then rest.tail.head? else left.head?
  else rest.tail.head?

def classItem? : Expr → Option ClassExpr
  | .literal value => some (.literal value)
  | .short kind negated => some (.short kind negated)
  | .property name negated => some (.property name negated)
  | _ => none

def literal? : Expr → Option Literal
  | .literal value => some value
  | _ => none

/-- One item of a class: a range, or a single atom. -/
def readClassItem : Reader ClassExpr := do
  let first ← readClassAtom
  skipSpace
  let c ← next
  let state ← get
  let after := peekPast state.extended state.rest
  if c != '-' || after == some ']' || after == some '-' then
    classItem? first
  else
    advance
    let _ ← next
    let last ← readClassAtom
    let firstLiteral ← literal? first
    let lastLiteral ← literal? last
    if lastLiteral.char < firstLiteral.char then failure
    return .range firstLiteral lastLiteral

/-- The hyphens that stand for themselves at the start of a class, latest first. -/
def readLeadingHyphens : Nat → List ClassExpr → Reader (List ClassExpr)
  | 0, _ => failure
  | fuel + 1, items => do
      if (← next) = '-' then
        advance
        let _ ← next
        readLeadingHyphens fuel (.literal ⟨'-', false⟩ :: items)
      else return items

/-- A pending operation with its left side, applied to a right side. -/
def applyPending (pending : Option (SetOp × ClassExpr)) (right : ClassExpr) : ClassExpr :=
  match pending with
  | none => right
  | some (op, left) => .operation op left right

mutual

/-- A bracketed class, from its opening bracket on. -/
def readClass : Nat → Reader (Bool × ClassExpr)
  | 0 => failure
  | fuel + 1 => do
      advance
      let negated := (← next) = '^'
      if negated then
        advance
      let hyphens ← readLeadingHyphens fuel []
      let c ← next
      if hyphens.isEmpty && c == ']' then
        advance
        let _ ← next
        let inner ← readClassItems fuel none [.literal ⟨']', false⟩]
        return (negated, inner)
      else
        let inner ← readClassItems fuel none hyphens
        return (negated, inner)

/-- The rest of a class up to its closing bracket, with the items read so far, latest
first. -/
def readClassItems :
    Nat → Option (SetOp × ClassExpr) → List ClassExpr → Reader ClassExpr
  | 0, _, _ => failure
  | fuel + 1, pending, items => do
      skipSpace
      let c ← next
      let state ← get
      let second := state.rest.tail.head?
      let operate (op : SetOp) : Reader ClassExpr := do
        bump
        bump
        readClassItems fuel (some (op, applyPending pending (.ofItems items.reverse))) []
      if c = '[' then
        match namedClassAt? state.rest with
        | some (item, rest) =>
            set { state with rest := rest }
            readClassItems fuel pending (item :: items)
        | none =>
            let (negated, inner) ← readClass fuel
            readClassItems fuel pending (.bracketed negated inner :: items)
      else if c = ']' then
        bump
        return applyPending pending (.ofItems items.reverse)
      else if c = '&' && second == some '&' then operate .intersection
      else if c = '-' && second == some '-' then operate .difference
      else if c = '~' && second == some '~' then operate .symmetricDifference
      else
        let item ← readClassItem
        readClassItems fuel pending (item :: items)

end

def modeOfLetter? (c : Char) : Option Mode :=
  match c with
  | 'i' => some .caseless
  | 'm' => some .multiLine
  | 's' => some .dotAll
  | 'U' => some .swapGreed
  | 'u' => some .unicode
  | 'R' => some .crlf
  | 'x' => some .extended
  | _ => none

/-- The mode letters up to a colon or a closing parenthesis.  No letter and no hyphen may
be repeated, and a hyphen needs a letter after it. -/
def readModes : Nat → Bool → Bool → ModeChange → Reader ModeChange
  | 0, _, _, _ => failure
  | fuel + 1, negated, dangling, change => do
      let c ← next
      if c = ':' || c = ')' then
        if dangling then failure else return change.reverse
      else
        bump
        let _ ← next
        if c = '-' then
          if negated then failure else readModes fuel true true change
        else
          let mode ← modeOfLetter? c
          if (change.map Prod.fst).contains mode then failure
          readModes fuel negated false ((mode, !negated) :: change)

def ModeChange.value? (change : ModeChange) (mode : Mode) : Option Bool :=
  (change.find? fun entry => entry.1 = mode).map Prod.snd

/-- What stands at the start of a group. -/
inductive GroupHead where
  | modes (change : ModeChange)
  | capture (index : Nat)
  | group (change : ModeChange)

def readGroupName : Reader Unit := do
  let state ← get
  let name := state.rest.takeWhile (· != '>')
  match state.rest.dropWhile (· != '>') with
  | '>' :: rest =>
      match name with
      | [] => failure
      | first :: others =>
          if !isNameChar true first || !others.all (isNameChar false) then failure
          if state.names.contains name then failure
          set { state with rest := rest, names := name :: state.names }
  | _ => failure

/-- The start of a group, from its opening parenthesis on. -/
def readGroupHead : Reader GroupHead := do
  advance
  if (← take? "?=".toList) || (← take? "?!".toList) then failure
  if (← take? "?<=".toList) || (← take? "?<!".toList) then failure
  let named ← do
    if ← take? "?P<".toList then pure true else take? "?<".toList
  if named then
    let index := (← get).captures + 1
    modify fun state => { state with captures := index }
    readGroupName
    return .capture index
  else if ← take? "?".toList then
    let _ ← next
    let change ← readModes ((← get).rest.length + 1) false false []
    let closing ← next
    bump
    if closing = ')' then
      if change.isEmpty then failure
      return .modes change
    else return .group change
  else
    let index := (← get).captures + 1
    modify fun state => { state with captures := index }
    return .capture index

/-- The part that a repetition operator applies to: the latest one, unless it is empty or a
mode change. -/
def takeOperand : List Expr → Option (Expr × List Expr)
  | [] => none
  | .empty :: _ => none
  | .modes _ :: _ => none
  | part :: parts => some (part, parts)

/-- The least and the greatest number of copies in a counted repetition, from its opening
brace on. -/
def readCounts : Reader (Nat × Option Nat) := do
  advance
  let _ ← next
  let least ← readDecimal?
  if (← next) = ',' then
    advance
    let c ← next
    let least ← least
    if c = '}' then return (least, none)
    let most ← (← readDecimal?)
    if (← next) != '}' || most < least then failure
    return (least, some most)
  else
    let least ← least
    if (← next) != '}' then failure
    return (least, some least)

/-- Whether a repetition is followed by the sign that makes it prefer few copies. -/
def readGreedy : Reader Bool := do
  if (← peek) = some '?' then
    bump
    return false
  else return true

/-- The parts and branches up to a closing parenthesis or the end of the text, with those
read so far, latest first. -/
def readAlternatives : Nat → List Expr → List Expr → Reader Expr
  | 0, _, _ => failure
  | fuel + 1, branches, parts => do
      skipSpace
      let close : Expr := .ofBranches (Expr.ofParts parts.reverse :: branches).reverse
      match ← peek with
      | none => return close
      | some c =>
          if c = ')' then return close
          else if c = '|' then
            bump
            readAlternatives fuel (Expr.ofParts parts.reverse :: branches) []
          else if c = '(' then
            let outer := (← get).extended
            match ← readGroupHead with
            | .modes change =>
                modify fun state =>
                  { state with extended := (change.value? .extended).getD outer }
                readAlternatives fuel branches (.modes change :: parts)
            | .capture index =>
                let body ← readAlternatives fuel [] []
                if (← next) != ')' then failure
                modify fun state => { state with rest := state.rest.tail, extended := outer }
                readAlternatives fuel branches (.capture index body :: parts)
            | .group change =>
                modify fun state =>
                  { state with extended := (change.value? .extended).getD outer }
                let body ← readAlternatives fuel [] []
                if (← next) != ')' then failure
                modify fun state => { state with rest := state.rest.tail, extended := outer }
                readAlternatives fuel branches (.group change body :: parts)
          else if c = '[' then
            let (negated, inner) ← readClass fuel
            readAlternatives fuel branches (.bracketed negated inner :: parts)
          else if c = '?' || c = '*' || c = '+' then
            let (operand, others) ← takeOperand parts
            bump
            let greedy ← readGreedy
            let least := if c = '+' then 1 else 0
            let most := if c = '?' then some 1 else none
            readAlternatives fuel branches (.repeated operand least most greedy :: others)
          else if c = '{' then
            let (operand, others) ← takeOperand parts
            let (least, most) ← readCounts
            advance
            let greedy ← readGreedy
            readAlternatives fuel branches (.repeated operand least most greedy :: others)
          else
            let part ← readPrimitive
            readAlternatives fuel branches (part :: parts)

/-- The greatest nesting depth of an expression. -/
def depthLimit : Nat := 250

/-- The expression that a pattern text stands for, if the text follows the notation. -/
def Expr.parse? (text : List Char) : Option Expr := do
  let start : ReaderState := ⟨text, false, 0, []⟩
  let (expr, state) ← (readAlternatives (text.length + 1) [] []).run start
  if state.rest.isEmpty && expr.depth ≤ depthLimit then some expr else none

end Pattern

end Scopelight
