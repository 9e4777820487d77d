import Mathlib.Data.List.TakeDrop
import Mathlib.Data.List.TakeWhile
import Mathlib.Tactic.Tauto
import Scopelight.Pattern.Lowering
import Scopelight.Pattern.Reference

/-!
# Plain text

The check for unsupported constructs looks at a pattern character by character and stops
only at backslashes and opening parentheses.  What else a text starts with can be left out
without a change to what the check finds.  The names of properties that have members are
texts of this kind.
-/

namespace Scopelight

namespace Pattern

/-- A character that the check for unsupported constructs passes over. -/
def isPlain (c : Char) : Bool :=
  c != '\\' && c != '('

/-- Whether a text goes on like a look-around after its parenthesis. -/
def startsLook (text : List Char) : Bool :=
  "?=".toList.isPrefixOf text || "?!".toList.isPrefixOf text ||
    "?<=".toList.isPrefixOf text || "?<!".toList.isPrefixOf text

theorem unsupportedFeature_parenthesis (rest : List Char) : unsupportedFeature ('(' :: rest) =
    if startsLook rest then some "look-around" else unsupportedFeature rest := by
  rw [unsupportedFeature.eq_2, startsLook]

/-- The line that a text begins with has nothing that the check objects to. -/
def clearLine (text : List Char) : Bool :=
  (unsupportedFeature (text.takeWhile (· != '\n'))).isNone

theorem line_cons {c : Char} (noEnd : c ≠ '\n') (rest : List Char) :
    (c :: rest).takeWhile (· != '\n') = c :: rest.takeWhile (· != '\n') := by
  simp [noEnd]

theorem clearLine_cons {c : Char} (noEnd : c ≠ '\n') (rest : List Char) :
    clearLine (c :: rest) =
      (unsupportedFeature (c :: rest.takeWhile (· != '\n'))).isNone := by
  rw [clearLine, line_cons noEnd]

/-- The text behind the end of the line that a text begins with. -/
def afterLine (text : List Char) : List Char :=
  (text.dropWhile (· != '\n')).tail

theorem afterLine_cons {c : Char} (noEnd : c ≠ '\n') (rest : List Char) :
    afterLine (c :: rest) = afterLine rest := by
  simp [afterLine, noEnd]

/-- Where a number sign stands in a text without a backslash before it, the check has
nothing against the rest of its line.  If it begins a comment, the comment is clear. -/
def clearComments : List Char → Bool
  | '\\' :: _ :: rest => clearComments rest
  | c :: rest => (c != '#' || clearLine rest) && clearComments rest
  | [] => true

theorem clearComments_cons {c : Char} {rest : List Char} (noBackslash : c ≠ '\\') :
    clearComments (c :: rest) = ((c != '#' || clearLine rest) && clearComments rest) := by
  rw [clearComments.eq_2]
  rintro d others rfl
  exact fun _ => noBackslash rfl

/-- What the check finds in a text is what it finds in the end of it that is left, which has
clear comments if the text has. -/
structure Passes (before after : List Char) : Prop where
  suffix : after <:+ before
  featureEq : unsupportedFeature before = unsupportedFeature after
  comments : clearComments before = true → clearComments after = true

namespace Passes

variable {before between after rest passed : List Char} {c : Char}

theorem refl (text : List Char) : Passes text text :=
  ⟨List.suffix_refl _, rfl, id⟩

theorem trans (first : Passes before between) (second : Passes between after) :
    Passes before after :=
  ⟨second.suffix.trans first.suffix, first.featureEq.trans second.featureEq,
    fun clear => second.comments (first.comments clear)⟩

theorem one (plain : isPlain c = true) : Passes (c :: rest) rest := by
  rw [isPlain, Bool.and_eq_true, bne_iff_ne, bne_iff_ne] at plain
  obtain ⟨noBackslash, noParenthesis⟩ := plain
  refine ⟨List.suffix_cons _ _, ?_, fun clear => ?_⟩
  · rw [unsupportedFeature.eq_3]
    · rintro d others rfl
      exact fun _ => noBackslash rfl
    · exact noParenthesis
  · rw [clearComments_cons noBackslash, Bool.and_eq_true] at clear
    exact clear.2

theorem run (plain : ∀ c ∈ passed, isPlain c = true) : Passes (passed ++ rest) rest := by
  induction passed with
  | nil => exact .refl _
  | cons c passed ih =>
      rw [List.forall_mem_cons] at plain
      exact (one plain.1).trans (ih plain.2)

theorem escape (noReference : isReferenceDigit c = false) :
    Passes ('\\' :: c :: rest) rest :=
  ⟨(List.suffix_cons _ _).trans (List.suffix_cons _ _), by simp [unsupportedFeature, noReference],
    id⟩

theorem parenthesis (noLook : startsLook rest = false) : Passes ('(' :: rest) rest := by
  refine ⟨List.suffix_cons _ _, ?_, fun clear => ?_⟩
  · rw [unsupportedFeature_parenthesis, noLook, if_neg Bool.false_ne_true]
  · rw [clearComments_cons (by decide), Bool.and_eq_true] at clear
    exact clear.2

theorem dropWhile {accept : Char → Bool} {text : List Char}
    (plain : ∀ c, accept c = true → isPlain c = true) : Passes text (text.dropWhile accept) := by
  have splitEq := List.takeWhile_append_dropWhile (p := accept) (l := text)
  conv => arg 1; rw [← splitEq]
  exact .run fun c member => plain c (List.mem_takeWhile_imp member)

theorem drop {text rest : List Char} (starts : text.isPrefixOf rest = true)
    (plain : ∀ c ∈ text, isPlain c = true) : Passes rest (rest.drop text.length) := by
  obtain ⟨left, rfl⟩ := List.isPrefixOf_iff_prefix.mp starts
  rw [List.drop_left]
  exact .run plain

end Passes

theorem head_of_startsLook {text : List Char} (looks : startsLook text = true) :
    ∃ c rest, text = '?' :: c :: rest ∧ (c = '=' ∨ c = '!' ∨ c = '<') := by
  simp only [startsLook, Bool.or_eq_true, List.isPrefixOf_iff_prefix] at looks
  rcases looks with ((⟨rest, rfl⟩ | ⟨rest, rfl⟩) | ⟨rest, rfl⟩) | ⟨rest, rfl⟩
  · exact ⟨'=', rest, rfl, .inl rfl⟩
  · exact ⟨'!', rest, rfl, .inr (.inl rfl)⟩
  · exact ⟨'<', '=' :: rest, rfl, .inr (.inr rfl)⟩
  · exact ⟨'<', '!' :: rest, rfl, .inr (.inr rfl)⟩

theorem eq_of_not_plain {c : Char} (notPlain : ¬isPlain c = true) : c = '\\' ∨ c = '(' := by
  rw [isPlain, Bool.and_eq_true, bne_iff_ne, bne_iff_ne] at notPlain
  tauto

theorem isPlain_of_isWhite {c : Char} (white : Unicode.isWhite c = true) : isPlain c = true := by
  by_contra notPlain
  rcases eq_of_not_plain notPlain with rfl | rfl
  · exact absurd white (by decide)
  · exact absurd white (by decide)

/-! ### Comments -/

theorem isPrefixOf_takeWhile {accept : Char → Bool} {mark : List Char}
    (accepted : ∀ c ∈ mark, accept c = true) (text : List Char) :
    mark.isPrefixOf (text.takeWhile accept) = mark.isPrefixOf text := by
  induction mark generalizing text with
  | nil => rfl
  | cons c mark ih =>
      obtain ⟨accepted, others⟩ := List.forall_mem_cons.mp accepted
      cases text with
      | nil => rfl
      | cons d text =>
          cases taken : accept d with
          | true =>
              rw [List.takeWhile_cons_of_pos taken, List.isPrefixOf, List.isPrefixOf, ih others]
          | false =>
              have apart : (c == d) = false := by
                rw [beq_eq_false_iff_ne]
                rintro rfl
                cases accepted.symm.trans taken
              rw [List.takeWhile_cons_of_neg (by simp [taken])]
              change false = ((c == d) && mark.isPrefixOf text)
              rw [apart, Bool.false_and]

/-- No look-around goes on behind the end of a line. -/
theorem startsLook_line (text : List Char) :
    startsLook (text.takeWhile (· != '\n')) = startsLook text := by
  have kept (mark : List Char) (noEnd : ∀ c ∈ mark, (c != '\n') = true) :
      mark.isPrefixOf (text.takeWhile (· != '\n')) = mark.isPrefixOf text :=
    isPrefixOf_takeWhile noEnd text
  rw [startsLook, startsLook, kept _ (by simp), kept _ (by simp), kept _ (by simp),
    kept _ (by simp)]

/-- A clear line is passed over, with its end. -/
theorem passes_of_clearLine {text : List Char} (clear : clearLine text = true) :
    Passes text (afterLine text) := by
  induction text using unsupportedFeature.induct with
  | case1 c rest reference =>
      have noEnd : c ≠ '\n' := by
        rintro rfl
        exact absurd reference (by decide)
      rw [clearLine_cons (by decide), line_cons noEnd, unsupportedFeature, if_pos reference]
        at clear
      cases clear
  | case2 c rest noReference ih =>
      have escaped : Passes ('\\' :: c :: rest) rest := .escape (by simpa using noReference)
      rw [afterLine_cons (by decide)]
      by_cases ends : c = '\n'
      · subst ends
        exact escaped
      · rw [clearLine_cons (by decide), line_cons ends, unsupportedFeature, if_neg noReference]
          at clear
        rw [afterLine_cons ends]
        exact escaped.trans (ih clear)
  | case3 rest looks =>
      have restLooks : startsLook rest = true := looks
      rw [clearLine_cons (by decide), unsupportedFeature_parenthesis, startsLook_line,
        restLooks] at clear
      cases clear
  | case4 rest noLook ih =>
      have restNoLook : startsLook rest = false := Bool.eq_false_iff.mpr noLook
      rw [clearLine_cons (by decide), unsupportedFeature_parenthesis, startsLook_line,
        restNoLook, if_neg Bool.false_ne_true] at clear
      rw [afterLine_cons (by decide)]
      exact (Passes.parenthesis restNoLook).trans (ih clear)
  | case5 c rest noEscape noParenthesis ih =>
      by_cases ends : c = '\n'
      · subst ends
        exact .one rfl
      rw [afterLine_cons ends]
      by_cases backslash : c = '\\'
      · subst backslash
        cases rest with
        | nil => exact ⟨List.nil_suffix, rfl, fun _ => rfl⟩
        | cons d rest => exact (noEscape d rest rfl rfl).elim
      · have plain : isPlain c = true := by
          simp only [isPlain, Bool.and_eq_true, bne_iff_ne]
          exact ⟨backslash, noParenthesis⟩
        have lineEq := Passes.featureEq (.one plain : Passes (c :: rest.takeWhile (· != '\n')) _)
        rw [clearLine_cons ends, lineEq] at clear
        exact (Passes.one plain).trans (ih clear)
  | case6 => exact .refl _

theorem isDigit_of_isReferenceDigit {c : Char} (reference : isReferenceDigit c = true) :
    c.isDigit = true := by
  rw [isReferenceDigit, Bool.and_eq_true, decide_eq_true_eq, decide_eq_true_eq] at reference
  have zeroLe : '0' ≤ c := Char.le_trans (by decide) reference.1
  rw [Char.isDigit, Bool.and_eq_true, decide_eq_true_eq, decide_eq_true_eq]
  exact ⟨zeroLe, reference.2⟩

/-! ### Names of properties -/

/-- All names of a table are plain. -/
def PlainNames {Table : Type} (table : List (List String × Table)) : Prop :=
  ∀ entry ∈ table, ∀ name ∈ entry.1, name.toList.all isPlain = true

instance {Table : Type} (table : List (List String × Table)) : Decidable (PlainNames table) :=
  inferInstanceAs (Decidable (∀ entry ∈ table, ∀ name ∈ entry.1, name.toList.all isPlain = true))

section Names

variable {Table : Type} {table : List (List String × Table)} {name value : List Char} {c : Char}

theorem plain_of_lookupName {text : String} (plain : PlainNames table)
    (found : (lookupName text table).isSome = true) : text.toList.all isPlain = true := by
  induction table with
  | nil => simp [lookupName] at found
  | cons entry table ih =>
      obtain ⟨names, members⟩ := entry
      rw [PlainNames, List.forall_mem_cons] at plain
      rw [lookupName] at found
      split at found
      · next named => exact plain.1 text (List.contains_iff_mem.mp named)
      · exact ih plain.2 found

/-- The loose form of a name keeps the characters at which the check stops. -/
theorem plain_of_looseName (plain : (looseName name).toList.all isPlain = true) :
    ∀ c ∈ name, isPlain c = true := by
  intro c member
  by_contra notPlain
  have stops : c = '\\' ∨ c = '(' := eq_of_not_plain notPlain
  have keptOfMem {rest : List Char} (inside : c ∈ rest) :
      c ∈ (rest.filter fun c => c != ' ' && c != '_' && c != '-' &&
        decide (c.toNat < 0x80)).map Char.toLower := by
    refine List.mem_map.mpr ⟨c, List.mem_filter.mpr ⟨inside, ?_⟩, ?_⟩
    all_goals rcases stops with rfl | rfl <;> decide
  have behindMark {a b : Char} {rest : List Char} (member : c ∈ a :: b :: rest)
      (mark : (a = 'i' ∨ a = 'I') ∧ (b = 's' ∨ b = 'S')) : c ∈ rest := by
    have others : c ≠ a ∧ c ≠ b := by
      obtain ⟨rfl | rfl, rfl | rfl⟩ := mark <;> rcases stops with rfl | rfl <;> decide
    simpa [others.1, others.2] using member
  have looseMem : c ∈ (looseName name).toList := by
    unfold looseName
    split
    next leading rest splitEq =>
      have inside : c ∈ rest := by
        split at splitEq
        · split at splitEq
          · next mark =>
              cases splitEq
              exact behindMark member (by simpa using mark)
          · cases splitEq
            exact member
        · cases splitEq
          exact member
      have kept := keptOfMem inside
      simp only
      split
      · next both =>
          rw [Bool.and_eq_true, decide_eq_true_eq] at both
          rw [both.2, List.mem_singleton] at kept
          rw [kept] at stops
          exact absurd stops (by decide)
      · rwa [String.toList_ofList]
  exact notPlain (List.all_eq_true.mp plain c looseMem)

theorem plain_of_categorySet? {text : String} (found : (categorySet? text).isSome = true) :
    text.toList.all isPlain = true := by
  unfold categorySet? at found
  split at found
  · next textEq => rw [textEq]; decide
  split at found
  · next textEq => rw [textEq]; decide
  split at found
  · next textEq => rw [textEq]; decide
  split at found
  · next named =>
      have plain : ∀ name ∈ Unicode.Category.otherNames, name.toList.all isPlain = true := by
        decide +kernel
      exact plain text (List.contains_iff_mem.mp named)
  · have plain : PlainNames Unicode.Category.byName := by decide +kernel
    exact plain_of_lookupName plain (by simpa using found)

theorem plainNames_script : PlainNames Unicode.Script.byName := by
  decide +kernel

/-- The tables for scripts and for script extensions have the same names. -/
theorem plainNames_scriptExtension : PlainNames Unicode.ScriptExtension.byName := by
  have same : Unicode.ScriptExtension.byName.map Prod.fst =
      Unicode.Script.byName.map Prod.fst := rfl
  intro entry member
  have listed : entry.1 ∈ Unicode.Script.byName.map Prod.fst :=
    same ▸ List.mem_map_of_mem member
  obtain ⟨other, otherMember, otherEq⟩ := List.mem_map.mp listed
  exact otherEq ▸ plainNames_script other otherMember

theorem plain_of_scriptSet? {text : String} (found : (scriptSet? text).isSome = true) :
    text.toList.all isPlain = true :=
  plain_of_lookupName plainNames_script (by simpa [scriptSet?] using found)

theorem plain_of_binarySet? {text : String} (found : (binarySet? text).isSome = true) :
    text.toList.all isPlain = true := by
  have plain : ∀ table ∈ [Unicode.Letters.byName, Unicode.Identifiers.byName,
      Unicode.Properties.byName, Unicode.Emoji.byName, Unicode.Contributory.byName],
      PlainNames table := by
    decide +kernel
  rw [binarySet?, Option.isSome_map, List.findSome?_isSome_iff] at found
  obtain ⟨table, member, lookedUp⟩ := found
  exact plain_of_lookupName (plain table member) lookedUp

theorem plain_of_ageSet? {text : String} (found : (ageSet? text).isSome = true) :
    text.toList.all isPlain = true := by
  have plain : PlainNames Unicode.Age.byName := by decide +kernel
  unfold ageSet? at found
  rw [List.span_eq_takeWhile_dropWhile, Option.isSome_map] at found
  obtain ⟨entry, headEq⟩ := Option.isSome_iff_exists.mp found
  have member : entry ∈ Unicode.Age.byName :=
    (List.dropWhile_suffix _).subset (List.mem_of_mem_head? headEq)
  have named := List.head?_dropWhile_not (fun entry : List String × _ => !entry.1.contains text)
    Unicode.Age.byName
  rw [headEq] at named
  exact plain entry member text (by simpa using named)

theorem plain_of_graphemeBreakSet? {text : String}
    (found : (graphemeBreakSet? text).isSome = true) : text.toList.all isPlain = true := by
  have plain : PlainNames Unicode.GraphemeBreak.byName := by decide +kernel
  unfold graphemeBreakSet? at found
  split at found
  · next textEq => rw [textEq]; decide
  split at found
  · next textEq => rw [textEq]; decide
  · exact plain_of_lookupName plain (by simpa using found)

theorem plain_of_mappedName {text : String} {make : Table → CharSet} (plain : PlainNames table)
    (found : ((lookupName text table).map make).isSome = true) :
    text.toList.all isPlain = true :=
  plain_of_lookupName plain (by simpa using found)

/-- The name and the value of a property that has members are plain. -/
theorem plain_of_valueSet? {name value : String} (found : (valueSet? name value).isSome = true) :
    name.toList.all isPlain = true ∧ value.toList.all isPlain = true := by
  have plainWord : PlainNames Unicode.WordBreak.byName := by decide +kernel
  have plainSentence : PlainNames Unicode.SentenceBreak.byName := by decide +kernel
  unfold valueSet? at found
  split at found
  · exact ⟨by decide, plain_of_categorySet? found⟩
  · exact ⟨by decide, plain_of_categorySet? found⟩
  · exact ⟨by decide, plain_of_scriptSet? found⟩
  · exact ⟨by decide, plain_of_scriptSet? found⟩
  · exact ⟨by decide, plain_of_mappedName plainNames_scriptExtension found⟩
  · exact ⟨by decide, plain_of_mappedName plainNames_scriptExtension found⟩
  · exact ⟨by decide, plain_of_ageSet? found⟩
  · exact ⟨by decide, plain_of_graphemeBreakSet? found⟩
  · exact ⟨by decide, plain_of_graphemeBreakSet? found⟩
  · exact ⟨by decide, plain_of_mappedName plainWord found⟩
  · exact ⟨by decide, plain_of_mappedName plainWord found⟩
  · exact ⟨by decide, plain_of_mappedName plainSentence found⟩
  · exact ⟨by decide, plain_of_mappedName plainSentence found⟩
  · cases found

theorem splitAt?_eq_some {separator text before after : List Char}
    (splitEq : splitAt? separator text = some (before, after)) :
    text = before ++ (separator ++ after) := by
  induction text generalizing before with
  | nil => cases splitEq
  | cons c text ih =>
      rw [splitAt?] at splitEq
      split at splitEq
      · next starts =>
          cases splitEq
          exact (List.prefix_iff_eq_append.mp (List.isPrefixOf_iff_prefix.mp starts)).symm
      · obtain ⟨⟨inner, rest⟩, innerEq, partsEq⟩ := Option.map_eq_some_iff.mp splitEq
        cases partsEq
        rw [ih innerEq, List.cons_append]

theorem plain_of_plainName (found : (PropertyName.plain name).set?.isSome = true) :
    ∀ c ∈ name, isPlain c = true := by
  refine plain_of_looseName ?_
  simp only [PropertyName.set?, Option.isSome_or, Bool.or_eq_true] at found
  rcases found with binary | category | script
  · split at binary
    · cases binary
    · exact plain_of_binarySet? binary
  · exact plain_of_categorySet? category
  · exact plain_of_scriptSet? script

/-- A property with members has plain characters between its braces. -/
theorem plain_of_propertyName {text : List Char}
    (found : (propertyName text).1.set?.isSome = true) : ∀ c ∈ text, isPlain c = true := by
  have plainOfParts {separator before after : List Char}
      (textEq : text = before ++ (separator ++ after))
      (plain : ∀ c ∈ separator, isPlain c = true)
      (found : (PropertyName.valued before after).set?.isSome = true) :
      ∀ c ∈ text, isPlain c = true := by
    obtain ⟨beforePlain, afterPlain⟩ := plain_of_valueSet? found
    rw [textEq]
    simp only [List.forall_mem_append]
    exact ⟨plain_of_looseName beforePlain, plain, plain_of_looseName afterPlain⟩
  unfold propertyName at found
  split at found
  · next splitEq =>
      exact plainOfParts (splitAt?_eq_some splitEq) (by simp [isPlain]) found
  split at found
  · next splitEq =>
      rcases Option.or_eq_some_iff.mp splitEq with colon | ⟨-, equals⟩
      · exact plainOfParts (splitAt?_eq_some colon) (by simp [isPlain]) found
      · exact plainOfParts (splitAt?_eq_some equals) (by simp [isPlain]) found
  · exact plain_of_plainName found

end Names

end Pattern

end Scopelight
