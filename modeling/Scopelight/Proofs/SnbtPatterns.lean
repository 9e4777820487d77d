import Scopelight.Proofs.AcceptedPatterns
import Scopelight.Proofs.ClassifyingRules
import Scopelight.Proofs.PlanFootprint
import Scopelight.Snbt.Grammar

/-!
# The patterns of the SNBT grammar

The plans of the patterns of the SNBT grammar.  All of them keep within the limit of an
automaton, so the grammar loads with the standard engine, and its rules are those that its
document has with any engine that accepts these patterns.
-/

namespace Scopelight

namespace Snbt

open Pattern

def spacePlan : Plan :=
  .repeated 0 none true (.chars .unicodeSpaces)

def wordEdge : Plan :=
  .look (.wordBoundary true)

def digitsPlan (least : Nat) : Plan :=
  .repeated least none true (.chars .unicodeDigits)

def signPlan : Plan :=
  .repeated 0 (some 1) true (.chars ⟨[(0x2B, 0x2B), (0x2D, 0x2D)]⟩)

def exponentPlan : Plan :=
  .repeated 0 (some 1) true
    (.seq (.chars ⟨[(0x45, 0x45), (0x65, 0x65)]⟩) (.seq signPlan (digitsPlan 1)))

/-- Numbers with a dot, or digits alone. -/
def decimalPlan : Plan :=
  .alt (.seq (digitsPlan 1) (.seq (.text '.' []) (digitsPlan 0)))
    (.alt (.seq (.text '.' []) (digitsPlan 1)) (digitsPlan 1))

/-- A digit string with a sign and one of some letters behind it. -/
def suffixedPlan (letters : CharSet) : Plan :=
  .seq signPlan (.seq (digitsPlan 1) (.seq (.chars letters) wordEdge))

def barePlan : Plan :=
  .repeated 1 none true
    (.chars ⟨[(0x2B, 0x2B), (0x2D, 0x2E), (0x30, 0x39), (0x41, 0x5A), (0x5F, 0x5F),
      (0x61, 0x7A)]⟩)

/-- A backslash with a character other than a line break behind it. -/
def escapePlan : Plan :=
  .seq (.text '\\' []) (.chars (CharSet.complement 0x10FFFF (.single 0x0A)))

/-- A string between two quotes, in which the quote and the backslash are escaped. -/
def quotedPlan (quote : Char) : Plan :=
  let plain := CharSet.complement 0x10FFFF ⟨[(quote.toNat, quote.toNat), (0x5C, 0x5C)]⟩
  .seq (.text quote [])
    (.seq (.repeated 0 none true (.alt (.chars plain) escapePlan)) (.text quote []))

/-- A key with the colon behind it. -/
def keyPlan (name : Plan) : Plan :=
  .seq (.capture 1 name) (.seq spacePlan (.capture 2 (.text ':' [])))

/-- The bracket, the type and the semicolon that open an array. -/
def arrayPlan : Plan :=
  .seq (.capture 1 (.text '[' [])) (.seq spacePlan
    (.seq (.capture 2 (.chars ⟨[(0x42, 0x42), (0x49, 0x49), (0x4C, 0x4C)]⟩))
      (.seq spacePlan (.capture 3 (.text ';' [])))))

/-! ### The table -/

def patternPlans : PlanTable :=
  [("\\b(?:true|false)\\b",
      .seq wordEdge (.seq (.alt (.text 't' ['r', 'u', 'e']) (.text 'f' ['a', 'l', 's', 'e']))
        wordEdge)),
   ("(\\[)\\s*([BIL])\\s*(;)", arrayPlan),
   ("\\]", .text ']' []),
   ("\\[", .text '[' []),
   ("\\\x7b", .text '\x7b' []),
   ("\\\x7d", .text '\x7d' []),
   ("\\\\.", escapePlan),
   ("[^\\s]", .chars .notSpaces),
   ("([A-Za-z0-9._+\\-]+)\\s*(:)", keyPlan barePlan),
   ("(\"(?:[^\"\\\\]|\\\\.)*\")\\s*(:)", keyPlan (quotedPlan '"')),
   ("('(?:[^'\\\\]|\\\\.)*')\\s*(:)", keyPlan (quotedPlan '\'')),
   ("[-+]?(?:\\d+\\.\\d*|\\.\\d+|\\d+)(?:[eE][-+]?\\d+)?[fFdD]\\b",
      .seq signPlan (.seq decimalPlan (.seq exponentPlan
        (.seq (.chars ⟨[(0x44, 0x44), (0x46, 0x46), (0x64, 0x64), (0x66, 0x66)]⟩) wordEdge)))),
   ("[-+]?\\d*\\.\\d+(?:[eE][-+]?\\d+)?\\b",
      .seq signPlan (.seq (digitsPlan 0) (.seq (.text '.' [])
        (.seq (digitsPlan 1) (.seq exponentPlan wordEdge))))),
   ("[-+]?\\d+[bBsSlL]\\b",
      suffixedPlan ⟨[(0x42, 0x42), (0x4C, 0x4C), (0x53, 0x53), (0x62, 0x62), (0x6C, 0x6C),
        (0x73, 0x73)]⟩),
   ("[-+]?\\d+\\b", .seq signPlan (.seq (digitsPlan 1) wordEdge)),
   (",", .text ',' []),
   ("\"", .text '"' []),
   ("'", .text '\'' []),
   ("[A-Za-z0-9._+\\-]+", barePlan)]

theorem plainPlan?_patternPlans :
    ∀ entry ∈ patternPlans, plainPlan? entry.1 = some entry.2 := by
  decide +kernel

theorem patternPlans_right : patternPlans.Right := by
  have small : ∀ entry ∈ patternPlans, entry.2.cost + 288 ≤ Tally.limit := by decide +kernel
  exact fun entry member =>
    compile?_of_plainPlan? (plainPlan?_patternPlans entry member) (small entry member)

/-- The standard engine accepts the patterns of the table. -/
theorem standard_accepts : ∀ text ∈ patternPlans.map Prod.fst, Engine.standard.Accepts text := by
  have supported : ∀ text ∈ patternPlans.map Prod.fst,
      Pattern.unsupportedFeature text.toList = none := by decide +kernel
  intro text member
  obtain ⟨entry, entryMember, rfl⟩ := List.mem_map.mp member
  refine ⟨supported _ member, ?_⟩
  have compiled := Grammar.standard_compile_singleton entry.1
  rw [patternPlans_right entry entryMember, Option.map_some] at compiled
  exact ⟨_, toOption_eq_some_iff.mp compiled⟩

/-- The grammar loads, and its rules pass each check that the rules of its document pass. -/
theorem grammar_loads (strict : Bool) (check : Rulebook → Bool)
    (checked : (Grammar.ofDocument (.knowing (patternPlans.map Prod.fst)) true
      grammarDocument).toOption.any
        (fun draft => check { draft.toRulebook with engine := .standard }) = true) :
    ∃ loaded, grammar .standard strict = .ok loaded ∧ loaded.scopeName = ⟨"source.snbt"⟩ ∧
      check loaded.toRulebook = true := by
  obtain ⟨draft, draftLoaded, draftChecked⟩ := Grammar.exists_ok_of_any checked
  obtain ⟨loaded, loadedEq, bookEq, scopeNameEq⟩ :=
    Grammar.ofDocument_of_knowing standard_accepts draftLoaded strict
  have named : Grammar.scopeNameOf grammarDocument = .ok ⟨"source.snbt"⟩ := by decide +kernel
  have draftNamed := (Grammar.buildsBook_of_ofDocument draftLoaded).1
  have draftScope : draft.scopeName = ⟨"source.snbt"⟩ :=
    Except.ok.inj (draftNamed.symm.trans named)
  exact ⟨loaded, loadedEq, scopeNameEq.trans draftScope, bookEq ▸ draftChecked⟩

end Snbt

end Scopelight
