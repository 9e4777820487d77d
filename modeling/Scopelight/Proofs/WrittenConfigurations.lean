import Scopelight.Language
import Scopelight.Proofs.WrittenJson

/-!
# Written configurations

The configuration of a language is written as JSON and read back without a change.  Some parts
are not written: comments that are missing, and lists of token classes that are empty.  They
are not mixed up with parts that are written: comments without delimiters are there, with a
null for each of the delimiters.
-/

namespace Scopelight

namespace Json

/-- The keys of an object that are texts. -/
def keys : Json → List String
  | .object fields => fields.filterMap Prod.fst
  | _ => []

/-- A list is read back if each of its items is. -/
theorem list?_ofList_self {Item : Type} {read : Nat → Json → Option Item}
    {encode : Item → Json} {depth : Nat} {items : List Item}
    (reads : ∀ item ∈ items, read depth (encode item) = some item) :
    list? read (depth + 1) (ofList encode items) = some items := by
  have itemsEq : list? read (depth + 1) (ofList encode items) = some (items.map id) :=
    list?_ofList reads
  rwa [List.map_id] at itemsEq

theorem texts?_ofList (depth : Nat) (texts : List String) :
    texts? (depth + 1) (.ofList .string texts) = some texts := by
  rw [texts?]
  exact list?_ofList_self fun _ _ => rfl

theorem textPair?_pair (depth : Nat) (pair : String × String) :
    textPair? (depth + 1) (.array [.string pair.1, .string pair.2]) = some pair :=
  rfl

theorem pair_writable (pair : String × String) :
    (Json.array [.string pair.1, .string pair.2]).Writable := by
  refine .array fun item member => ?_
  simp only [List.mem_cons, List.not_mem_nil, or_false] at member
  rcases member with rfl | rfl
  · exact .string pair.1
  · exact .string pair.2

end Json

namespace CommentRule

theorem ofJson?_toJson (depth : Nat) (rule : CommentRule) :
    ofJson? (depth + 2) rule.toJson = some rule := by
  have slotsEq : Json.record? [["lineComment"], ["blockComment"]] rule.toJson =
      some [.present (.ofOption (rule.line.map .string)),
        .present (.ofOption
          (rule.block.map fun pair => .array [.string pair.1, .string pair.2]))] := by
    simp [Json.record?, toJson, Json.ofFields, Json.fillSlot]
  have lineEq : Json.nullable? Json.text? (.ofOption (rule.line.map .string)) =
      some rule.line :=
    Json.nullable?_ofOption fun _ _ => ⟨nofun, rfl⟩
  have blockEq : Json.nullable? (Json.textPair? (depth + 1))
      (.ofOption (rule.block.map fun pair => .array [.string pair.1, .string pair.2])) =
        some rule.block :=
    Json.nullable?_ofOption fun pair _ => ⟨nofun, Json.textPair?_pair depth pair⟩
  simp [ofJson?, slotsEq, Json.Slot.optional?, lineEq, blockEq]

theorem toJson_ne_null (rule : CommentRule) : rule.toJson ≠ .null :=
  nofun

theorem toJson_writable (rule : CommentRule) : rule.toJson.Writable := by
  refine .ofFields fun field member => ?_
  simp only [List.mem_cons, List.not_mem_nil, or_false] at member
  rcases member with rfl | rfl
  · exact .ofOption fun text _ => .string text
  · exact .ofOption fun pair _ => Json.pair_writable pair

end CommentRule

namespace ClosingPair

/-- The classes that a pair is written with, unless there are none. -/
def notInSlot (pair : ClosingPair) : Json.Slot :=
  if pair.notIn.isEmpty then .missing else .present (.ofList .string pair.notIn)

theorem notIn_read (depth : Nat) (pair : ClosingPair) :
    pair.notInSlot.orDefault? [] (Json.texts? (depth + 1)) = some pair.notIn := by
  unfold notInSlot
  split
  · next empty =>
      rw [List.isEmpty_iff.mp empty]
      rfl
  · exact Json.texts?_ofList depth pair.notIn

theorem ofJson?_toJson (depth : Nat) (pair : ClosingPair) :
    ofJson? (depth + 2) pair.toJson = some pair := by
  have slotsEq : Json.record? [["open"], ["close"], ["notIn"]] pair.toJson =
      some [.present (.string pair.opening), .present (.string pair.closing),
        pair.notInSlot] := by
    unfold toJson notInSlot
    split <;> simp [Json.record?, Json.ofFields, Json.fillSlot]
  simp [ofJson?, slotsEq, Json.Slot.required?, Json.text?, notIn_read]

theorem toJson_writable (pair : ClosingPair) : pair.toJson.Writable := by
  refine .ofFields fun field member => ?_
  rcases List.mem_append.mp member with texts | classes
  · simp only [List.mem_cons, List.not_mem_nil, or_false] at texts
    rcases texts with rfl | rfl
    · exact .string pair.opening
    · exact .string pair.closing
  · split at classes
    · cases classes
    · rw [List.mem_singleton.mp classes]
      exact .ofList fun kind _ => .string kind

theorem mem_keys_toJson_iff (pair : ClosingPair) :
    "notIn" ∈ pair.toJson.keys ↔ pair.notIn ≠ [] := by
  unfold toJson
  split <;> simp_all [Json.keys, Json.ofFields]

end ClosingPair

namespace LanguageConfiguration

/-- The comments that a configuration is written with, unless they are missing. -/
def commentsSlot (configuration : LanguageConfiguration) : Json.Slot :=
  match configuration.comments with
  | none => .missing
  | some rule => .present rule.toJson

theorem comments_read (depth : Nat) (configuration : LanguageConfiguration) :
    configuration.commentsSlot.orDefault? none
      (Json.nullable? (CommentRule.ofJson? (depth + 2))) = some configuration.comments := by
  unfold commentsSlot
  split
  · next missing =>
      rw [missing]
      rfl
  · next rule written =>
      rw [written, Json.Slot.orDefault?, Json.nullable?_of_ne_null rule.toJson_ne_null,
        rule.ofJson?_toJson depth, Option.map_some]

theorem ofJson?_toJson (depth : Nat) (configuration : LanguageConfiguration) :
    ofJson? (depth + 4) configuration.toJson = some configuration := by
  have slotsEq : Json.record?
      [["comments"], ["brackets"], ["autoClosingPairs"], ["surroundingPairs"]]
      configuration.toJson =
        some [configuration.commentsSlot,
          .present (.ofList (fun pair => .array [.string pair.1, .string pair.2])
            configuration.brackets),
          .present (.ofList ClosingPair.toJson configuration.autoClosingPairs),
          .present (.ofList ClosingPair.toJson configuration.surroundingPairs)] := by
    unfold toJson commentsSlot
    cases configuration.comments <;> simp [Json.record?, Json.ofFields, Json.fillSlot]
  have bracketsEq : Json.list? Json.textPair? (depth + 3)
      (.ofList (fun pair => .array [.string pair.1, .string pair.2])
        configuration.brackets) = some configuration.brackets :=
    Json.list?_ofList_self fun pair _ => Json.textPair?_pair (depth + 1) pair
  have pairsEq (pairs : List ClosingPair) : Json.list? ClosingPair.ofJson? (depth + 3)
      (.ofList ClosingPair.toJson pairs) = some pairs :=
    Json.list?_ofList_self fun pair _ => pair.ofJson?_toJson depth
  have commentsEq := configuration.comments_read (depth + 1)
  simp [ofJson?, slotsEq, commentsEq, Json.Slot.orDefault?_present, bracketsEq, pairsEq]

theorem toJson_writable (configuration : LanguageConfiguration) :
    configuration.toJson.Writable := by
  refine .ofFields fun field member => ?_
  rcases List.mem_append.mp member with comments | lists
  · obtain ⟨rule, -, rfl⟩ := Option.map_eq_some_iff.mp (Option.mem_toList.mp comments)
    exact rule.toJson_writable
  · simp only [List.mem_cons, List.not_mem_nil, or_false] at lists
    rcases lists with rfl | rfl | rfl
    · exact .ofList fun pair _ => Json.pair_writable pair
    · exact .ofList fun pair _ => pair.toJson_writable
    · exact .ofList fun pair _ => pair.toJson_writable

theorem mem_keys_toJson_iff (configuration : LanguageConfiguration) :
    "comments" ∈ configuration.toJson.keys ↔ configuration.comments ≠ none := by
  unfold toJson
  cases configuration.comments <;> simp [Json.keys, Json.ofFields]

/-- A configuration is read back from what it is written as, be it a value or a text.  Its
comments are written exactly if there are any, and the token classes of a pair exactly if
there is one. -/
theorem configuration_restored (configuration : LanguageConfiguration) :
    ofJson? Json.depthLimit configuration.toJson = some configuration ∧
      parse? configuration.toJson.render = some configuration ∧
      ("comments" ∈ configuration.toJson.keys ↔ configuration.comments ≠ none) ∧
      ∀ pair : ClosingPair, "notIn" ∈ pair.toJson.keys ↔ pair.notIn ≠ [] := by
  have valueRead := configuration.ofJson?_toJson 123
  refine ⟨valueRead, ?_, configuration.mem_keys_toJson_iff, ClosingPair.mem_keys_toJson_iff⟩
  rw [parse?, configuration.toJson_writable.parse?_render]
  exact valueRead

-- Comments without delimiters are not the same as no comments.
example : (toJson { comments := some {} }).render ≠ (toJson {}).render := by
  decide +kernel

end LanguageConfiguration

end Scopelight
