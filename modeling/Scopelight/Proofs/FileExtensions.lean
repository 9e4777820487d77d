import Mathlib.Data.List.Nodup
import Mathlib.Data.List.TakeWhile
import Scopelight.Proofs.RegisteredLanguage

/-!
# File extensions of a language

An extension is registered without its leading dots and in lower case.  A file is looked up
by the lower case of what follows the last dot of its name, so it is found by an extension
without a dot inside, and never by one that has several parts.  Lower case does not take
away or bring in a dot, and the extensions that are added are new, and neither empty nor led
by a dot.
-/

namespace Scopelight

namespace Unicode

/-- A code point without a lower-case form stays, and the others go to the targets of a
run. -/
theorem lowerIn_cases (code : Nat) (runs : List LowerRun) :
    lowerIn code runs = code ∨ ∃ run ∈ runs, run.target ≤ lowerIn code runs := by
  induction runs with
  | nil => exact .inl rfl
  | cons run runs ih =>
      rw [lowerIn]
      split
      · exact .inl rfl
      split
      · exact .inr ⟨run, List.mem_cons_self, Nat.le_add_right _ _⟩
      · rcases ih with same | ⟨other, member, reached⟩
        · exact .inl same
        · exact .inr ⟨other, List.mem_cons_of_mem _ member, reached⟩

theorem lowerIn_eq_dot_iff {code : Nat} : lowerIn code lowerRuns = 0x2E ↔ code = 0x2E := by
  have targetsGt : ∀ run ∈ lowerRuns, 0x2E < run.target := by decide +kernel
  constructor
  · intro lowered
    rcases lowerIn_cases code lowerRuns with same | ⟨run, member, reached⟩
    · exact same.symm.trans lowered
    · exact absurd (lowered ▸ reached) (Nat.not_le.mpr (targetsGt run member))
  · rintro rfl
    rfl

theorem ofNat_eq_dot_iff {code : Nat} : '.' = Char.ofNat code ↔ code = 0x2E := by
  constructor
  · intro same
    by_cases valid : code.isValidChar
    · have kept : Char.ofNat code = Char.ofNatAux code valid := dif_pos valid
      rw [kept] at same
      exact (congrArg Char.toNat same).symm
    · -- A number that is no code point stands for another character.
      have replaced : Char.ofNat code = '\x00' := dif_neg valid
      rw [replaced] at same
      exact absurd same (by decide)
  · rintro rfl
    rfl

theorem dot_mem_lowerChar_iff {c : Char} : '.' ∈ lowerChar c ↔ c = '.' := by
  unfold lowerChar
  split
  · next dotted =>
      constructor
      · exact fun member => absurd member (by decide)
      · rintro rfl
        cases dotted
  · rw [List.mem_singleton, ofNat_eq_dot_iff, lowerIn_eq_dot_iff]
    exact Char.toNat_inj (c := c) (d := '.')

theorem lowerChar_ne_nil (c : Char) : lowerChar c ≠ [] := by
  unfold lowerChar
  split <;> exact List.cons_ne_nil _ _

/-- The lower case of a text goes character by character.  A character becomes a text that is
not empty, and that has a dot only if the character is one. -/
theorem lowerFrom_cons (before : List Char) (c : Char) (rest : List Char) :
    ∃ piece, lowerFrom before (c :: rest) = piece ++ lowerFrom (c :: before) rest ∧
      piece ≠ [] ∧ ('.' ∈ piece ↔ c = '.') := by
  rw [lowerFrom]
  by_cases sigma : c.toNat = 0x3A3
  · -- Both forms of the small sigma are other characters than the dot.
    have noDot : c ≠ '.' := by
      rintro rfl
      cases sigma
    simp only [if_pos sigma]
    split
    · exact ⟨_, rfl, List.cons_ne_nil _ _, iff_of_false (by decide) noDot⟩
    · exact ⟨_, rfl, List.cons_ne_nil _ _, iff_of_false (by decide) noDot⟩
  · simp only [if_neg sigma]
    exact ⟨_, rfl, lowerChar_ne_nil c, dot_mem_lowerChar_iff⟩

theorem dot_mem_lowerFrom_iff {before text : List Char} :
    '.' ∈ lowerFrom before text ↔ '.' ∈ text := by
  induction text generalizing before with
  | nil => exact Iff.rfl
  | cons c rest ih =>
      obtain ⟨piece, pieceEq, -, dotIff⟩ := lowerFrom_cons before c rest
      rw [pieceEq, List.mem_append, dotIff, ih, List.mem_cons, eq_comm]

theorem dot_mem_lowerText_iff {text : List Char} : '.' ∈ lowerText text ↔ '.' ∈ text :=
  dot_mem_lowerFrom_iff

/-- The lower case of a text is empty or led by a dot only if the text is. -/
theorem head?_lowerText {text : List Char} (nonempty : text ≠ [])
    (noDot : text.head? ≠ some '.') :
    lowerText text ≠ [] ∧ (lowerText text).head? ≠ some '.' := by
  obtain ⟨c, rest, rfl⟩ := List.exists_cons_of_ne_nil nonempty
  obtain ⟨piece, pieceEq, pieceNe, dotIff⟩ := lowerFrom_cons [] c rest
  obtain ⟨first, more, rfl⟩ := List.exists_cons_of_ne_nil pieceNe
  rw [lowerText, pieceEq]
  refine ⟨List.cons_ne_nil _ _, fun led => noDot ?_⟩
  obtain rfl := Option.some.inj led
  rw [dotIff.mp List.mem_cons_self]
  rfl

end Unicode

namespace Language

/-- An extension without the dots that it starts with. -/
def bareExtension (text : String) : String :=
  String.ofList (text.toList.dropWhile fun c => c == '.')

theorem normalExtension_eq (text : String) :
    normalExtension text = String.ofList (Unicode.lowerText (bareExtension text).toList) := by
  rw [bareExtension, String.toList_ofList, normalExtension]

theorem head?_bareExtension (text : String) : (bareExtension text).toList.head? ≠ some '.' := by
  intro led
  rw [bareExtension, String.toList_ofList] at led
  have kept := List.head?_dropWhile_not (fun c => c == '.') text.toList
  rw [led] at kept
  simp at kept

theorem normalExtension_ne_empty {text : String} (someLeft : bareExtension text ≠ "") :
    normalExtension text ≠ "" := by
  rw [normalExtension_eq, Ne, String.ofList_eq_empty_iff]
  exact (Unicode.head?_lowerText (mt String.toList_eq_nil_iff.mp someLeft)
    (head?_bareExtension text)).1

theorem head?_normalExtension (text : String) :
    (normalExtension text).toList.head? ≠ some '.' := by
  rw [normalExtension_eq, String.toList_ofList]
  by_cases nothingLeft : bareExtension text = ""
  · rw [nothingLeft]
    decide
  · exact (Unicode.head?_lowerText (mt String.toList_eq_nil_iff.mp nothingLeft)
      (head?_bareExtension text)).2

/-! ### File names -/

theorem dot_not_mem_of_extension? {fileName part : List Char}
    (found : extension? fileName = some part) : '.' ∉ part := by
  rw [extension?] at found
  split at found
  · obtain rfl := Option.some.inj found
    intro member
    have kept := List.mem_takeWhile_imp (List.mem_reverse.mp member)
    simp at kept
  · cases found

theorem extension?_append {stem rest : List Char} (single : '.' ∉ rest) :
    extension? (stem ++ '.' :: rest) = some rest := by
  have noDot : ∀ c ∈ rest.reverse, (c != '.') = true := by
    intro c member
    rw [bne_iff_ne]
    rintro rfl
    exact single (List.mem_reverse.mp member)
  rw [extension?, if_pos (by simp), List.reverse_append, List.reverse_cons, List.append_assoc,
    List.takeWhile_append_of_pos noDot]
  simp

theorem matchesFile_iff {language : Language} {fileName : String} :
    language.matchesFile fileName = true ↔
      ∃ part, extension? fileName.toList = some part ∧
        String.ofList (Unicode.lowerText part) ∈ language.extensions := by
  rw [matchesFile]
  cases extension? fileName.toList with
  | none => simp
  | some part => simp

/-- A file keeps its language when extensions are added. -/
theorem matchesFile_addExtensions {language : Language} {fileName : String}
    (found : language.matchesFile fileName = true) (texts : List String) :
    (texts.foldl addExtension language).matchesFile fileName = true := by
  obtain ⟨part, partEq, known⟩ := matchesFile_iff.mp found
  have kept := (mem_addExtensions_iff language texts _).mpr (.inl known)
  exact matchesFile_iff.mpr ⟨part, partEq, kept⟩

/-! ### Adding extensions -/

/-- The extensions of `after` are those of `before` and some that are new, and neither empty
nor led by a dot. -/
def Extends (before after : Language) : Prop :=
  ∃ added, after.extensions = before.extensions ++ added ∧ added.Nodup ∧
    ∀ extension ∈ added, extension ∉ before.extensions ∧ extension ≠ "" ∧
      extension.toList.head? ≠ some '.'

theorem Extends.refl (language : Language) : language.Extends language :=
  ⟨[], (List.append_nil _).symm, List.nodup_nil, nofun⟩

theorem extends_addExtension (language : Language) (text : String) :
    language.Extends (language.addExtension text) := by
  by_cases known : normalExtension text = "" ∨ normalExtension text ∈ language.extensions
  · rw [addExtension_eq_self known]
    exact .refl language
  · obtain ⟨nonempty, fresh⟩ := not_or.mp known
    refine ⟨[normalExtension text], ?_, List.nodup_singleton _, ?_⟩
    · rw [addExtension, if_neg (by simpa using known)]
    · rintro extension (_ | ⟨_, ⟨⟩⟩)
      exact ⟨fresh, nonempty, head?_normalExtension text⟩

theorem Extends.trans {first second third : Language} (before : first.Extends second)
    (after : second.Extends third) : first.Extends third := by
  obtain ⟨early, earlyEq, earlyNodup, earlyFit⟩ := before
  obtain ⟨late, lateEq, lateNodup, lateFit⟩ := after
  rw [earlyEq] at lateEq lateFit
  refine ⟨early ++ late, lateEq.trans (List.append_assoc ..), ?_, ?_⟩
  · refine List.nodup_append.mpr ⟨earlyNodup, lateNodup, ?_⟩
    rintro extension inEarly other inLate rfl
    exact (lateFit extension inLate).1 (List.mem_append_right _ inEarly)
  · intro extension member
    rcases List.mem_append.mp member with inEarly | inLate
    · exact earlyFit extension inEarly
    · obtain ⟨fresh, shape⟩ := lateFit extension inLate
      exact ⟨fun known => fresh (List.mem_append_left _ known), shape⟩

theorem extends_addExtensions (language : Language) (texts : List String) :
    language.Extends (texts.foldl addExtension language) := by
  induction texts generalizing language with
  | nil => exact .refl language
  | cons text texts ih =>
      exact (extends_addExtension language text).trans (ih (language.addExtension text))

/-- A registered extension finds the files that end in a dot and the extension as it was
written, unless a dot is inside, and then it finds none of them that the language does not
have in any case.  Extensions that are added later keep what is found, and the list has
nothing twice, nothing empty and nothing led by a dot that was not in it before. -/
theorem registered_extensions_match (language : Language) (text stem : String)
    (more : List String) (someLeft : bareExtension text ≠ "") :
    ((language.addExtension text).matchesFile (stem ++ "." ++ bareExtension text) = true ↔
      '.' ∉ (bareExtension text).toList ∨
        language.matchesFile (stem ++ "." ++ bareExtension text) = true) ∧
    (∀ fileName, language.matchesFile fileName = true →
      (more.foldl addExtension language).matchesFile fileName = true) ∧
    language.Extends (more.foldl addExtension language) := by
  refine ⟨?_, fun fileName found => matchesFile_addExtensions found more,
    extends_addExtensions language more⟩
  have nameEq : (stem ++ "." ++ bareExtension text).toList =
      stem.toList ++ '.' :: (bareExtension text).toList := by
    simp [String.toList_append]
  constructor
  · intro found
    refine or_iff_not_imp_left.mpr fun dotted => ?_
    obtain ⟨part, partEq, known⟩ := matchesFile_iff.mp found
    refine matchesFile_iff.mpr ⟨part, partEq, ?_⟩
    refine ((mem_addExtension_iff language text _).mp known).resolve_right fun ⟨_, same⟩ => ?_
    -- The registered extension has a dot inside, what the file is looked up by has none.
    rw [normalExtension_eq, String.ofList_inj] at same
    have registered := Unicode.dot_mem_lowerText_iff.mpr (not_not.mp dotted)
    rw [same, Unicode.dot_mem_lowerText_iff] at registered
    exact dot_not_mem_of_extension? partEq registered
  · rintro (single | found)
    · refine matchesFile_iff.mpr ⟨_, nameEq ▸ extension?_append single, ?_⟩
      rw [← normalExtension_eq]
      exact (mem_addExtension_iff language text _).mpr
        (.inr ⟨normalExtension_ne_empty someLeft, rfl⟩)
    · exact matchesFile_addExtensions found [text]

/-- An extension in upper case with a leading dot, added to a language without extensions. -/
theorem archive_registered :
    bareExtension ".NBT" = "NBT" ∧
      (addExtension { id := "nbt" } ".NBT").matchesFile "level.NBT" = true ∧
      (["dat", "nbt"].foldl addExtension (addExtension { id := "nbt" } ".NBT")).matchesFile
        "level.NBT" = true := by
  have bare : bareExtension ".NBT" = "NBT" := by decide +kernel
  have found := (registered_extensions_match { id := "nbt" } ".NBT" "level" []
    (by decide +kernel)).1.mpr (.inl (by decide +kernel))
  have kept := (registered_extensions_match (addExtension { id := "nbt" } ".NBT") ".NBT" "level"
    ["dat", "nbt"] (by decide +kernel)).2.1 _ found
  rw [bare] at found kept
  exact ⟨bare, found, kept⟩

/-- An extension of two parts is stored, but does not find a file with this extension. -/
theorem parts_not_found :
    bareExtension "tar.gz" ≠ "" ∧
      (addExtension { id := "archive" } "tar.gz").extensions = ["tar.gz"] ∧
      (addExtension { id := "archive" } "tar.gz").matchesFile
        ("x" ++ "." ++ bareExtension "tar.gz") = false := by
  decide +kernel

end Language

end Scopelight
