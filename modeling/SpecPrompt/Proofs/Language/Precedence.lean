import SpecPrompt.Project.Configuration
import SpecPrompt.Proofs.Language.Shapes
import SpecPrompt.Proofs.Project.Settings

/-!
# Which source gives the language

What each of the four sources gives is said without any search, and with it the language that is chosen:
it comes from the first source that gives one. So the sources behind that one do not matter. If the
settings of a compilation are sound, its default is not blank, and then no choice is blank or has blanks
around it.

## Main result

`language_resolved`: the language that a choice comes out with.
-/

namespace SpecPrompt

open Chars

/-- What the first of the lines gives that give anything. -/
def FirstGiven {α : Type} (gives : List Char → α → Prop) (ls : List (List Char)) (a : α) : Prop :=
  ∃ before line after, ls = before ++ line :: after ∧ gives line a ∧
    ∀ other ∈ before, ∀ b, ¬ gives other b

/-- The text states a language if it is not blank: itself without the blanks around it. -/
def Tells (text language : String) : Prop :=
  ¬ AllBlank text.toList ∧ language = Text.trim text

theorem nonBlankText?_eq_some_iff {text language : String} :
    nonBlankText? text = some language ↔ Tells text language := by
  simp only [nonBlankText?, Option.map_eq_some_iff, nonBlank?_eq_some_iff, Tells, Text.trim]
  constructor
  · rintro ⟨_, ⟨filled, rfl⟩, rfl⟩
    exact ⟨filled, rfl⟩
  · rintro ⟨filled, rfl⟩
    exact ⟨_, ⟨filled, rfl⟩, rfl⟩

theorem findSome?_languageOfLine?_iff {ls : List (List Char)} {value : List Char} :
    ls.findSome? languageOfLine? = some value ↔ FirstGiven StatesLanguage ls value := by
  simp only [List.findSome?_eq_some_iff, FirstGiven, languageOfLine?_eq_some_iff,
    Option.eq_none_iff_forall_ne_some, ne_eq]

theorem titleVariants_settingsTitle :
    titleVariants settingsTitle = ["Configurações", "CONFIGURAÇÕES", "CONFIGURACOES"] := by
  decide +kernel

namespace LanguageChoice

variable {choice other : LanguageChoice} {source : LanguageSource} {language : String}

/-! ### What a source gives -/

/-- What the source gives. The lines of the settings are those of the first spelling of the section that
is there, and the first of them to state a language counts. -/
def Supplies (choice : LanguageChoice) : LanguageSource → String → Prop
  | .explicit, language => ∃ text, choice.explicit = some text ∧ Tells text language
  | .settings, language => ∃ body value,
      ["Configurações", "CONFIGURAÇÕES", "CONFIGURACOES"].findSome? choice.configuration.sections.get? =
        some body ∧
      FirstGiven StatesLanguage (lines body.toList) value ∧ language = String.ofList value
  | .metadata, language => ∃ text, choice.configuration.field? "linguagem" = some text ∧
      Tells text language
  | .default, language => Tells choice.default language

theorem from?_eq_some_iff : choice.from? source = some language ↔ choice.Supplies source language := by
  cases source with
  | explicit => simp [from?, Supplies, Option.bind_eq_some_iff, nonBlankText?_eq_some_iff]
  | metadata => simp [from?, Supplies, Option.bind_eq_some_iff, nonBlankText?_eq_some_iff]
  | default => exact nonBlankText?_eq_some_iff
  | settings =>
    have body : choice.configuration.section? settingsTitle =
        ["Configurações", "CONFIGURAÇÕES", "CONFIGURACOES"].findSome?
          choice.configuration.sections.get? := by
      rw [← titleVariants_settingsTitle]
      rfl
    have stated : choice.from? .settings = (choice.configuration.section? settingsTitle).bind fun body =>
        ((lines body.toList).findSome? languageOfLine?).map String.ofList := rfl
    rw [stated, body]
    simp only [Option.bind_eq_some_iff, Option.map_eq_some_iff, findSome?_languageOfLine?_iff, Supplies]
    constructor
    · rintro ⟨text, here, value, first, rfl⟩
      exact ⟨text, value, here, first, rfl⟩
    · rintro ⟨text, value, here, first, rfl⟩
      exact ⟨text, here, value, first, rfl⟩

/-- Nothing blank is given, and nothing with blanks around it. -/
theorem trimmed_of_supplies (h : choice.Supplies source language) :
    language ≠ "" ∧ Text.trim language = language := by
  have tells : ∀ text, Tells text language → language ≠ "" ∧ Text.trim language = language := by
    rintro text ⟨filled, rfl⟩
    rw [Text.trim, Ne, String.ofList_eq_empty_iff, trim_eq_nil_iff, Text.trim, String.toList_ofList,
      trim_trim]
    exact ⟨filled, rfl⟩
  cases source with
  | default => exact tells _ h
  | explicit =>
    obtain ⟨text, -, told⟩ := h
    exact tells text told
  | metadata =>
    obtain ⟨text, -, told⟩ := h
    exact tells text told
  | settings =>
    obtain ⟨body, _, -, ⟨-, line, -, -, ⟨label, text, -, -, -, filled, rfl⟩, -⟩, rfl⟩ := h
    rw [Ne, String.ofList_eq_empty_iff, trim_eq_nil_iff, Text.trim, String.toList_ofList, trim_trim]
    exact ⟨filled, rfl⟩

/-! ### The first source that gives something -/

/-- What the first of the sources gives that gives anything, or else the default as it is. -/
def Comes (choice : LanguageChoice) : List LanguageSource → String → Prop
  | [], language => language = choice.default
  | source :: sources, language =>
    OrElse (choice.Supplies source) (choice.Comes sources) language

theorem getD_findSome?_eq_iff {sources : List LanguageSource} :
    (sources.findSome? choice.from?).getD choice.default = language ↔
      choice.Comes sources language := by
  induction sources with
  | nil => exact eq_comm
  | cons source sources ih =>
    rw [List.findSome?_cons, Comes, OrElse]
    simp only [← from?_eq_some_iff]
    cases choice.from? source with
    | none => simpa using ih
    | some given => simp

theorem language_eq : choice.language = (precedence.findSome? choice.from?).getD choice.default := by
  rw [language, winner?, List.map_findSome?]
  simp only [Function.comp_def, Option.map_map, Option.map_id']

theorem result_resolve : choice.resolve.result = .ok choice.language := by
  rw [resolve]
  cases choice.winner? <;> rfl

theorem language_eq_append (choice : LanguageChoice) {sources lower : List LanguageSource}
    (order : precedence = sources ++ lower) {found : String}
    (stops : sources.findSome? choice.from? = some found) : choice.language = found := by
  rw [language_eq, order, List.findSome?_append, stops]
  rfl

theorem exists_findSome?_from? {sources : List LanguageSource} (listed : source ∈ sources)
    (given : choice.Supplies source language) :
    ∃ found, sources.findSome? choice.from? = some found := by
  apply Option.isSome_iff_exists.mp
  rw [List.findSome?_isSome_iff]
  exact ⟨source, listed, by rw [from?_eq_some_iff.mpr given]; rfl⟩

theorem findSome?_from?_congr {sources : List LanguageSource}
    (agree : ∀ s ∈ sources, ∀ language, other.Supplies s language ↔ choice.Supplies s language) :
    sources.findSome? other.from? = sources.findSome? choice.from? := by
  induction sources with
  | nil => rfl
  | cons source sources ih =>
    have same : other.from? source = choice.from? source := by
      apply Option.ext
      intro language
      rw [from?_eq_some_iff, from?_eq_some_iff, agree source (by simp)]
    rw [List.findSome?_cons, List.findSome?_cons, same, ih fun s listed => agree s (by simp [listed])]

/-- Sources behind one that gives something do not matter. -/
theorem language_eq_of_agree {higher lower : List LanguageSource}
    (order : precedence = higher ++ source :: lower) (given : ∃ language, choice.Supplies source language)
    (agree : ∀ s ∈ higher ++ [source], ∀ language,
      other.Supplies s language ↔ choice.Supplies s language) :
    other.language = choice.language := by
  rw [List.append_cons] at order
  obtain ⟨language, given⟩ := given
  -- The search ends with that source at the latest, and up to there both find the same.
  have listed : source ∈ higher ++ [source] := by simp
  obtain ⟨found, stops⟩ := exists_findSome?_from? listed given
  rw [language_eq_append choice order stops,
    language_eq_append other order ((findSome?_from?_congr agree).trans stops)]

theorem not_allBlank_default_of_validate {w : Workspace} {s : Settings} (valid : s.validate w = .ok ()) :
    ¬ AllBlank s.defaultLanguage.toList := by
  have filled := (Settings.validate_eq_ok_iff.mp valid).defaultLanguage
  simpa [Text.isBlank, AllBlank] using filled

/-- A choice always comes out with a language: what the first source gives that gives anything, in the
order of the caller, the settings, the metadata and the default, or else the default as it is. What comes
behind a source that gives something does not matter, and with a default of sound settings the language is
not empty and has no blanks around it. -/
theorem language_resolved (choice : LanguageChoice) :
    choice.resolve.result = .ok choice.language ∧
      (∀ language, choice.language = language ↔
        OrElse (choice.Supplies .explicit) (OrElse (choice.Supplies .settings)
          (OrElse (choice.Supplies .metadata) (OrElse (choice.Supplies .default)
            (· = choice.default)))) language) ∧
      (∀ (other : LanguageChoice) higher source lower, precedence = higher ++ source :: lower →
        (∃ language, choice.Supplies source language) →
        (∀ s ∈ higher ++ [source], ∀ language,
          other.Supplies s language ↔ choice.Supplies s language) →
        other.language = choice.language) ∧
      ∀ w s, Settings.validate w s = .ok () → s.defaultLanguage = choice.default →
        choice.language ≠ "" ∧ Text.trim choice.language = choice.language := by
  have comes : ∀ language, choice.language = language ↔ choice.Comes precedence language := by
    intro language
    rw [language_eq]
    exact getD_findSome?_eq_iff
  refine ⟨result_resolve, comes, ?_, ?_⟩
  · intro other higher source lower order given agree
    exact language_eq_of_agree order given agree
  · intro w s valid default
    have filled := not_allBlank_default_of_validate valid
    rw [default] at filled
    rcases (comes _).mp rfl with
      given | ⟨-, given | ⟨-, given | ⟨-, given | ⟨blank, -⟩⟩⟩⟩
    · exact trimmed_of_supplies given
    · exact trimmed_of_supplies given
    · exact trimmed_of_supplies given
    · exact trimmed_of_supplies given
    -- A default that is not blank gives something itself.
    · have told : choice.Supplies .default (Text.trim choice.default) := ⟨filled, rfl⟩
      exact absurd told (blank _)

/-- A project that states the language in its metadata only. The caller's choice and the line in the
settings are blank, and another default makes no difference. -/
def metadataOnly (default : String) : LanguageChoice :=
  ⟨some " ", Document.parse "# P\nLinguagem_Padrão: Java\n## Configurações\n- Linguagem: ", default⟩

theorem language_resolved_metadataOnly :
    (metadataOnly "python").language = "Java" ∧ (metadataOnly "ruby").language = "Java" ∧
      Settings.validate ⟨FileTree.empty.place ["p"] .directory, []⟩ { root := ⟨"/p"⟩ } = .ok () ∧
      Text.trim (metadataOnly "python").language = (metadataOnly "python").language := by
  obtain ⟨-, -, steady, sound⟩ := language_resolved (metadataOnly "python")
  have java : (metadataOnly "python").language = "Java" := by decide +kernel
  have given : (metadataOnly "python").Supplies .metadata "Java" :=
    from?_eq_some_iff.mp (by decide +kernel)
  have valid : Settings.validate ⟨FileTree.empty.place ["p"] .directory, []⟩ { root := ⟨"/p"⟩ } =
      .ok () := by
    obtain ⟨_, ok, -⟩ := Outcome.exists_ok_of_decide (p := fun _ => True) (x := Settings.validate
      ⟨FileTree.empty.place ["p"] .directory, []⟩ { root := ⟨"/p"⟩ }) (by decide +kernel)
    exact ok
  have same : (metadataOnly "ruby").language = (metadataOnly "python").language := by
    apply steady _ [.explicit, .settings] .metadata [.default] rfl ⟨"Java", given⟩
    intro s listed language
    cases s with
    | default => simp at listed
    | _ => exact Iff.rfl
  exact ⟨java, same.trans java, valid, (sound _ _ valid rfl).2⟩

end LanguageChoice

end SpecPrompt
