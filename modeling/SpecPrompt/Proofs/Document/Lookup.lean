import SpecPrompt.Prompt.Variables
import SpecPrompt.Proofs.Document.Sources

/-!
# Looking a field up

A key that has a label is looked up under the key first and under the label after that. The keys of the
title and of the block before the first marker are in lower case, and every label starts with a capital
letter. So a label is never found there, and what is left for it is the list in the metadata section, in
which keys stand as they are written.

## Main result

`field?_parse`: where the text of a field comes from, and with it the name that a document is shown
under.
-/

namespace SpecPrompt

open Chars

/-! ### Labels -/

theorem lookup_bulletLabels : ∀ e ∈ Document.bulletLabels,
    Document.bulletLabels.lookup e.1 = some e.2 := by
  decide

theorem ne_tags_of_mem_bulletLabels : ∀ e ∈ Document.bulletLabels, e.1 ≠ "tags" ∧ e.2 ≠ "tags" := by
  decide

/-- Every label has a letter from A to Z. -/
theorem exists_capital_of_mem_bulletLabels : ∀ e ∈ Document.bulletLabels,
    ∃ c ∈ e.2.toList, c.toNat ∈ CaseData.capitalPoints := by
  have each : ∀ e ∈ Document.bulletLabels,
      e.2.toList.any (fun c => c.toNat ∈ CaseData.capitalPoints) = true := by decide +kernel
  simpa only [List.any_eq_true, decide_eq_true_eq] using each

/-- No key that a label stands for has a letter from A to Z. -/
theorem not_capital_of_mem_normalizeKey {label : String} {c : Char}
    (h : c ∈ (normalizeKey label).toList) : c.toNat ∉ CaseData.capitalPoints := by
  have aliases : ∀ e ∈ keyAliases,
      e.2.toList.all (fun c => c.toNat ∉ CaseData.capitalPoints) = true := by decide +kernel
  rw [normalizeKey] at h
  cases known : keyAliases.lookup (Text.lower (Text.trim label)) with
  | some key =>
    rw [known] at h
    simpa using List.all_eq_true.mp (aliases _ (mem_of_lookup known)) c h
  | none =>
    rw [known, Option.getD_none, Text.lower, String.toList_ofList] at h
    exact not_capital_of_mem_lower h

/-! ### Sources that lack a label, and sources that lack lists -/

section

variable {ls : List (List Char)} {key label : String} {value : FieldValue}

theorem get?_preambleFields_label (h : (key, label) ∈ Document.bulletLabels) :
    (Outline.ofLines ls).preambleFields.get? label = none := by
  obtain ⟨c, inside, capital⟩ : ∃ c ∈ label.toList, c.toNat ∈ CaseData.capitalPoints :=
    exists_capital_of_mem_bulletLabels _ h
  apply Option.eq_none_iff_forall_ne_some.mpr
  intro value found
  -- A key that is found there is the key of the title or a normal form.
  rcases get?_preambleFields_iff.mp found with ⟨name, -⟩ | ⟨-, line, after, -, stated⟩
  · have nome : "nome".toList.all (fun c => c.toNat ∉ CaseData.capitalPoints) = true := by decide
    rw [name] at inside
    have small := List.all_eq_true.mp nome c inside
    exact absurd capital (by simpa using small)
  · obtain ⟨before, text, -, normal, -⟩ := stated
    rw [← normal] at inside
    exact not_capital_of_mem_normalizeKey inside capital

theorem exists_text_of_titleGives (h : TitleGives ls key value) : ∃ t, value = .text t := by
  obtain ⟨-, title, rest, -, -, -, same⟩ := h
  exact ⟨_, same⟩

theorem exists_text_of_states {line : List Char} (h : States key line value) (untagged : key ≠ "tags") :
    ∃ t, value = .text t := by
  obtain ⟨before, text, -, -, same⟩ := h
  rw [if_neg untagged] at same
  exact ⟨_, same⟩

theorem exists_text_of_listGives {sections : SortedMap String String}
    (h : ListGives sections key value) : ∃ t, value = .text t := by
  obtain ⟨body, -, line, after, -, rest, before, text, -, -, -, same⟩ := h
  exact ⟨_, same⟩

end

/-! ### The lookup -/

/-- What a text has for a key with a label: its title, or else the block of lines before the first
marker, or else the list in its metadata section, under the key or else under the label. -/
def FieldGiven (text key label : String) : FieldValue → Prop :=
  OrElse (TitleGives (lines text.toList) key)
    (OrElse (LastGiven (States key) (blockOf (lines text.toList)))
      (OrElse (ListGives (Document.parse text).sections key)
        (ListGives (Document.parse text).sections label)))

section

variable {text key label : String}

theorem fieldValue?_parse_iff (h : (key, label) ∈ Document.bulletLabels) {value : FieldValue} :
    (Document.parse text).fieldValue? key = some value ↔ FieldGiven text key label value := by
  have stored : ∀ k, (Document.parse text).metadata.get? k =
      ((Outline.ofLines (lines text.toList)).preambleFields.get? k).or
        ((bulletFields (Document.parse text).sections).get? k) := fun k =>
    get?_metadata_ofOutline _ k
  -- The label is looked up in both sources of the metadata as well, but the first one lacks it.
  rw [Document.fieldValue?, lookup_bulletLabels _ h, Option.bind_some, stored, stored,
    get?_preambleFields_label h, Option.none_or, Option.or_assoc, FieldGiven, ← orElse_assoc]
  apply or_eq_some_iff_orElse
  · exact fun _ => get?_preambleFields_iff
  · intro _
    apply or_eq_some_iff_orElse
    · exact fun _ => get?_bulletFields_iff
    · exact fun _ => get?_bulletFields_iff

theorem exists_text_of_fieldGiven (h : (key, label) ∈ Document.bulletLabels) {value : FieldValue}
    (given : FieldGiven text key label value) : ∃ t, value = .text t := by
  rcases given with title | ⟨-, ⟨line, after, -, stated⟩ | ⟨-, listed | ⟨-, listed⟩⟩⟩
  · exact exists_text_of_titleGives title
  · exact exists_text_of_states stated (ne_tags_of_mem_bulletLabels _ h).1
  · exact exists_text_of_listGives listed
  · exact exists_text_of_listGives listed

theorem field?_parse_iff (h : (key, label) ∈ Document.bulletLabels) {value : String} :
    (Document.parse text).field? key = some value ↔ FieldGiven text key label (.text value) := by
  rw [← fieldValue?_parse_iff h, Document.field?, Option.bind_eq_some_iff]
  constructor
  · rintro ⟨content, found, shown⟩
    cases content with
    | text t => rwa [Option.some.inj shown] at found
    | list items => cases shown
  · intro found
    exact ⟨_, found, rfl⟩

/-- The field is missing if no source has anything for it, be it a text or not. -/
theorem field?_parse_eq_none_iff (h : (key, label) ∈ Document.bulletLabels) :
    (Document.parse text).field? key = none ↔ ∀ value, ¬ FieldGiven text key label value := by
  simp only [Option.eq_none_iff_forall_ne_some, ne_eq, field?_parse_iff h]
  constructor
  · intro none value given
    obtain ⟨t, rfl⟩ := exists_text_of_fieldGiven h given
    exact none t given
  · exact fun none t => none (.text t)

end

/-- A key with a label has the text that the first of its sources gives, an empty one too, and a document
goes by the name that one of them gives it, or else by the name that its category has. -/
theorem field?_parse (text : String) :
    (∀ key label, (key, label) ∈ Document.bulletLabels → ∀ value,
      (Document.parse text).field? key = some value ↔ FieldGiven text key label (.text value)) ∧
    ∀ category name, displayName (Document.parse text) category = name ↔
      OrElse (FieldGiven text "nome" "Nome") (· = .text category.defaultName) (.text name) := by
  constructor
  · intro key label h value
    exact field?_parse_iff h
  · intro category name
    have h : ("nome", "Nome") ∈ Document.bulletLabels := by decide
    rw [displayName, OrElse, ← field?_parse_iff h, ← field?_parse_eq_none_iff h]
    cases (Document.parse text).field? "nome" <;> simp [eq_comm]

/-- An empty version in the first lines hides the one that is listed. Without it no line counts before
the list, so the title is no name, and the author is found under its label. -/
theorem field?_parse_listed :
    FieldGiven "# T\nversion:\n## Metadados\n- **Versão**: 2" "versao" "Versão" (.text "") ∧
      FieldGiven "# T\n## Metadados\n- **Autor**: B" "autor" "Autor" (.text "B") ∧
      OrElse (FieldGiven "# T\n## Metadados\n- **Autor**: B" "nome" "Nome")
        (· = .text (Category.defaultName .component)) (.text (Category.defaultName .component)) := by
  have versions := (field?_parse "# T\nversion:\n## Metadados\n- **Versão**: 2").1
  obtain ⟨fields, names⟩ := field?_parse "# T\n## Metadados\n- **Autor**: B"
  refine ⟨?_, ?_, ?_⟩
  · exact (versions "versao" "Versão" (by decide) "").mp (by decide +kernel)
  · exact (fields "autor" "Autor" (by decide) "B").mp (by decide +kernel)
  · exact (names .component _).mp (by decide +kernel)

end SpecPrompt
