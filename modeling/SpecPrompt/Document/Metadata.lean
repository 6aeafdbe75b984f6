import SpecPrompt.Document.Basic
import SpecPrompt.Document.Outline
import SpecPrompt.Text.Split

/-!
# Metadata

A document states its metadata in one of two places: as `key: value` lines in the preamble, whose
keys may be written in Portuguese or English, or as `- **Key**: value` lines in a section of its
own, whose keys are taken as written.
-/

namespace SpecPrompt

/-- The lowercase spellings of the known keys, with the key each one stands for. -/
def keyAliases : List (String × String) :=
  [("nome", "nome"), ("name", "nome"), ("versão", "versao"), ("versao", "versao"),
   ("version", "versao"), ("autor", "autor"), ("author", "autor"), ("data", "data"),
   ("date", "data"), ("domínio", "dominio"), ("dominio", "dominio"), ("domain", "dominio"),
   ("tipo", "tipo"), ("type", "tipo"), ("tags", "tags"), ("linguagem_padrão", "linguagem"),
   ("linguagem_padrao", "linguagem"), ("linguagem padrão", "linguagem"),
   ("linguagem padrao", "linguagem"), ("default language", "linguagem"),
   ("default_language", "linguagem")]

/-- The key that `label` stands for: a known one in any spelling, or else `label` itself in lower
case. -/
def normalizeKey (label : String) : String :=
  let lowered := Text.lower (Text.trim label)
  (keyAliases.lookup lowered).getD lowered

/-- The titles of the section that may hold the metadata. -/
def metadataTitles : List String := ["Metadados", "Metadata"]

/-- The label and value of a preamble line that states a field. -/
def statedPair? (line : List Char) : Option (List Char × List Char) :=
  if line.head? = some '#' then none
  else match Chars.splitOnce [':'] line with
    | none => none
    | some (label, value) =>
      let label := Chars.trim label
      if label.isEmpty then none else some (label, Chars.trim value)

/-- A field's value: the key `tags` holds a list cut at commas, every other key text. -/
def fieldValueOf (key : String) (value : List Char) : FieldValue :=
  if key = "tags" then
    .list ((value.splitOn ',').map fun tag => String.ofList (Chars.trim tag))
  else .text (String.ofList value)

namespace Outline

/-- The title on the first line of the preamble, and the lines of the preamble after it. -/
def titleAndLines (o : Outline) : Option (List Char) × List (List Char) :=
  match o.preamble with
  | [] => (none, [])
  | first :: rest =>
    match titleText? first with
    | some title => (some title, rest)
    | none => (none, first :: rest)

/-- The fields that the lines of the preamble state, in order. -/
def statedFields (o : Outline) : List (String × FieldValue) :=
  o.titleAndLines.2.filterMap fun line => (statedPair? line).map fun (label, value) =>
    let key := normalizeKey (String.ofList label)
    (key, fieldValueOf key value)

/-- The fields of the preamble. Of two for one key the later counts. A title names the document
only if the preamble states some field and a section follows it. -/
def preambleFields (o : Outline) : SortedMap String FieldValue :=
  let stated := SortedMap.ofList o.statedFields
  match o.titleAndLines.1 with
  | some title =>
    if o.blocks.isEmpty || o.statedFields.isEmpty then stated
    else stated.insert "nome" (.text (String.ofList title))
  | none => stated

end Outline

/-- The key and value of a line `- **Key**: value`. -/
def bulletedPair? (line : List Char) : Option (List Char × List Char) :=
  (("- **".toList.isPrefixOf? line).bind (Chars.splitOnce "**:".toList)).map fun (key, value) =>
    (Chars.trim key, Chars.trim value)

/-- The fields listed in the first section that is a metadata section. Of two for one key the later
counts. -/
def bulletFields (sections : SortedMap String String) : SortedMap String FieldValue :=
  match metadataTitles.findSome? (Document.sectionIn? sections) with
  | none => ∅
  | some body =>
    .ofList ((Chars.lines body.toList).filterMap fun line =>
      (bulletedPair? line).map fun (key, value) =>
        (String.ofList key, .text (String.ofList value)))

end SpecPrompt
