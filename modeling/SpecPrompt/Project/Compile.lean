import SpecPrompt.Project.Configuration
import SpecPrompt.Project.Scan
import SpecPrompt.Prompt.Templates
import SpecPrompt.Prompt.Variables

/-!
# Compiling a project

Every document of a project becomes one prompt in each category that its path belongs to. Of the
documents of one name in a category only one stays. The configuration is no document of the
project.
-/

namespace SpecPrompt

/-- The prompts of each category, in the order of the categories. -/
structure Prompts where
  byCategory : List (Category × List String)
  deriving DecidableEq, Repr

namespace Prompts

/-- The prompts of a category. -/
def of (p : Prompts) (category : Category) : List String :=
  (p.byCategory.lookup category).getD []

/-- All prompts in the order of the categories. -/
def flatten (p : Prompts) : List String :=
  p.byCategory.flatMap Prod.snd

/-- The number of prompts. -/
def total (p : Prompts) : Nat :=
  p.flatten.length

/-- Whether there is no prompt. -/
def isEmpty (p : Prompts) : Bool :=
  p.total == 0

end Prompts

/-- A document under its name. -/
structure NamedDocument where
  name : String
  document : Document

/-- The documents with another one added. If its name is taken, the policy says which stays; the
place in the list is that of the first document of the name. -/
def addDocument (policy : DuplicatePolicy) (kept : List NamedDocument) (added : NamedDocument) :
    List NamedDocument :=
  if kept.any fun k => k.name = added.name then
    match policy with
    | .lastWins => kept.map fun k => if k.name = added.name then added else k
    | .firstWins => kept
  else kept ++ [added]

/-- Settings made ready: the scanner, and the template of each category. -/
structure Compiler where
  settings : Settings
  scanner : Scanner
  templates : Prompt.Templates

namespace Compiler

/-- The compiler that the settings ask for. Documents are read only when it compiles. -/
def prepare (w : Workspace) (settings : Settings) : Outcome Compiler := do
  .ofExcept (settings.validate w)
  let scanner ← .ofExcept (Scanner.ofSettings w settings)
  pure ⟨settings, scanner, ← Prompt.loadTemplates w settings⟩

/-- The target language that the configuration at a path leads to. -/
def languageFrom (c : Compiler) (w : Workspace) (configuration : Path) : Outcome String := do
  let document ← w.readDocument configuration
  let language ← LanguageChoice.resolve
    ⟨c.settings.targetLanguage, document, c.settings.defaultLanguage⟩
  .report (.languageChosen language)
  pure language

/-- The target language of the project. -/
def targetLanguage (c : Compiler) (w : Workspace) : Outcome String := do
  c.languageFrom w (← w.locateConfiguration c.settings.root)

/-- Reads a document and adds it to those of its category. -/
def addFile (c : Compiler) (w : Workspace) (category : Category) (kept : List NamedDocument)
    (file : DocumentFile) : Outcome (List NamedDocument) := do
  let document ← w.readDocument file.path
  let name := displayName document category
  .report (if kept.any fun k => k.name = name then
      match c.settings.duplicates with
      | .lastWins => .documentReplaced category name file.relative
      | .firstWins => .documentDropped category name file.relative
    else .documentAdded category name file.relative)
  pure (addDocument c.settings.duplicates kept ⟨name, document⟩)

/-- The prompt for a document. -/
def renderPrompt (c : Compiler) (category : Category) (language : String) (document : Document) :
    Outcome String := do
  let bindings := Prompt.bindings document category language c.settings.referenceFallback
  match Template.render (c.templates category) bindings with
  | .error fault => .fail (.rendering category.templateName fault)
  | .ok text => do
    .report (.rendered category (displayName document category))
    pure (Text.trimEnd text)

/-- The prompts for the documents among `files` that belong to a category. -/
def compileCategory (c : Compiler) (w : Workspace) (language : String)
    (files : List DocumentFile) (category : Category) : Outcome (Category × List String) := do
  let selected := files.filter fun file => category.holds file.relative
  let documents ← selected.foldlM (c.addFile w category) []
  let prompts ← documents.mapM fun d => c.renderPrompt category language d.document
  .report (.categoryCompiled category prompts.length)
  pure (category, prompts)

/-- The target language, and the prompts for the documents that a scan finds. -/
def compileWith (c : Compiler) (w : Workspace) (scan : Outcome (List DocumentFile)) :
    Outcome (String × Prompts) := do
  let configuration ← w.locateConfiguration c.settings.root
  let language ← c.languageFrom w configuration
  let files := (← scan).filter fun file => !file.path.sameAs configuration
  pure (language, ⟨← Category.all.mapM (c.compileCategory w language files)⟩)

/-- The target language and the prompts of the project. -/
def compile (c : Compiler) (w : Workspace) : Outcome (String × Prompts) :=
  c.compileWith w (c.scanner.scan w)

end Compiler

end SpecPrompt
