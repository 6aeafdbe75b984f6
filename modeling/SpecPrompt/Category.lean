import SpecPrompt.Text.Split

/-!
# Categories

The four kinds of specification, the folders that hold them, and the sections that their prompts
are made of.
-/

namespace SpecPrompt

/-- The kind of thing that a document specifies. -/
inductive Category where
  | component
  | entity
  | interface
  | test
  deriving DecidableEq, Repr

/-- A section that every prompt of a category has, with the sentence that stands in for it. -/
structure RequiredSection where
  title : String
  fallback : String
  deriving DecidableEq, Repr

/-- How the body of a section is copied into a prompt. -/
inductive BodyStyle where
  /-- As it is. -/
  | verbatim
  /-- Its list items alone, if it has any. -/
  | items
  deriving DecidableEq, Repr

/-- A section that a prompt has only if the document has it. -/
structure OptionalSection where
  title : String
  heading : String
  style : BodyStyle
  deriving DecidableEq, Repr

/-- The title of the section with a reference implementation, in every category. -/
def referenceTitle : String := "Implementação"

namespace Category

/-- The categories in the order of their prompts. -/
def all : List Category := [.component, .entity, .interface, .test]

/-- The name of a category in results and messages. -/
def key : Category → String
  | .component => "componentes"
  | .entity => "entidades"
  | .interface => "interfaces"
  | .test => "testes"

/-- A document belongs to a category if its path contains one of these. -/
def folderTokens : Category → List String
  | .component => ["componentes", "components"]
  | .entity => ["entidades", "entities"]
  | .interface => ["interfaces"]
  | .test => ["testes", "tests"]

/-- The name of the template that renders a category. -/
def templateName : Category → String
  | .component => "component"
  | .entity => "entity"
  | .interface => "interface"
  | .test => "test"

/-- The name of a document that states none. -/
def defaultName : Category → String
  | .component => "Componente"
  | .entity => "Entidade"
  | .interface => "Interface"
  | .test => "Teste"

/-- The kind of a document that states none. -/
def defaultKind : Category → String
  | .component => "Utilitário"
  | .entity => "Domínio"
  | .interface => "Interface"
  | .test => "Teste Unitário"

/-- The sections that every prompt of a category has, in order. -/
def requiredSections : Category → List RequiredSection
  | .component =>
    [⟨"Descrição", "Sem descrição disponível."⟩, ⟨"Algoritmo", "Sem algoritmo definido."⟩,
     ⟨"Regras", "Sem regras definidas."⟩, ⟨"Interface", "Sem interface definida."⟩]
  | .entity =>
    [⟨"Descrição", "Sem descrição disponível."⟩, ⟨"Atributos", "Sem atributos definidos."⟩,
     ⟨"Regras", "Sem regras definidas."⟩,
     ⟨"Relacionamentos", "Sem relacionamentos definidos."⟩]
  | .interface =>
    [⟨"Descrição", "Sem descrição disponível."⟩, ⟨"Métodos", "Sem métodos definidos."⟩,
     ⟨"Propriedades", "Sem propriedades definidas."⟩, ⟨"Regras", "Sem regras definidas."⟩]
  | .test =>
    [⟨"Descrição", "Sem descrição disponível."⟩, ⟨"Cenários", "Sem cenários definidos."⟩,
     ⟨"Mocks", "Sem mocks definidos."⟩, ⟨"Fixtures", "Sem fixtures definidas."⟩]

/-- The sections that a prompt of a category has if the document does, in order. -/
def optionalSections : Category → List OptionalSection
  | .component => [⟨"Exemplos", "Exemplos", .verbatim⟩]
  | .entity =>
    [⟨"Validações", "Validações de Negócio", .items⟩, ⟨"Métodos", "Métodos de Domínio", .items⟩,
     ⟨"Índices", "Índices do Banco de Dados", .items⟩,
     ⟨"Permissões", "Regras de Permissão", .items⟩,
     ⟨"Auditoria", "Requisitos de Auditoria", .items⟩]
  | .interface | .test => []

/-- Whether a document at `path` belongs to the category. -/
def holds (category : Category) (path : String) : Bool :=
  category.folderTokens.any fun token => Text.hasPart token path

end Category

end SpecPrompt
