import SpecPrompt.Category
import SpecPrompt.Template.Part

/-!
# Built-in templates

Each category has a template of its own. All of them open with a request and the document's fields,
and go on with its sections and its reference implementation.
-/

namespace SpecPrompt.Prompt

open Template

/-- The part that shows a variable of the prompt. -/
def shown (field : String) : Part :=
  .output (.reference ["ctx", field])

/-- The request and the fields at the start of a prompt for `what`. -/
def opening (what : String) : List Part :=
  [.text ("Por favor, gere " ++ what ++ " em "), shown "language",
   .text " com as seguintes especificações:\n\nNome: ", shown "name",
   .text "\nVersão: ", shown "version", .text "\nAutor: ", shown "author",
   .text "\nTipo: ", shown "kind"]

/-- The sections in the variable `field`, each after an empty line. -/
def sectionParts (field : String) : Part :=
  .each "section" ⟨.reference ⟨["ctx", field]⟩, []⟩
    [.text "\n", .output (.reference ["section", "heading"]), .text ":\n",
     .output (.reference ["section", "body"]), .text "\n"] []

/-- The line above a reference implementation. -/
def referenceHeading : String := "\nImplementação de Referência:\n"

/-- The document's reference implementation, or the stock one with the lines `stock` if that is
asked for. -/
def referenceParts (stock : List String) : Part :=
  .branch (.isText ["ctx", "reference"])
    [.text referenceHeading, shown "reference", .text "\n"]
    [.branch (.reference ["ctx", "reference_fallback"])
      [.text referenceHeading, .text ("\n".intercalate stock), .text "\n"] []]

/-- The remarks in prompts for components. -/
def remarks : String :=
  "\nObservações:
- Toda a documentação deve estar em português do Brasil
- Comentários devem estar em português do Brasil
- Nomes de variáveis e funções devem seguir o padrão camelCase em português
"

/-- The stock implementation of a component. -/
def componentStock : List String :=
  ["```typescript",
   "import \x7b useState \x7d from 'react';",
   "",
   "interface ValidadorProps \x7b",
   "    valor: string;",
   "    onValidar?: (valido: boolean) => void;",
   "\x7d",
   "",
   "export const Validador = (\x7b valor, onValidar \x7d: ValidadorProps) => \x7b",
   "    const [valido, setValido] = useState<boolean>(false);",
   "",
   "    const validar = (entrada: string): boolean => \x7b",
   "        const limpo = entrada.replace(/\\D/g, '');",
   "        return limpo.length > 0;",
   "    \x7d;",
   "",
   "    const resultado = validar(valor);",
   "    if (resultado !== valido) \x7b",
   "        setValido(resultado);",
   "        onValidar?.(resultado);",
   "    \x7d",
   "",
   "    return <div className=\x7bvalido ? 'valido' : 'invalido'\x7d>" ++
     "\x7bvalido ? 'Válido' : 'Inválido'\x7d</div>;",
   "\x7d;",
   "```"]

/-- The stock implementation of an entity. -/
def entityStock : List String :=
  ["```typescript",
   "import \x7b z \x7d from 'zod';",
   "",
   "export const entidadeSchema = z.object(\x7b",
   "    id: z.number(),",
   "    nome: z.string().min(3).max(100),",
   "    ativo: z.boolean().default(true)",
   "\x7d);",
   "",
   "export type Entidade = z.infer<typeof entidadeSchema>;",
   "",
   "export class EntidadeDominio \x7b",
   "    constructor(private dados: Entidade) \x7b",
   "        const resultado = entidadeSchema.safeParse(dados);",
   "        if (!resultado.success) \x7b",
   "            throw new Error(resultado.error.message);",
   "        \x7d",
   "    \x7d",
   "",
   "    get id(): number \x7b return this.dados.id; \x7d",
   "    get nome(): string \x7b return this.dados.nome; \x7d",
   "",
   "    desativar(): void \x7b this.dados.ativo = false; \x7d",
   "    ativar(): void \x7b this.dados.ativo = true; \x7d",
   "\x7d",
   "```"]

/-- The stock implementation of an interface. -/
def interfaceStock : List String :=
  ["```typescript",
   "export interface Repositorio<T> \x7b",
   "    criar(entidade: T): Promise<T>;",
   "    ler(id: number): Promise<T>;",
   "    atualizar(entidade: T): Promise<T>;",
   "    deletar(id: number): Promise<boolean>;",
   "    listar(): Promise<T[]>;",
   "\x7d",
   "",
   "export abstract class RepositorioBase<T extends \x7b id: number \x7d> " ++
     "implements Repositorio<T> \x7b",
   "    protected cache: Map<number, T> = new Map();",
   "",
   "    protected invalidarCache(): void \x7b",
   "        this.cache.clear();",
   "    \x7d",
   "",
   "    abstract criar(entidade: T): Promise<T>;",
   "    abstract ler(id: number): Promise<T>;",
   "    abstract atualizar(entidade: T): Promise<T>;",
   "    abstract deletar(id: number): Promise<boolean>;",
   "    abstract listar(): Promise<T[]>;",
   "\x7d",
   "```"]

/-- The stock tests. -/
def testStock : List String :=
  ["```typescript",
   "import \x7b describe, it, expect \x7d from 'vitest';",
   "import \x7b validar \x7d from '../componentes/Validador';",
   "",
   "describe('Validador', () => \x7b",
   "    const validos = ['529.982.247-25', '111.444.777-35'];",
   "    const invalidos = ['529.982.247-26', '111.111.111-11'];",
   "",
   "    it('aceita valores válidos', () => \x7b",
   "        validos.forEach(valor => expect(validar(valor)).toBe(true));",
   "    \x7d);",
   "",
   "    it('rejeita valores inválidos', () => \x7b",
   "        invalidos.forEach(valor => expect(validar(valor)).toBe(false));",
   "    \x7d);",
   "\x7d);",
   "```"]

/-- The built-in template of a category. -/
def builtin : Category → List Part
  | .component =>
    opening "um componente" ++ [.text "\n", sectionParts "sections", .text remarks,
      sectionParts "extras", referenceParts componentStock]
  | .entity =>
    opening "uma entidade" ++ [.text "\n", sectionParts "sections", sectionParts "extras",
      referenceParts entityStock]
  | .interface =>
    opening "uma interface" ++ [.text "\n", sectionParts "sections", sectionParts "extras",
      referenceParts interfaceStock]
  | .test =>
    opening "testes" ++ [.text "\n", sectionParts "sections", sectionParts "extras",
      referenceParts testStock]

end SpecPrompt.Prompt
