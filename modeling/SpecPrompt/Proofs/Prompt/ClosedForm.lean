import SpecPrompt.Project.Compile
import SpecPrompt.Proofs.Prompt.TemplateText

/-!
# The text of a prompt

A prompt is a request, the document's fields, its sections, and its reference implementation. Here
that text is written down directly and shown to be what the built-in templates produce, for every
document. So their rendering never fails.

## Main result

`renderPrompt_builtin`: the built-in templates, read from their texts, render every document to the
text written down here, less the blanks at its end.
-/

namespace SpecPrompt.Prompt

open Template

/-! ### The text, written down directly -/

/-- The bodies that a document has under the spellings of a title, in the order of the spellings. -/
def spelled (d : Document) (title : String) : List String :=
  (titleVariants title).filterMap d.sections.get?

/-- A section after an empty line. -/
def block (heading body : String) : String :=
  "\n" ++ heading ++ ":\n" ++ body ++ "\n"

/-- The required sections, each with its sentence if no spelling of its title is there. -/
def requiredText (d : Document) (category : Category) : String :=
  String.join (category.requiredSections.map fun s =>
    match spelled d s.title with
    | body :: _ => block s.title body
    | [] => block s.title s.fallback)

/-- A body of a list section, reduced to its items if it has any. -/
def itemized (body : String) : String :=
  if listItems body = [] then body
  else "\n".intercalate ((listItems body).map fun item => "- " ++ item)

/-- The optional sections of which some spelling is there. -/
def optionalText (d : Document) (category : Category) : String :=
  String.join (category.optionalSections.map fun s =>
    match spelled d s.title with
    | body :: _ => block s.heading (if s.style = .items then itemized body else body)
    | [] => "")

/-- The reference implementation: the document's, or the stock one if that is asked for. -/
def referenceText (d : Document) (category : Category) (fallback : Bool) : String :=
  match spelled d referenceTitle with
  | body :: _ => referenceHeading ++ body ++ "\n"
  | [] => if fallback then referenceHeading ++ "\n".intercalate (stock category) ++ "\n" else ""

/-- The text stored under a key, or else under its label. A list found there hides a text under the
label. -/
def fieldText (d : Document) (key label fallback : String) : String :=
  match d.metadata.get? key, d.metadata.get? label with
  | some (.text value), _ | none, some (.text value) => value
  | some (.list _), _ | none, some (.list _) | none, none => fallback

/-- The request, and the four fields after an empty line. -/
def openingText (d : Document) (category : Category) (language : String) : String :=
  "Por favor, gere " ++ request category ++ " em " ++ language ++
    " com as seguintes especificações:\n\n" ++
    "Nome: " ++ fieldText d "nome" "Nome" category.defaultName ++ "\n" ++
    "Versão: " ++ fieldText d "versao" "Versão" defaultVersion ++ "\n" ++
    "Autor: " ++ fieldText d "autor" "Autor" defaultAuthor ++ "\n" ++
    "Tipo: " ++ fieldText d "tipo" "Tipo" category.defaultKind ++ "\n"

/-- The whole text of a prompt, before the blanks at its end are cut. -/
def promptText (d : Document) (category : Category) (language : String) (fallback : Bool) :
    String :=
  openingText d category language ++ requiredText d category ++
    (if category = .component then remarks else "") ++ optionalText d category ++
    referenceText d category fallback

/-! ### Lookups -/

theorem section?_eq (d : Document) (title : String) : d.section? title = (spelled d title).head? :=
  List.head?_filterMap.symm

theorem getD_field? (d : Document) {key label : String}
    (labelled : Document.bulletLabels.lookup key = some label) (fallback : String) :
    (d.field? key).getD fallback = fieldText d key label fallback := by
  rw [Document.field?, Document.fieldValue?, labelled, fieldText]
  cases d.metadata.get? key with
  | some value => cases value <;> rfl
  | none => cases h : d.metadata.get? label with
    | none => simp [h]
    | some value => cases value <;> simp [h, FieldValue.text?]

/-! ### Rendering parts -/

/-- Some parts that show a text and set no variable. -/
def Shows (env : Env) (parts : List Part) (text : String) : Prop :=
  renderParts env parts = .ok (text, env)

theorem shows_nil (env : Env) : Shows env [] "" := by
  rw [Shows, renderParts]

theorem shows_cons {env : Env} {part : Part} {text rest : String} {parts : List Part}
    (first : part.render env = .ok (text, env)) (later : Shows env parts rest) :
    Shows env (part :: parts) (text ++ rest) := by
  rw [Shows] at later
  rw [Shows, renderParts, first]
  simp [bind, Except.bind, later]

theorem render_text (env : Env) (s : String) : Part.render env (.text s) = .ok (s, env) := by
  rw [Part.render]

/-- A variable that holds a text shows that text. -/
theorem render_output {env : Env} {segments : List String} {s : String}
    (h : env.lookup ⟨segments⟩ = some (.text s)) :
    Part.render env (.output (.reference segments)) = .ok (s, env) := by
  rw [Part.render, Expr.reference, Expr.eval, Operand.eval, Atom.eval, h]
  simp [bind, Except.bind, applyFilters, Value.display]

theorem render_branch {env : Env} {condition : Expr} {b : Bool} (h : condition.holds env = .ok b)
    (parts otherwise : List Part) :
    Part.render env (.branch condition parts otherwise) =
      renderParts env (if b then parts else otherwise) := by
  rw [Part.render, h]
  cases b <;> rfl

/-- Whether a value is a text. -/
def holdsText : Value → Bool
  | .text _ => true
  | _ => false

theorem holds_isText {env : Env} {segments : List String} {value : Value}
    (h : env.lookup ⟨segments⟩ = some value) :
    (Expr.isText segments).holds env = .ok (holdsText value) := by
  have test : (Atom.test ⟨⟨segments⟩, false, "string"⟩).eval env =
      .ok (.bool (holdsText value)) := by
    rw [Atom.eval, Test.holds, h]
    cases value <;> rfl
  rw [Expr.isText, Expr.holds, Operand.holds, test]
  · rfl
  · intro _ same
    cases same

theorem holds_reference {env : Env} {segments : List String} {value : Value}
    (h : env.lookup ⟨segments⟩ = some value) :
    (Expr.reference segments).holds env = .ok value.isTruthy := by
  rw [Expr.reference, Expr.holds, Operand.holds, Atom.eval, h]
  simp [bind, Except.bind, applyFilters, truthOf]

theorem lookup_ctx (fields : List (String × Value)) (field : String) :
    (Env.ofGlobals [("ctx", .record fields)]).lookup ⟨["ctx", field]⟩ = fields.lookup field := by
  simp [Env.ofGlobals, Env.lookup, Scope.lookup, lookupIn, Value.at?, Value.part?]

/-- Inside a loop over sections, the section of the current pass is seen. -/
theorem lookup_section {env : Env} {s : ShownSection} {index count : Nat} {field : String}
    {value : Value} (h : s.value.part? field = some value) :
    (env.enter ⟨"section", s.value, index, count⟩).lookup ⟨["section", field]⟩ = some value := by
  simp [Env.enter, Env.lookup, Scope.lookup, LoopPass.lookup, lookupIn, Value.at?, List.lookup, h]

/-- Passes that all succeed, whatever their number, give the texts of the items in order. -/
private theorem mapM_passes {ε α β γ : Type} {pass : β × Nat → Except ε γ} {value : α → β}
    {text : α → γ} {l : List α} (h : ∀ a ∈ l, ∀ index, pass (value a, index) = .ok (text a))
    (start : Nat) : ((l.map value).zipIdx start).mapM pass = .ok (l.map text) := by
  induction l generalizing start with
  | nil => rfl
  | cons a l ih =>
    have rest := ih (fun b hb => h b (by simp [hb])) (start + 1)
    rw [List.map_cons, List.zipIdx_cons, List.mapM_cons, h a (by simp), rest]
    rfl

/-- One pass through a loop over sections shows the section's block. -/
theorem shows_section (env : Env) (s : ShownSection) (index count : Nat) :
    Shows (env.enter ⟨"section", s.value, index, count⟩)
      [.text "\n", .output (.reference ["section", "heading"]), .text ":\n",
        .output (.reference ["section", "body"]), .text "\n"] (block s.heading s.body) := by
  have heading := render_output
    (@lookup_section env s index count "heading" (.text s.heading) rfl)
  have body := render_output (@lookup_section env s index count "body" (.text s.body) rfl)
  have shown := shows_cons (render_text _ "\n") <| shows_cons heading <|
    shows_cons (render_text _ ":\n") <| shows_cons body <|
    shows_cons (render_text _ "\n") (shows_nil _)
  simpa [block, String.append_assoc] using shown

/-- A loop over sections shows one block for each. -/
theorem render_sectionParts {env : Env} {field : String} {shown : List ShownSection}
    (h : env.lookup ⟨["ctx", field]⟩ = some (.list (shown.map ShownSection.value))) :
    Part.render env (sectionParts field) =
      .ok (String.join (shown.map fun s => block s.heading s.body), env) := by
  have items : Operand.eval env ⟨.reference ⟨["ctx", field]⟩, []⟩ =
      .ok (.list (shown.map ShownSection.value)) := by
    rw [Operand.eval, Atom.eval, h]
    simp [bind, Except.bind, applyFilters]
  rw [sectionParts, Part.render, items]
  simp only [Atom.loopName, itemsOf, bind, Except.bind]
  -- Without sections the loop shows its other branch, which is empty too.
  split
  next empty =>
    have none : shown = [] := by simpa using empty
    rw [renderParts, none]
    rfl
  · rw [mapM_passes fun s (_ : s ∈ shown) index =>
      show _ = Except.ok (block s.heading s.body) by
        have pass := shows_section env s index (shown.map ShownSection.value).length
        rw [Shows] at pass
        rw [pass]
        rfl]

/-! ### Prompts -/

/-- The variables of a prompt, in the environment in which its template starts. -/
def startEnv (d : Document) (category : Category) (language : String) (fallback : Bool) : Env :=
  .ofGlobals (bindings d category language fallback)

variable (d : Document) (category : Category) (language : String) (fallback : Bool)

theorem block_requiredShown :
    String.join ((requiredShown d category).map fun s => block s.heading s.body) =
      requiredText d category := by
  rw [requiredText, requiredShown, List.map_map]
  refine congrArg String.join (List.map_congr_left fun s _ => ?_)
  rw [Function.comp_apply, section?_eq]
  cases spelled d s.title <;> rfl

theorem styledBody_eq (style : BodyStyle) (body : String) :
    styledBody style body = if style = .items then itemized body else body := by
  cases style with
  | verbatim => rfl
  | items => cases h : listItems body <;> simp [styledBody, itemized, h]

theorem block_optionalShown :
    String.join ((optionalShown d category).map fun s => block s.heading s.body) =
      optionalText d category := by
  simp only [optionalText, optionalShown, styledBody_eq, section?_eq]
  induction category.optionalSections with
  | nil => rfl
  | cons s sections ih =>
    cases h : spelled d s.title with
    | nil => simpa [h] using ih
    | cons body bodies => simp [h, ih]

/-- The value of a variable of the prompt. -/
private theorem lookup_start (field : String) {value : Value}
    (h : ((bindings d category language fallback).lookup "ctx").bind (·.part? field) = some value) :
    (startEnv d category language fallback).lookup ⟨["ctx", field]⟩ = some value :=
  (lookup_ctx _ field).trans h

/-- What a template shows for a document without a reference implementation. -/
private theorem render_stock :
    Part.render (startEnv d category language fallback)
      (.branch (.reference ["ctx", "reference_fallback"])
        [.text referenceHeading, .text ("\n".intercalate (stock category)), .text "\n"] []) =
      .ok (if fallback then referenceHeading ++ "\n".intercalate (stock category) ++ "\n" else "",
        startEnv d category language fallback) := by
  have asked := lookup_start d category language fallback "reference_fallback" rfl
  rw [render_branch (holds_reference asked), Value.isTruthy]
  split
  · have shown := shows_cons (render_text (startEnv d category language fallback) referenceHeading)
      (shows_cons (render_text _ ("\n".intercalate (stock category)))
      (shows_cons (render_text _ "\n") (shows_nil _)))
    rw [String.append_assoc]
    exact shown
  · exact shows_nil _

/-- The last part of a template shows the reference implementation, the stock one, or nothing. -/
theorem render_referenceParts :
    Part.render (startEnv d category language fallback) (referenceParts (stock category)) =
      .ok (referenceText d category fallback, startEnv d category language fallback) := by
  have reference := lookup_start d category language fallback "reference" rfl
  rw [section?_eq] at reference
  rw [referenceParts, render_branch (holds_isText reference), referenceText]
  cases h : spelled d referenceTitle with
  -- Even an empty section is a text, so the first branch is taken.
  | cons body bodies =>
    rw [h] at reference
    have shown := shows_cons (render_text _ referenceHeading) (shows_cons (render_output reference)
      (shows_cons (render_text _ "\n") (shows_nil _)))
    simp only [String.append_assoc]
    exact shown
  | nil =>
    have shown := shows_cons (render_stock d category language fallback) (shows_nil _)
    rw [String.append_empty] at shown
    exact shown

/-- A template opens with the request and the fields. -/
theorem shows_opening {rest : String} {parts : List Part}
    (later : Shows (startEnv d category language fallback) parts rest) :
    Shows (startEnv d category language fallback)
      (opening (request category) ++ .text "\n" :: parts)
      (openingText d category language ++ rest) := by
  have shown (field : String) {s : String} {parts : List Part} {rest : String}
      (h : ((bindings d category language fallback).lookup "ctx").bind (·.part? field) =
        some (.text s))
      (later : Shows (startEnv d category language fallback) parts rest) :
      Shows (startEnv d category language fallback) (Prompt.shown field :: parts) (s ++ rest) :=
    shows_cons (render_output (lookup_start d category language fallback field h)) later
  -- The template's texts run over the ends of lines.
  have name : " com as seguintes especificações:\n\nNome: " =
    " com as seguintes especificações:\n\n" ++ "Nome: " := by simp
  have version : "\nVersão: " = "\n" ++ "Versão: " := by simp
  have author : "\nAutor: " = "\n" ++ "Autor: " := by simp
  have kind : "\nTipo: " = "\n" ++ "Tipo: " := by simp
  have all := shows_cons (render_text _ ("Por favor, gere " ++ request category ++ " em ")) <|
    shown "language" rfl <|
    shows_cons (render_text _ (" com as seguintes especificações:\n\n" ++ "Nome: ")) <|
    shown "name" rfl <| shows_cons (render_text _ ("\n" ++ "Versão: ")) <|
    shown "version" rfl <| shows_cons (render_text _ ("\n" ++ "Autor: ")) <|
    shown "author" rfl <| shows_cons (render_text _ ("\n" ++ "Tipo: ")) <|
    shown "kind" rfl <| shows_cons (render_text _ "\n") later
  -- The variables hold the fields as they are looked up.
  rw [displayName, getD_field? d rfl, getD_field? d rfl, getD_field? d rfl, getD_field? d rfl] at all
  unfold opening openingText
  rw [name, version, author, kind]
  -- Matching a long literal against a concatenation is slow.
  generalize " com as seguintes especificações:\n\n" = sentence at all ⊢
  simp only [String.append_assoc] at all ⊢
  exact all

/-- The built-in template of every category renders every document, to its text. -/
theorem render_builtin_eq :
    render (builtin category) (bindings d category language fallback) =
      .ok (promptText d category language fallback) := by
  have required : Part.render (startEnv d category language fallback) (sectionParts "sections") =
      .ok (requiredText d category, startEnv d category language fallback) := by
    rw [← block_requiredShown]
    exact render_sectionParts (lookup_start d category language fallback "sections" rfl)
  have optional : Part.render (startEnv d category language fallback) (sectionParts "extras") =
      .ok (optionalText d category, startEnv d category language fallback) := by
    rw [← block_optionalShown]
    exact render_sectionParts (lookup_start d category language fallback "extras" rfl)
  have sections := shows_cons optional
    (shows_cons (render_referenceParts d category language fallback) (shows_nil _))
  -- Only the template for components has the remarks.
  have remarked : Shows (startEnv d category language fallback)
      ((if category = .component then [Part.text remarks] else []) ++
        [sectionParts "extras", referenceParts (stock category)])
      ((if category = .component then remarks else "") ++
        (optionalText d category ++ (referenceText d category fallback ++ ""))) := by
    split
    · exact shows_cons (render_text _ remarks) sections
    · rw [String.empty_append]
      exact sections
  have shown := shows_opening d category language fallback
    (shows_cons required remarked)
  rw [← builtin_eq, Shows] at shown
  rw [render, show Env.ofGlobals (bindings d category language fallback) =
    startEnv d category language fallback from rfl, shown]
  simp only [bind, Except.bind, promptText, String.append_assoc, String.append_empty]

/-- The built-in templates, as their texts are read, render every document to its text without the
blanks at its end. -/
theorem renderPrompt_builtin (settings : Settings) (scanner : Scanner) (d : Document)
    (language : String) (category : Category) :
    parse? (templateText category) = some (builtin category) ∧
      ((⟨settings, scanner, builtin⟩ : Compiler).renderPrompt category language d).result =
        .ok (Text.trimEnd (promptText d category language settings.referenceFallback)) := by
  refine ⟨parse?_templateText category, ?_⟩
  rw [Compiler.renderPrompt]
  simp only [render_builtin_eq]
  rfl

end SpecPrompt.Prompt
