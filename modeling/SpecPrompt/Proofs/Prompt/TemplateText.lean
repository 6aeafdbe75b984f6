import Mathlib
import SpecPrompt.Prompt.Builtin
import SpecPrompt.Proofs.Text.Lines
import SpecPrompt.Template.Parse

/-!
# The built-in templates as written

The text of each built-in template, as stretches of plain text that each end in a tag, and the parts
that such a text is read as.

## Main result

`parse?_templateText`: the text of a built-in template is read as its parts.
-/

namespace SpecPrompt.Prompt

open Template

/-! ### The texts -/

/-- What a prompt of the category asks for. -/
def request : Category → String
  | .component => "um componente"
  | .entity => "uma entidade"
  | .interface => "uma interface"
  | .test => "testes"

/-- The lines of the stock implementation of a category. -/
def stock : Category → List String
  | .component => componentStock
  | .entity => entityStock
  | .interface => interfaceStock
  | .test => testStock

/-- Some plain text and the tag that ends it. -/
structure Stretch where
  plain : String
  tag : String

/-- The request and the fields. -/
def openingStretches (what : String) : List Stretch :=
  [⟨"Por favor, gere " ++ what ++ " em ", "\x7b\x7b ctx.language \x7d\x7d"⟩,
   ⟨" com as seguintes especificações:\n\nNome: ", "\x7b\x7b ctx.name \x7d\x7d"⟩,
   ⟨"\nVersão: ", "\x7b\x7b ctx.version \x7d\x7d"⟩,
   ⟨"\nAutor: ", "\x7b\x7b ctx.author \x7d\x7d"⟩,
   ⟨"\nTipo: ", "\x7b\x7b ctx.kind \x7d\x7d"⟩]

/-- A loop over sections, given the text before it and its first tag. -/
def sectionStretches (plain tag : String) : List Stretch :=
  [⟨plain, tag⟩, ⟨"\n", "\x7b\x7b section.heading \x7d\x7d"⟩,
   ⟨":\n", "\x7b\x7b section.body \x7d\x7d"⟩, ⟨"\n", "\x7b% endfor %\x7d"⟩]

/-- The loop over the optional sections. Prompts for components have remarks before it; in the other
templates the end of the line before it is cut. -/
def extrasStretches : Category → List Stretch
  | .component => sectionStretches remarks "\x7b% for section in ctx.extras %\x7d"
  | _ => sectionStretches "\n" "\x7b%- for section in ctx.extras %\x7d"

/-- The reference implementation, with a stock of the given lines. -/
def referenceStretches (stock : List String) : List Stretch :=
  [⟨"\n", "\x7b%- if ctx.reference is string %\x7d"⟩,
   ⟨"\nImplementação de Referência:\n", "\x7b\x7b ctx.reference \x7d\x7d"⟩,
   ⟨"\n", "\x7b% elif ctx.reference_fallback %\x7d"⟩,
   ⟨"\nImplementação de Referência:\n",
    "\x7b% raw %\x7d" ++ "\n".intercalate stock ++ "\x7b% endraw %\x7d"⟩,
   ⟨"\n", "\x7b% endif -%\x7d"⟩]

/-- The stretches of the built-in template of a category. -/
def templateStretches (category : Category) : List Stretch :=
  openingStretches (request category) ++
    sectionStretches "\n" "\x7b% for section in ctx.sections %\x7d" ++ extrasStretches category ++
    referenceStretches (stock category)

/-- The characters of some stretches and the end of the last line. -/
def charsOf (stretches : List Stretch) : List Char :=
  stretches.flatMap (fun s => s.plain.toList ++ s.tag.toList) ++ ['\n']

/-- The text of the built-in template of a category. -/
def templateText (category : Category) : String :=
  .ofList (charsOf (templateStretches category))

/-! ### Cutting a text into pieces -/

/-- Whatever follows, `tag` is read as `piece`. -/
structure Reads (bound : Nat) (tag : String) (piece : Piece) : Prop where
  opens : opensTag tag.toList
  read (rest : List Char) : Piece.read bound (tag.toList ++ rest) = some (piece, rest)

/-- The plain text is no tag and is not empty, and the tag is read as `piece`. -/
structure Stretch.ReadAs (bound : Nat) (s : Stretch) (piece : Piece) : Prop where
  noBrace : '\x7b' ∉ s.plain.toList
  nonempty : s.plain ≠ ""
  tag : Reads bound s.tag piece

private theorem opensTag_append {tag : List Char} (h : opensTag tag) (rest : List Char) :
    ∃ c cs, tag = c :: cs ∧ opensTag (c :: (cs ++ rest)) := by
  unfold opensTag at h
  split at h
  next c cs => exact ⟨'\x7b', c :: cs, rfl, by simpa [opensTag] using h⟩
  next => cases h

/-- A step over a character that is no brace only stores it. -/
private theorem piecesWithin_plain {bound : Nat} {plain : List Char} (noBrace : '\x7b' ∉ plain)
    (fuel : Nat) (text : List Char) (pieces : List Piece) (rest : List Char) :
    piecesWithin bound (fuel + plain.length) text pieces (plain ++ rest) =
      piecesWithin bound fuel (plain.reverse ++ text) pieces rest := by
  induction plain generalizing text with
  | nil => rfl
  | cons c plain ih =>
    rw [List.mem_cons, not_or] at noBrace
    have shut : opensTag (c :: (plain ++ rest)) = false := by
      unfold opensTag
      split
      next same => exact absurd (List.cons.inj same).1.symm noBrace.1
      next => rfl
    rw [List.length_cons, ← Nat.add_assoc, List.cons_append, piecesWithin, shut]
    simp only [Bool.false_eq_true, if_false]
    rw [ih noBrace.2, List.reverse_cons, List.append_assoc, List.singleton_append]

/-- A step over a tag stores the text before it and its piece. -/
private theorem piecesWithin_tag {bound : Nat} {tag : String} {piece : Piece}
    (h : Reads bound tag piece) (fuel : Nat) {text : List Char} (nonempty : text ≠ [])
    (pieces : List Piece) (rest : List Char) :
    piecesWithin bound (fuel + 1) text pieces (tag.toList ++ rest) =
      piecesWithin bound fuel [] (piece :: .markup (.text text.reverse) :: pieces) rest := by
  have read := h.read rest
  obtain ⟨c, cs, same, opens⟩ := opensTag_append h.opens rest
  rw [same, List.cons_append] at read ⊢
  have held : text.isEmpty = false := by simpa using nonempty
  rw [piecesWithin, opens, if_pos rfl, read]
  simp only [piecesWithin.endText, held, Bool.false_eq_true, if_false]

/-- The pieces of some stretches, given the pieces of their tags. -/
def stretchPieces (stretches : List Stretch) (tags : List Piece) : List Piece :=
  (stretches.zip tags).flatMap fun (s, piece) => [.markup (.text s.plain.toList), piece]

/-- Stretches are cut into their texts and the pieces of their tags, by the stretch. -/
private theorem piecesWithin_stretches {bound : Nat} {stretches : List Stretch} {tags : List Piece}
    (h : List.Forall₂ (Stretch.ReadAs bound) stretches tags) {fuel : Nat}
    (enough : (charsOf stretches).length ≤ fuel) (pieces : List Piece) :
    piecesWithin bound fuel [] pieces (charsOf stretches) =
      some (pieces.reverse ++ stretchPieces stretches tags ++ [.markup (.text ['\n'])]) := by
  induction h generalizing fuel pieces with
  -- The line feed at the end is the last text.
  | nil =>
    obtain ⟨fuel, rfl⟩ : ∃ n, fuel = n + 1 := ⟨fuel - 1, by simp [charsOf] at enough; omega⟩
    have shut : opensTag ['\n'] = false := rfl
    simp [charsOf, piecesWithin, shut, piecesWithin.endText, stretchPieces]
  | @cons s piece stretches tags first _ ih =>
    have split : charsOf (s :: stretches) =
        s.plain.toList ++ (s.tag.toList ++ charsOf stretches) := by
      simp [charsOf, List.append_assoc]
    have room : 0 < s.tag.toList.length := by
      obtain ⟨c, cs, same, _⟩ := opensTag_append first.tag.opens []
      simp [same]
    have filled : s.plain.toList.reverse ++ [] ≠ [] := by simpa using first.nonempty
    -- One step of fuel for each character of the text, and one for the tag.
    rw [split, List.length_append, List.length_append] at enough
    obtain ⟨left, rfl⟩ : ∃ n, fuel = n + 1 + s.plain.toList.length :=
      ⟨fuel - 1 - s.plain.toList.length, by omega⟩
    rw [split, piecesWithin_plain first.noBrace, piecesWithin_tag first.tag _ filled,
      ih (by omega)]
    simp [stretchPieces]

/-! ### Raw text -/

private theorem orElse_of_none {α : Type} {first second : Reader α} {cs : List Char}
    (h : first cs = none) : (first <|> second) cs = second cs := by
  change Option.orElse (first cs) _ = _
  rw [h]
  rfl

private theorem orElse_of_some {α : Type} {first second : Reader α} {cs : List Char}
    {x : α × List Char} (h : first cs = some x) : (first <|> second) cs = some x := by
  change Option.orElse (first cs) _ = _
  rw [h]
  rfl

private theorem bind_of_some {α β : Type} {first : Reader α} {next : α → Reader β}
    {cs rest : List Char} {a : α} (h : first cs = some (a, rest)) :
    (first >>= next) cs = next a rest := by
  change Option.bind (first cs) _ = _
  rw [h]
  rfl

private theorem bind_of_none {α β : Type} {first : Reader α} {next : α → Reader β}
    {cs : List Char} (h : first cs = none) : (first >>= next) cs = none := by
  change Option.bind (first cs) _ = _
  rw [h]
  rfl

private theorem finish_eq_none {c c' : Char} (h : c' ≠ '%') (cs : List Char) :
    readRawAfter.finish (c :: c' :: cs) = none := by
  have opening : Reader.literal ['\x7b', '%'] (c :: c' :: cs) = none := by
    simp [Reader.literal, List.isPrefixOf?, h.symm]
  exact bind_of_none opening

/-- The end of raw text is not seen inside its content, which has no percent sign. -/
private theorem readRawAfter_content {content : List Char} (plain : '%' ∉ content)
    (before rest : List Char) :
    readRawAfter before (content ++ ("\x7b% endraw %\x7d".toList ++ rest)) =
      some ((before.reverse ++ content, ⟨false, false⟩), rest) := by
  induction content generalizing before with
  | nil =>
    have finish : readRawAfter.finish ('\x7b' :: ("% endraw %\x7d".toList ++ rest)) =
        some (⟨false, false⟩, rest) := by cbv
    rw [List.nil_append, List.append_nil]
    change readRawAfter before ('\x7b' :: ("% endraw %\x7d".toList ++ rest)) = _
    rw [readRawAfter, finish]
  | cons c content ih =>
    rw [List.mem_cons, not_or] at plain
    -- The character after `c` is one of the content, or the brace of the tag.
    have inside : readRawAfter.finish
        (c :: (content ++ ("\x7b% endraw %\x7d".toList ++ rest))) = none := by
      cases content with
      | nil => exact finish_eq_none (by decide) _
      | cons c' content =>
        rw [List.mem_cons, not_or] at plain
        exact finish_eq_none (Ne.symm plain.2.1) _
    rw [List.cons_append, readRawAfter, inside]
    have rest := ih plain.2 (c :: before)
    rw [List.reverse_cons, List.append_assoc, List.singleton_append] at rest
    exact rest

/-- Raw text without a percent sign is one tag. -/
private theorem reads_raw (bound : Nat) {content : String} (plain : '%' ∉ content.toList) :
    Reads bound ("\x7b% raw %\x7d" ++ content ++ "\x7b% endraw %\x7d")
      (.markup (.raw ⟨false, false⟩ content.toList ⟨false, false⟩)) := by
  refine ⟨?_, fun rest => ?_⟩
  · rw [String.toList_append, String.toList_append]
    rfl
  · have whole := readRawAfter_content plain [] rest
    generalize within : content.toList ++ ("\x7b% endraw %\x7d".toList ++ rest) = cs at whole
    have opened : Reader.literal ['\x7b', '%'] ("\x7b% raw %\x7d".toList ++ cs) =
        some ((), " raw %\x7d".toList ++ cs) := rfl
    have start : readInside '%' (Reader.literal "raw".toList) (" raw %\x7d".toList ++ cs) =
        some ((⟨false, false⟩, ()), cs) := by cbv
    have raw : readRaw (" raw %\x7d".toList ++ cs) =
        some (.raw ⟨false, false⟩ content.toList ⟨false, false⟩, rest) :=
      (bind_of_some start).trans (bind_of_some whole)
    rw [String.toList_append, String.toList_append, List.append_assoc, List.append_assoc, within]
    unfold Piece.read
    rw [orElse_of_none, orElse_of_none, bind_of_some opened, orElse_of_some]
    · exact bind_of_some raw
    · rfl
    · rfl

/-! ### The pieces of the templates -/

/-- The tag that shows a variable. -/
private def output (segments : List String) : Markup :=
  .output ⟨false, false⟩ (.reference segments)

/-- The pieces of the tags in each group of stretches. -/
private def openingTags : List Piece :=
  [.markup (output ["ctx", "language"]), .markup (output ["ctx", "name"]),
   .markup (output ["ctx", "version"]),
   .markup (output ["ctx", "author"]), .markup (output ["ctx", "kind"])]

private def sectionTags (dash : Bool) (field : String) : List Piece :=
  [.forTag ⟨dash, false⟩ "section" ⟨.reference ⟨["ctx", field]⟩, []⟩,
   .markup (output ["section", "heading"]), .markup (output ["section", "body"]),
   .endforTag ⟨false, false⟩]

private def referenceTags (stock : List String) : List Piece :=
  [.ifTag ⟨true, false⟩ (.isText ["ctx", "reference"]), .markup (output ["ctx", "reference"]),
   .elifTag ⟨false, false⟩ (.reference ["ctx", "reference_fallback"]),
   .markup (.raw ⟨false, false⟩ ("\n".intercalate stock).toList ⟨false, false⟩),
   .endifTag ⟨false, true⟩]

variable (n : Nat) (category : Category)

/-- Evaluating the characters of a long text is slow; as a list of characters it is not. -/
private theorem not_mem_toList_ofList {c : Char} {cs : List Char} (h : cs.all (· != c)) :
    c ∉ (String.ofList cs).toList := by
  rw [String.toList_ofList]
  intro inside
  simpa using List.all_eq_true.mp h c inside

private theorem not_brace_mem_request :
    '\x7b' ∉ ("Por favor, gere " ++ request category ++ " em ").toList := by
  cases category <;> decide_cbv

private theorem not_percent_mem_of_mem_stock : ∀ line ∈ stock category, '%' ∉ line.toList := by
  cases category <;>
    simp only [stock, componentStock, entityStock, interfaceStock, testStock, List.forall_mem_cons,
      List.not_mem_nil, false_implies, implies_true, and_true, String.toList_append,
      List.mem_append, not_or] <;>
    and_intros <;> exact not_mem_toList_ofList (by decide +kernel)

private theorem not_percent_mem_stock : '%' ∉ ("\n".intercalate (stock category)).toList := by
  intro inside
  rw [String.toList_intercalate] at inside
  rcases Chars.mem_of_mem_intercalate inside with between | ⟨text, listed, inside⟩
  · exact absurd between (by decide)
  · obtain ⟨line, kept, rfl⟩ := List.mem_map.mp listed
    exact not_percent_mem_of_mem_stock category line kept inside

private theorem reads_opening :
    List.Forall₂ (Stretch.ReadAs (n + 4)) (openingStretches (request category)) openingTags :=
  .cons ⟨not_brace_mem_request category, by simp, by decide_cbv, fun rest => by cbv⟩ <|
  .cons ⟨by decide_cbv, by simp, by decide_cbv, fun rest => by cbv⟩ <|
  .cons ⟨by decide_cbv, by simp, by decide_cbv, fun rest => by cbv⟩ <|
  .cons ⟨by decide_cbv, by simp, by decide_cbv, fun rest => by cbv⟩ <|
  .cons ⟨by decide_cbv, by simp, by decide_cbv, fun rest => by cbv⟩ .nil

private theorem reads_sectionLoop {plain tag : String} {dash : Bool} {field : String}
    (noBrace : '\x7b' ∉ plain.toList) (nonempty : plain ≠ "")
    (start : Reads (n + 4) tag
      (.forTag ⟨dash, false⟩ "section" ⟨.reference ⟨["ctx", field]⟩, []⟩)) :
    List.Forall₂ (Stretch.ReadAs (n + 4)) (sectionStretches plain tag) (sectionTags dash field) :=
  .cons ⟨noBrace, nonempty, start⟩ <|
  .cons ⟨by decide_cbv, by simp, by decide_cbv, fun rest => by cbv⟩ <|
  .cons ⟨by decide_cbv, by simp, by decide_cbv, fun rest => by cbv⟩ <|
  .cons ⟨by decide_cbv, by simp, by decide_cbv, fun rest => by cbv⟩ .nil

private theorem reads_referenceStretches :
    List.Forall₂ (Stretch.ReadAs (n + 4)) (referenceStretches (stock category))
      (referenceTags (stock category)) :=
  .cons ⟨by decide_cbv, by simp, by decide_cbv, fun rest => by cbv⟩ <|
  .cons ⟨by decide_cbv, by simp, by decide_cbv, fun rest => by cbv⟩ <|
  .cons ⟨by decide_cbv, by simp, by decide_cbv, fun rest => by cbv⟩ <|
  .cons ⟨by decide_cbv, by simp, reads_raw _ (not_percent_mem_stock category)⟩ <|
  .cons ⟨by decide_cbv, by simp, by decide_cbv, fun rest => by cbv⟩ .nil

/-- The pieces of the tags of a template. -/
private def templateTags (category : Category) : List Piece :=
  openingTags ++ sectionTags false "sections" ++ sectionTags (category != .component) "extras" ++
    referenceTags (stock category)

set_option maxRecDepth 2000 in
private theorem not_brace_mem_remarks : '\x7b' ∉ remarks.toList :=
  not_mem_toList_ofList (by decide +kernel)

private theorem remarks_ne : remarks ≠ "" := by
  simp [remarks]

private theorem reads_extras :
    List.Forall₂ (Stretch.ReadAs (n + 4)) (extrasStretches category)
      (sectionTags (category != .component) "extras") := by
  have cut : List.Forall₂ (Stretch.ReadAs (n + 4))
      (sectionStretches "\n" "\x7b%- for section in ctx.extras %\x7d")
      (sectionTags true "extras") :=
    reads_sectionLoop n (by decide_cbv) (by simp) ⟨by decide_cbv, fun rest => by cbv⟩
  cases category with
  | component =>
    exact reads_sectionLoop n not_brace_mem_remarks remarks_ne
      ⟨by decide_cbv, fun rest => by cbv⟩
  | entity => exact cut
  | interface => exact cut
  | test => exact cut

private theorem reads_template :
    List.Forall₂ (Stretch.ReadAs (n + 4)) (templateStretches category) (templateTags category) := by
  have sections : List.Forall₂ (Stretch.ReadAs (n + 4))
      (sectionStretches "\n" "\x7b% for section in ctx.sections %\x7d")
      (sectionTags false "sections") :=
    reads_sectionLoop n (by decide_cbv) (by simp) ⟨by decide_cbv, fun rest => by cbv⟩
  exact List.rel_append (List.rel_append (List.rel_append (reads_opening n category) sections)
    (reads_extras n category)) (reads_referenceStretches n category)

/-- A template is long enough for its tags to be read. -/
private theorem four_le_length : 4 ≤ (charsOf (templateStretches category)).length := by
  have first : 4 ≤ "Por favor, gere ".toList.length := by decide
  simp only [charsOf, templateStretches, openingStretches, List.cons_append, List.flatMap_cons,
    String.toList_append, List.append_assoc]
  rw [List.length_append]
  omega

/-- The pieces of the text of a built-in template. -/
private theorem piecesOf_templateText :
    piecesOf (charsOf (templateStretches category)) =
      some (stretchPieces (templateStretches category) (templateTags category) ++
        [Piece.markup (.text ['\n'])]) := by
  obtain ⟨n, size⟩ := Nat.exists_eq_add_of_le' (four_le_length category)
  have reads := reads_template n category
  rw [← size] at reads
  rw [piecesOf, piecesWithin_stretches reads (Nat.le_refl _)]
  -- A template opens with plain text, so no comment is dropped from its start.
  rfl

/-! ### The markup of the templates -/

private def openingMarkup (what : String) : List Markup :=
  [.text ("Por favor, gere " ++ what ++ " em ").toList, output ["ctx", "language"],
   .text " com as seguintes especificações:\n\nNome: ".toList, output ["ctx", "name"],
   .text "\nVersão: ".toList, output ["ctx", "version"],
   .text "\nAutor: ".toList, output ["ctx", "author"],
   .text "\nTipo: ".toList, output ["ctx", "kind"]]

private def sectionMarkup (plain : String) (dash : Bool) (field : String) : List Markup :=
  [.text plain.toList,
   .each ⟨dash, false⟩ "section" ⟨.reference ⟨["ctx", field]⟩, []⟩
     [.text "\n".toList, output ["section", "heading"], .text ":\n".toList,
      output ["section", "body"], .text "\n".toList] [] ⟨false, false⟩]

private def extrasMarkup : Category → List Markup
  | .component => sectionMarkup remarks false "extras"
  | _ => sectionMarkup "\n" true "extras"

private def referenceMarkup (stock : List String) : List Markup :=
  [.text "\n".toList,
   .branch ⟨true, false⟩
     [(⟨true, false⟩, .isText ["ctx", "reference"],
       [.text "\nImplementação de Referência:\n".toList, output ["ctx", "reference"],
        .text "\n".toList]),
      (⟨false, false⟩, .reference ["ctx", "reference_fallback"],
       [.text "\nImplementação de Referência:\n".toList,
        .raw ⟨false, false⟩ ("\n".intercalate stock).toList ⟨false, false⟩, .text "\n".toList])]
     none ⟨false, true⟩,
   .text ['\n']]

/-- The nested markup of a template. -/
private def templateMarkup (category : Category) : List Markup :=
  openingMarkup (request category) ++ sectionMarkup "\n" false "sections" ++
    extrasMarkup category ++ referenceMarkup (stock category)

private theorem foldlM_templatePieces :
    (stretchPieces (templateStretches category) (templateTags category) ++
        [Piece.markup (.text ['\n'])]).foldlM Nesting.add ⟨[], []⟩ =
      some ⟨(templateMarkup category).reverse, []⟩ := by
  cases category <;> rfl

private theorem textParts_toList {s : String} (h : s ≠ "") :
    Markup.textParts s.toList = [.text s] := by
  simp [Markup.textParts, h]

/-- A text between tags that do not cut it, and the variable after it. -/
private theorem partsBetween_output {s : String} (h : s ≠ "") (segments : List String)
    (rest : List Markup) :
    Markup.partsBetween false false false (.text s.toList :: output segments :: rest) =
      .text s :: .output (.reference segments) ::
        Markup.partsBetween false false false rest := by
  rw [output, Markup.partsBetween, Markup.partsBetween, Markup.parts]
  · change Markup.textParts s.toList ++ _ = _
    rw [textParts_toList h]
    rfl
  · intro _ same
    cases same

private theorem partsBetween_last {s : String} (h : s ≠ "") :
    Markup.partsBetween false false false [.text s.toList] = [.text s] := by
  rw [Markup.partsBetween]
  change Markup.textParts s.toList ++ _ = _
  rw [textParts_toList h]
  rfl

/-- What a text becomes before a tag that may have a dash. -/
private def textBefore (dash : Bool) (plain : String) : List Part :=
  Markup.textParts (Markup.cut false dash plain.toList)

private theorem textBefore_false {plain : String} (h : plain ≠ "") :
    textBefore false plain = [.text plain] :=
  textParts_toList h

private theorem textBefore_true_newline : textBefore true "\n" = [] := by cbv

/-- A loop over sections, and the text before it. -/
private theorem partsBetween_loop (plain : String) (dash : Bool) (field : String)
    (rest : List Markup) :
    Markup.partsBetween false false false (sectionMarkup plain dash field ++ rest) =
      textBefore dash plain ++
        sectionParts field :: Markup.partsBetween false false false rest := by
  have body : Markup.partsBetween false false false
      [.text "\n".toList, output ["section", "heading"], .text ":\n".toList,
        output ["section", "body"], .text "\n".toList] =
      [.text "\n", .output (.reference ["section", "heading"]), .text ":\n",
        .output (.reference ["section", "body"]), .text "\n"] := by
    rw [partsBetween_output (by simp), partsBetween_output (by simp), partsBetween_last (by simp)]
  rw [sectionMarkup, List.cons_append, List.cons_append, List.nil_append, Markup.partsBetween,
    Markup.partsBetween, Markup.parts, body]
  · rfl
  · intro _ same
    cases same

/-- The last tags of a template. The ends of the lines before and after them are cut. -/
private theorem partsBetween_reference {stock : List String} (h : "\n".intercalate stock ≠ "") :
    Markup.partsBetween false false false (referenceMarkup stock) = [referenceParts stock] := by
  have found : Markup.partsBetween false false false
      [.text "\nImplementação de Referência:\n".toList, output ["ctx", "reference"],
        .text "\n".toList] =
      [.text referenceHeading, shown "reference", .text "\n"] := by
    rw [partsBetween_output (by simp), partsBetween_last (by simp)]
    rfl
  have kept : Markup.partsBetween false false false
      [.text "\nImplementação de Referência:\n".toList,
        .raw ⟨false, false⟩ ("\n".intercalate stock).toList ⟨false, false⟩, .text "\n".toList] =
      [.text referenceHeading, .text ("\n".intercalate stock), .text "\n"] := by
    rw [Markup.partsBetween, Markup.partsBetween, Markup.parts]
    · change Markup.textParts "\nImplementação de Referência:\n".toList ++
        (Markup.textParts ("\n".intercalate stock).toList ++
          Markup.partsBetween false false false [.text "\n".toList]) = _
      rw [textParts_toList (by simp), textParts_toList h, partsBetween_last (by simp)]
      rfl
    · intro _ same
      cases same
  rw [referenceMarkup, Markup.partsBetween, Markup.partsBetween, Markup.parts,
    Markup.caseParts, Markup.caseParts, Markup.caseParts, found, kept, Markup.otherParts]
  · change textBefore true "\n" ++ _ = _
    have last : Markup.partsBetween false true false [.text ['\n']] = [] := by cbv
    rw [textBefore_true_newline]
    change _ ++ Markup.partsBetween false true false [.text ['\n']] = _
    rw [last]
    rfl
  · intro _ same
    cases same

private theorem partsBetween_opening (rest : List Markup) :
    Markup.partsBetween false false false (openingMarkup (request category) ++ rest) =
      opening (request category) ++ Markup.partsBetween false false false rest := by
  have asked : "Por favor, gere " ++ request category ++ " em " ≠ "" := by simp
  simp only [openingMarkup, List.cons_append, List.nil_append]
  rw [partsBetween_output asked, partsBetween_output (by simp), partsBetween_output (by simp),
    partsBetween_output (by simp), partsBetween_output (by simp)]
  rfl

/-- The templates differ in what they ask for, in the remarks, and in their stock. -/
theorem builtin_eq :
    builtin category = opening (request category) ++ Part.text "\n" :: sectionParts "sections" ::
      ((if category = .component then [Part.text remarks] else []) ++
        [sectionParts "extras", referenceParts (stock category)]) := by
  cases category <;> rfl

private theorem partsBetween_templateMarkup :
    Markup.partsBetween false false false (templateMarkup category) = builtin category := by
  have stocked : "\n".intercalate (stock category) ≠ "" := by
    obtain ⟨line, lines, same⟩ :
        ∃ line lines, stock category = "```typescript" :: line :: lines := by
      cases category <;> exact ⟨_, _, rfl⟩
    rw [same, String.intercalate_cons_cons]
    simp
  rw [templateMarkup, List.append_assoc, List.append_assoc, partsBetween_opening,
    partsBetween_loop, textBefore_false (by simp), builtin_eq]
  cases category with
  -- The remarks are kept whole; in the other templates a dash cuts the line before the loop.
  | component =>
    rw [extrasMarkup, partsBetween_loop, textBefore_false remarks_ne,
      partsBetween_reference stocked]
    rfl
  | entity =>
    rw [extrasMarkup, partsBetween_loop, textBefore_true_newline, partsBetween_reference stocked]
    · rfl
    · nofun
  | interface =>
    rw [extrasMarkup, partsBetween_loop, textBefore_true_newline, partsBetween_reference stocked]
    · rfl
    · nofun
  | test =>
    rw [extrasMarkup, partsBetween_loop, textBefore_true_newline, partsBetween_reference stocked]
    · rfl
    · nofun

/-- The text of a built-in template is read as its parts. -/
theorem parse?_templateText : parse? (templateText category) = some (builtin category) := by
  rw [parse?, templateText, String.toList_ofList, piecesOf_templateText]
  simp only [Option.bind_eq_bind, Option.bind_some]
  rw [foldlM_templatePieces]
  simp only [Option.bind_some, Nesting.close?, List.isEmpty_nil, if_true, List.reverse_reverse]
  rw [partsBetween_templateMarkup]

end SpecPrompt.Prompt
