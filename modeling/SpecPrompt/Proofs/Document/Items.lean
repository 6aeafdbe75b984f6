import SpecPrompt.Proofs.Document.RoundTrip
import SpecPrompt.Prompt.Variables

/-!
# Items, written and read again

A prompt shows the body of a list section as its items, one to a line, if it has any. That form is a normal
one: the items written there are the items read there, so nothing is lost by showing a body twice. It rests
on what an item is. A line gives one, without its blanks at the ends, so an item is trimmed and holds no
line feed; and every such text is an item of the line that it is written on, a text with a carriage return
inside and one that looks like a list line as well.

## Main result

`listItems_styledBody`: writing and reading items are inverse, and showing a body keeps its items and does
nothing the second time.
-/

namespace SpecPrompt

open Chars Prompt

/-! ### Items of lines -/

/-- A text that a list line can give. -/
structure IsItem (item : String) : Prop where
  trimmed : Text.trim item = item
  oneLine : '\n' ∉ item.toList

instance (item : String) : Decidable (IsItem item) :=
  decidable_of_iff (Text.trim item = item ∧ '\n' ∉ item.toList)
    ⟨fun h => ⟨h.1, h.2⟩, fun h => ⟨h.trimmed, h.oneLine⟩⟩

theorem listItem?_eq_some_iff {line item : List Char} :
    listItem? line = some item ↔ ∃ rest, line = "- ".toList ++ rest ∧ item = trim rest := by
  simp only [listItem?, Option.map_eq_some_iff, List.isPrefixOf?_eq_some_iff_append_eq]
  constructor
  · rintro ⟨rest, start, rfl⟩
    exact ⟨rest, start.symm, rfl⟩
  · rintro ⟨rest, start, rfl⟩
    exact ⟨rest, start.symm, rfl⟩

/-- A list line gives the same item without the carriage return at its end. -/
theorem listItem?_dropReturn (line : List Char) : listItem? (dropReturn line) = listItem? line := by
  rcases dropReturn_cases line with same | cut
  · rw [same]
  · ext item
    simp only [listItem?_eq_some_iff]
    constructor
    · rintro ⟨rest, start, rfl⟩
      refine ⟨rest ++ ['\r'], ?_, (trim_append_blanks (allBlank_singleton rfl)).symm⟩
      rw [cut, start, List.append_assoc]
    · rintro ⟨rest, start, rfl⟩
      refine ⟨dropReturn rest, ?_, (trim_dropReturn rest).symm⟩
      rw [start, dropReturn_append (by decide)]

/-- Items can be read between line feeds: neither a carriage return nor an empty last line matters. -/
theorem listItems_eq (body : String) :
    listItems body =
      (body.toList.splitOn '\n').filterMap fun line => (listItem? line).map String.ofList := by
  obtain ⟨ls, last, pieces, whole⟩ := exists_lines_eq body.toList
  rw [listItems, whole, pieces, List.filterMap_append, List.filterMap_append, List.filterMap_map]
  have kept : ls.filterMap ((fun line => (listItem? line).map String.ofList) ∘ dropReturn) =
      ls.filterMap fun line => (listItem? line).map String.ofList :=
    List.filterMap_congr fun line _ => by rw [Function.comp_apply, listItem?_dropReturn]
  rw [kept]
  split
  next empty => rw [empty]; rfl
  · rfl

theorem isItem_of_mem_listItems {body item : String} (h : item ∈ listItems body) : IsItem item := by
  rw [listItems_eq, List.mem_filterMap] at h
  obtain ⟨line, listed, given⟩ := h
  obtain ⟨text, found, rfl⟩ := Option.map_eq_some_iff.mp given
  obtain ⟨rest, rfl, rfl⟩ := listItem?_eq_some_iff.mp found
  constructor
  · rw [trim_eq_iff, String.toList_ofList, trim_trim]
  · rw [String.toList_ofList]
    exact fun inside => not_mem_of_mem_splitOn listed (by simp [mem_of_mem_trim inside])

/-! ### Items as lines -/

/-- The items on lines of their own. -/
def itemLines (items : List String) : String :=
  "\n".intercalate (items.map fun item => "- " ++ item)

theorem listItems_itemLines {items : List String} (h : ∀ item ∈ items, IsItem item) :
    listItems (itemLines items) = items := by
  rcases eq_or_ne items [] with rfl | more
  · rfl
  · have oneLine : ∀ line ∈ items.map fun item => "- ".toList ++ item.toList, '\n' ∉ line := by
      intro line listed
      obtain ⟨item, member, rfl⟩ := List.mem_map.mp listed
      simpa using (h item member).oneLine
    have written : (itemLines items).toList =
        ['\n'].intercalate (items.map fun item => "- ".toList ++ item.toList) := by
      rw [itemLines, String.toList_intercalate, List.map_map]
      simp [Function.comp_def]
    -- Each line is cut off where it was put on, and gives the item that it was made from.
    rw [listItems_eq, written, List.splitOn_intercalate '\n' oneLine (by simpa using more),
      List.filterMap_map, List.filterMap_congr (g := Option.some), List.filterMap_some]
    intro item member
    have given : listItem? ("- ".toList ++ item.toList) = some item.toList :=
      listItem?_eq_some_iff.mpr ⟨_, rfl, (trim_eq_iff.mp (h item member).trimmed).symm⟩
    rw [Function.comp_apply, given, Option.map_some, String.ofList_toList]

/-! ### Bodies as prompts show them -/

theorem styledBody_items {body : String} (filled : listItems body ≠ []) :
    styledBody .items body = itemLines (listItems body) := by
  unfold styledBody itemLines
  split
  next verbatim => cases verbatim
  next empty => exact absurd empty filled
  · rfl

/-- A body stays as it is, or is replaced by its items. -/
theorem styledBody_cases (style : BodyStyle) (body : String) :
    styledBody style body = body ∨
      style = .items ∧ listItems body ≠ [] ∧ styledBody style body = itemLines (listItems body) := by
  cases style with
  | verbatim => exact .inl rfl
  | items =>
    by_cases empty : listItems body = []
    · left
      unfold styledBody
      rw [empty]
    · exact .inr ⟨rfl, empty, styledBody_items empty⟩

/-- Items that are written on lines are read there exactly if they are ones. All items that a body gives
are, so a body shown as its items has the same items, and is shown the same way again. -/
theorem listItems_styledBody :
    (∀ items, listItems (itemLines items) = items ↔ ∀ item ∈ items, IsItem item) ∧
      (∀ body, ∀ item ∈ listItems body, IsItem item) ∧
      ∀ style body, listItems (styledBody style body) = listItems body ∧
        styledBody style (styledBody style body) = styledBody style body := by
  have sound : ∀ body, ∀ item ∈ listItems body, IsItem item :=
    fun _ _ listed => isItem_of_mem_listItems listed
  refine ⟨fun items => ⟨fun same => ?_, listItems_itemLines⟩, sound, fun style body => ?_⟩
  · rw [← same]
    exact sound (itemLines items)
  · rcases styledBody_cases style body with same | ⟨rfl, filled, shown⟩
    · rw [same]
      exact ⟨rfl, same⟩
    · have items : listItems (itemLines (listItems body)) = listItems body :=
        listItems_itemLines (sound body)
      rw [shown]
      exact ⟨items, by rw [styledBody_items (by rwa [items]), items]⟩

/-- An empty item, one with a carriage return inside, and one that looks like a list line. -/
theorem listItems_styledBody_mixed :
    (∀ item ∈ ["", "a\rb", "- c"], IsItem item) ∧
      listItems (itemLines ["", "a\rb", "- c"]) = ["", "a\rb", "- c"] ∧
      IsItem "x" ∧
      styledBody .items (styledBody .items "- x \r\nprose\n  - y\n-  z") =
        styledBody .items "- x \r\nprose\n  - y\n-  z" := by
  have items : ∀ item ∈ ["", "a\rb", "- c"], IsItem item := by decide
  refine ⟨items, (listItems_styledBody.1 _).mpr items, ?_, (listItems_styledBody.2.2 _ _).2⟩
  exact listItems_styledBody.2.1 "- x \r\nprose\n  - y\n-  z" "x" (by decide)

end SpecPrompt
