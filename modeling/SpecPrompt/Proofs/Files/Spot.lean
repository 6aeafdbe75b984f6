import SpecPrompt.Proofs.Files.Walking

/-!
# The spots that paths name

Where no link is in the way, the place to which a path leads can be read off its text: a name goes
one step down, `..` one step up, and `.` nowhere. This place is the path's spot.

The spot of a path is that of its components, so it can be told for the paths that are made from
others: what has another file name lies beside the file, and a parent lies above it.

## Main results

- `spot_eq`: the spot of a path by its components.
- `exists_parent?`: a parent has the components of its child but the last.
- `spot_withExtension`, `spot_withFileName`: a path with another file name.
-/

namespace SpecPrompt

/-! ### Following names -/

/-- The location that one name leads to. -/
def enter (loc : Location) (name : String) : Location :=
  if name = "." then loc else if name = ".." then loc.dropLast else loc ++ [name]

/-- The location that names lead to, one after another. -/
def resolve (loc : Location) (names : List String) : Location :=
  names.foldl enter loc

@[simp] theorem resolve_nil (loc : Location) : resolve loc [] = loc := rfl

@[simp] theorem resolve_cons (loc : Location) (name : String) (names : List String) :
    resolve loc (name :: names) = resolve (enter loc name) names := rfl

theorem resolve_append (loc : Location) (names rest : List String) :
    resolve loc (names ++ rest) = resolve (resolve loc names) rest :=
  List.foldl_append

theorem enter_of_ne {name : String} (notHere : name ≠ ".") (notUp : name ≠ "..")
    (loc : Location) : enter loc name = loc ++ [name] := by
  rw [enter, if_neg notHere, if_neg notUp]

theorem length_enter (loc : Location) (name : String) : loc.length ≤ (enter loc name).length + 1 := by
  unfold enter
  split
  · omega
  split
  · simp only [List.length_dropLast]
    omega
  · simp only [List.length_append]
    omega

/-- The location that a path names, seen from `here`, if no link is in the way. -/
def Path.spot (p : Path) (here : Location) : Location :=
  resolve (startOf here p.text) (namesOf p.text.toList)

/-! ### Names and components -/

/-- The names that the components among some pieces stand for. -/
def componentNames (pieces : List (List Char)) : List String :=
  (pieces.filter Path.isComponent).map String.ofList

theorem componentNames_append (pieces more : List (List Char)) :
    componentNames (pieces ++ more) = componentNames pieces ++ componentNames more := by
  simp [componentNames]

theorem componentNames_singleton {piece : List Char} (h : Path.isComponent piece = true) :
    componentNames [piece] = [String.ofList piece] := by
  simp [componentNames, h]

theorem resolve_filter (loc : Location) (names : List String) :
    resolve loc (names.filter (· != ".")) = resolve loc names := by
  induction names generalizing loc with
  | nil => rfl
  | cons name names ih =>
    by_cases dot : name = "."
    · subst dot
      exact ih loc
    · rw [List.filter_cons_of_pos (by simpa using dot)]
      exact ih (enter loc name)

theorem filter_namesOf_intercalate {pieces : List (List Char)} (h : ∀ piece ∈ pieces, '/' ∉ piece) :
    (namesOf (['/'].intercalate pieces)).filter (· != ".") = componentNames pieces := by
  rcases eq_or_ne pieces [] with rfl | more
  · rfl
  rw [namesOf, List.splitOn_intercalate '/' h more, List.filter_map, List.filter_filter]
  refine congrArg (List.map String.ofList) (List.filter_congr fun piece _ => ?_)
  have dot : String.ofList piece = "." ↔ piece = ['.'] := by
    rw [← String.toList_inj, String.toList_ofList]
    rfl
  rw [Path.isComponent, Bool.eq_iff_iff]
  simp [dot, and_comm]

namespace Path

variable {p : Path}

/-! ### Spelling a path -/

/-- From where a path with the given lead starts. -/
def Lead.start (here : Location) : Lead → Location
  | .root => []
  | .here | .none => here

/-- Whether the pieces after a lead leave it the lead that it is. -/
def Fits : Lead → List (List Char) → Prop
  | .root, _ => True
  | .here, pieces => pieces = [] ∨ pieces.head? = some []
  | .none, pieces => pieces.head? ≠ some [] ∨ pieces = [[]]

theorem Fits.of_isPrefix {lead : Lead} {pieces before : List (List Char)} (h : Fits lead pieces)
    (early : before <+: pieces) : Fits lead before := by
  obtain ⟨rest, rfl⟩ := early
  cases before with
  | nil => cases lead <;> simp [Fits]
  | cons piece before =>
    cases lead with
    | root => trivial
    | here => simpa [Fits] using h
    | none =>
      rcases h with filled | single
      · exact .inl (by simpa using filled)
      · obtain ⟨rfl, rest⟩ := List.cons.inj single
        exact .inr (by simp [(List.append_eq_nil_iff.mp rest).1])

theorem Fits.of_concat {lead : Lead} {before : List (List Char)} {piece other : List Char}
    (h : Fits lead (before ++ [piece])) (filled : piece ≠ []) (filled' : other ≠ []) :
    Fits lead (before ++ [other]) := by
  cases lead with
  | root => trivial
  | here => cases before <;> simp_all [Fits]
  | none => cases before <;> simp_all [Fits]

theorem toList_text (p : Path) : p.text.toList = p.lead.chars ++ ['/'].intercalate p.pieces := by
  rw [pieces, List.intercalate_splitOn]
  unfold lead
  split <;> simp_all [Lead.chars]

theorem ofPieces_pieces (p : Path) : ofPieces p.lead p.pieces = p := by
  rw [ofPieces, ← toList_text, String.ofList_toList]

theorem not_slash_mem_of_mem_pieces {piece : List Char} (h : piece ∈ p.pieces) : '/' ∉ piece :=
  Chars.not_mem_of_mem_splitOn h

theorem fits_pieces (p : Path) : Fits p.lead p.pieces := by
  cases h : p.lead with
  | root => trivial
  | here =>
    right
    rw [pieces, h]
    unfold lead at h
    split at h
    · cases h
    next dot =>
      rw [dot]
      rfl
    -- The slash that follows the `.` ends an empty piece.
    next dotted =>
      rw [dotted, Lead.chars, List.length_singleton, List.drop_one, List.tail_cons,
        List.splitOn_cons_eq_if_modifyHead]
      rfl
    · cases h
  | none =>
    by_contra unfit
    simp only [Fits, not_or, not_not] at unfit
    obtain ⟨empty, more⟩ := unfit
    obtain ⟨rest, cut⟩ := List.head?_eq_some_iff.mp empty
    have more : rest ≠ [] := by
      rintro rfl
      exact more cut
    -- An empty piece before others means a slash at the start.
    have slashed : p.text.toList = '/' :: ['/'].intercalate rest := by
      rw [toList_text, h, cut, List.intercalate_cons_of_ne_nil more]
      rfl
    rw [lead, slashed] at h
    cases h

section

variable {lead : Lead} {pieces : List (List Char)} (fits : Fits lead pieces)
  (h : ∀ piece ∈ pieces, '/' ∉ piece)
include fits h

theorem startOf_ofPieces (here : Location) :
    startOf here (ofPieces lead pieces).text = lead.start here := by
  rw [ofPieces, startOf, String.toList_ofList]
  cases lead with
  | root => rfl
  | here => rfl
  | none =>
    rw [Lead.chars, List.nil_append]
    refine if_neg fun slash => ?_
    cases pieces with
    | nil => cases slash
    | cons piece rest =>
      have noSlash := h piece (by simp)
      rcases fits with filled | single
      · have filled : piece ≠ [] := by simpa using filled
        have start : (['/'].intercalate (piece :: rest)).head? = piece.head? := by
          rcases eq_or_ne rest [] with rfl | more
          · simp
          · rw [List.intercalate_cons_of_ne_nil more, List.append_assoc,
              List.head?_append_of_ne_nil _ filled]
        rw [start] at slash
        exact noSlash (List.mem_of_head? slash)
      · rw [single] at slash
        cases slash

/-- The names of a path are its components, with a `.` here and there. -/
theorem filter_namesOf_ofPieces :
    (namesOf (ofPieces lead pieces).text.toList).filter (· != ".") = componentNames pieces := by
  rw [ofPieces, String.toList_ofList]
  cases lead with
  | root =>
    change (namesOf ([] ++ '/' :: ['/'].intercalate pieces)).filter _ = _
    rw [namesOf_append]
    exact filter_namesOf_intercalate h
  | here =>
    rcases fits with rfl | empty
    · rfl
    obtain ⟨rest, rfl⟩ := List.head?_eq_some_iff.mp empty
    rcases eq_or_ne rest [] with rfl | more
    · rfl
    · rw [List.intercalate_cons_of_ne_nil more]
      change (namesOf (['.'] ++ '/' :: ['/'].intercalate rest)).filter _ = _
      rw [namesOf_append, List.filter_append]
      exact filter_namesOf_intercalate fun piece listed => h piece (by simp [listed])
  | none => exact filter_namesOf_intercalate h

theorem spot_ofPieces (here : Location) :
    (ofPieces lead pieces).spot here = resolve (lead.start here) (componentNames pieces) := by
  rw [spot, startOf_ofPieces fits h, ← resolve_filter, filter_namesOf_ofPieces fits h]

end

theorem filter_namesOf (p : Path) :
    (namesOf p.text.toList).filter (· != ".") = p.components.map String.ofList := by
  have spelled := filter_namesOf_ofPieces p.fits_pieces fun _ => not_slash_mem_of_mem_pieces
  rwa [ofPieces_pieces] at spelled

theorem spot_eq (p : Path) (here : Location) :
    p.spot here = resolve (p.lead.start here) (p.components.map String.ofList) := by
  have spelled := spot_ofPieces p.fits_pieces (fun _ => not_slash_mem_of_mem_pieces) here
  rwa [ofPieces_pieces] at spelled

/-! ### The last component -/

theorem upToLast_concat (pieces : List (List Char)) (piece : List Char) :
    upToLast (pieces ++ [piece]) =
      if isComponent piece then pieces ++ [piece] else upToLast pieces := by
  rw [upToLast, List.reverse_concat, List.dropWhile_cons]
  cases isComponent piece <;> simp [upToLast]

theorem upToLast_cases (pieces : List (List Char)) :
    (upToLast pieces = [] ∧ pieces.filter isComponent = []) ∨
    ∃ (before : List (List Char)) (last : List Char), upToLast pieces = before ++ [last] ∧ isComponent last = true ∧
      before ++ [last] <+: pieces ∧
      pieces.filter isComponent = before.filter isComponent ++ [last] := by
  -- The last component is looked for from the end, so the induction adds a last piece.
  induction pieces using List.reverseRecOn with
  | nil => exact .inl ⟨rfl, rfl⟩
  | append_singleton pieces piece ih =>
    rw [upToLast_concat, List.filter_append]
    by_cases component : isComponent piece = true
    · rw [if_pos component]
      exact .inr ⟨pieces, piece, rfl, component, List.prefix_rfl, by simp [component]⟩
    · rw [if_neg component]
      rw [List.filter_singleton, Bool.eq_false_iff.mpr component, cond_false, List.append_nil]
      rcases ih with none | ⟨before, last, cut, real, early, same⟩
      · exact .inl none
      · exact .inr ⟨before, last, cut, real, early.trans (List.prefix_append _ _), same⟩

theorem filter_upToLast (pieces : List (List Char)) :
    (upToLast pieces).filter isComponent = pieces.filter isComponent := by
  rcases upToLast_cases pieces with ⟨cut, none⟩ | ⟨before, last, cut, component, _, same⟩
  · rw [cut, none, List.filter_nil]
  · rw [cut, same, List.filter_append]
    simp [component]

theorem isPrefix_upToLast (pieces : List (List Char)) : upToLast pieces <+: pieces := by
  rcases upToLast_cases pieces with ⟨cut, _⟩ | ⟨before, last, cut, _, early, _⟩
  · rw [cut]
    exact List.nil_prefix
  · rwa [cut]

theorem exists_upToLast_pieces (more : p.components ≠ []) :
    ∃ before last, upToLast p.pieces = before ++ [last] ∧ before ++ [last] <+: p.pieces ∧
      isComponent last = true ∧ p.components = before.filter isComponent ++ [last] := by
  rcases upToLast_cases p.pieces with ⟨_, none⟩ | ⟨before, last, cut, component, early, same⟩
  · exact absurd none more
  · exact ⟨before, last, cut, early, component, same⟩

theorem fileName?_eq_some {name : String} (h : p.fileName? = some name) :
    p.components.getLast? = some name.toList ∧ name ≠ ".." := by
  unfold fileName? at h
  split at h
  · cases h
  next last found =>
    split at h
    · cases h
    next notUp =>
      obtain rfl := Option.some.inj h
      refine ⟨by simpa using found, ?_⟩
      intro up
      exact notUp (by simpa using congrArg String.toList up)

theorem components_ne_nil_of_fileName? {name : String} (h : p.fileName? = some name) :
    p.components ≠ [] := by
  intro none
  have found := (fileName?_eq_some h).1
  rw [none] at found
  cases found

theorem spot_of_fileName? {name : String} (h : p.fileName? = some name)
    {before : List (List Char)} {last : List Char} (same : p.components = before ++ [last])
    (here : Location) :
    p.spot here = resolve (p.lead.start here) (before.map String.ofList) ++ [name] := by
  obtain ⟨found, notUp⟩ := fileName?_eq_some h
  rw [same, List.getLast?_concat] at found
  obtain rfl := Option.some.inj found
  have component : isComponent name.toList = true := by
    have listed : name.toList ∈ p.components := by simp [same]
    exact (List.mem_filter.mp listed).2
  have notHere : name ≠ "." := by
    rintro rfl
    exact absurd component (by decide)
  rw [spot_eq, same, List.map_append, resolve_append, List.map_singleton, String.ofList_toList,
    resolve_cons, resolve_nil, enter_of_ne notHere notUp]

theorem spot_eq_concat {name : String} (h : p.fileName? = some name) (here : Location) :
    p.spot here = (p.spot here).dropLast ++ [name] := by
  obtain ⟨before, last, _, _, _, same⟩ :=
    exists_upToLast_pieces (components_ne_nil_of_fileName? h)
  rw [spot_of_fileName? h same, List.dropLast_concat]

theorem spot_eq_sibling_iff {name : String} (h : p.fileName? = some name) (other : String)
    (here : Location) : p.spot here = (p.spot here).dropLast ++ [other] ↔ name = other := by
  rw [spot_eq_concat h, List.dropLast_concat, List.append_cancel_left_eq, List.singleton_inj]

theorem not_slash_mem_of_fileName? {name : String} (h : p.fileName? = some name) :
    '/' ∉ name.toList := by
  have last := (fileName?_eq_some h).1
  have listed : name.toList ∈ p.components := List.mem_of_getLast? last
  exact not_slash_mem_of_mem_pieces (List.mem_of_mem_filter listed)

/-! ### Parents -/

theorem lead_ofPieces_root (pieces : List (List Char)) : (ofPieces .root pieces).lead = .root := by
  simp [ofPieces, lead, Lead.chars]

theorem components_ofPieces_root {pieces : List (List Char)} (h : ∀ piece ∈ pieces, '/' ∉ piece) :
    (ofPieces .root pieces).components = pieces.filter isComponent := by
  rw [components, Path.pieces, lead_ofPieces_root, ofPieces, String.toList_ofList,
    List.drop_left']
  · rcases eq_or_ne pieces [] with rfl | more
    · rfl
    · rw [List.splitOn_intercalate '/' h more]
  · rfl

theorem exists_parent?_pieces (more : p.components ≠ []) :
    ∃ pieces last, p.parent? = some (ofPieces p.lead pieces) ∧ pieces <+: p.pieces ∧
      p.components = pieces.filter isComponent ++ [last] := by
  obtain ⟨before, last, cut, early, _, same⟩ := exists_upToLast_pieces more
  have kept : upToLast before <+: p.pieces :=
    (isPrefix_upToLast before).trans ((List.prefix_append _ _).trans early)
  refine ⟨upToLast before, last, ?_, kept, by rw [filter_upToLast, same]⟩
  -- The pieces of the parent are cut once more, up to its own last component.
  rw [parent?, cut]
  split
  next none => simp at none
  next => rw [List.dropLast_concat]

/-- The parent of a path takes its steps but the last one. -/
theorem exists_parent?_names (more : p.components ≠ []) :
    ∃ parent before last, p.parent? = some parent ∧ p.components = before ++ [last] ∧
      (∀ here, startOf here parent.text = p.lead.start here) ∧
      (namesOf parent.text.toList).filter (· != ".") = before.map String.ofList := by
  obtain ⟨pieces, last, found, early, same⟩ := exists_parent?_pieces more
  have fits := p.fits_pieces.of_isPrefix early
  have noSlash : ∀ piece ∈ pieces, '/' ∉ piece := fun piece listed =>
    not_slash_mem_of_mem_pieces (early.subset listed)
  exact ⟨_, _, last, found, same, startOf_ofPieces fits noSlash,
    filter_namesOf_ofPieces fits noSlash⟩

theorem exists_parent? (more : p.components ≠ []) :
    ∃ parent before last, p.parent? = some parent ∧ p.components = before ++ [last] ∧
      (∀ here, parent.spot here = resolve (p.lead.start here) (before.map String.ofList)) ∧
      (p.lead = .root → parent.lead = .root ∧ parent.components = before) := by
  obtain ⟨pieces, last, found, early, same⟩ := exists_parent?_pieces more
  have noSlash : ∀ piece ∈ pieces, '/' ∉ piece := fun piece listed =>
    not_slash_mem_of_mem_pieces (early.subset listed)
  refine ⟨_, _, last, found, same, fun here => ?_, fun rooted => ?_⟩
  · rw [spot_ofPieces (p.fits_pieces.of_isPrefix early) noSlash, componentNames]
  · rw [rooted, components_ofPieces_root noSlash]
    exact ⟨lead_ofPieces_root _, rfl⟩

theorem components_ne_nil_of_parent? {parent : Path} (h : p.parent? = some parent)
    (rooted : p.lead = .root) : p.components ≠ [] := by
  intro none
  rcases upToLast_cases p.pieces with ⟨cut, _⟩ | ⟨before, last, _, _, _, same⟩
  · rw [parent?, cut] at h
    simp [rooted] at h
  · simp [components, same] at none

/-! ### Other file names -/

/-- Whether a name leads one step down. -/
structure IsStep (name : String) : Prop where
  filled : name ≠ ""
  notHere : name ≠ "."
  notUp : name ≠ ".."
  noSlash : '/' ∉ name.toList

namespace IsStep

variable {name : String}

theorem of_length {cs : List Char} (long : 2 < cs.length) (noSlash : '/' ∉ cs) :
    IsStep (String.ofList cs) := by
  -- The names that lead elsewhere have two characters at most.
  have apart : ∀ short : String, short.toList.length ≤ 2 → String.ofList cs ≠ short := by
    rintro _ few rfl
    rw [String.toList_ofList] at few
    omega
  refine ⟨apart _ (by decide), apart _ (by decide), apart _ (by decide), ?_⟩
  rwa [String.toList_ofList]

theorem isComponent_eq (h : IsStep name) : isComponent name.toList = true := by
  have apart : name.toList ≠ ['.'] := fun same =>
    h.notHere (by rw [← String.ofList_toList (s := name), same])
  simp [isComponent, h.filled, apart]

theorem namesOf_eq (h : IsStep name) : namesOf name.toList = [name] := by
  rw [namesOf_of_not_mem (by simpa using h.filled) h.noSlash, String.ofList_toList]

theorem resolve_eq (h : IsStep name) (loc : Location) : resolve loc [name] = loc ++ [name] :=
  enter_of_ne h.notHere h.notUp loc

theorem isAbsolute_eq (h : IsStep name) : (Path.mk name).isAbsolute = false := by
  apply isAbsolute_of_head?
  intro start
  exact h.noSlash (List.mem_of_head? start)

/-! A name alone is a path. -/

section

variable (h : IsStep name)
include h

theorem lead_eq : (Path.mk name).lead = .none := by
  unfold lead
  split
  next rest slashed => exact absurd (by simp [slashed]) h.noSlash
  next dot => exact absurd (String.toList_inj.mp dot) h.notHere
  next rest slashed => exact absurd (by simp [slashed]) h.noSlash
  · rfl

theorem pieces_eq : (Path.mk name).pieces = [name.toList] := by
  rw [pieces, h.lead_eq]
  exact List.splitOn_eq_singleton h.noSlash

theorem upToLast_eq : upToLast (Path.mk name).pieces = [name.toList] := by
  simp [upToLast, h.pieces_eq, h.isComponent_eq]

theorem fileName?_eq : (Path.mk name).fileName? = some name := by
  have notUp : name.toList ≠ ['.', '.'] := fun up => h.notUp (String.toList_inj.mp up)
  have components : (Path.mk name).components = [name.toList] := by
    rw [Path.components, h.pieces_eq, List.filter_singleton, h.isComponent_eq, cond_true]
  rw [fileName?, components, List.getLast?_singleton]
  simp [notUp]

theorem parent?_eq : (Path.mk name).parent? = some ⟨""⟩ := by
  rw [parent?, h.upToLast_eq, h.lead_eq]
  rfl

theorem withExtension_eq (extension : String) :
    (Path.mk name).withExtension extension =
      ⟨String.ofList (stem name.toList ++ '.' :: extension.toList)⟩ := by
  rw [withExtension, h.fileName?_eq, h.upToLast_eq, h.lead_eq]
  simp [ofPieces, Lead.chars]

end

end IsStep

/-- What is joined to a path lies below it. -/
theorem spot_join (p : Path) {name : String} (h : IsStep name) (here : Location) :
    (p.join ⟨name⟩).spot here = p.spot here ++ [name] := by
  have names : ∀ before, namesOf (before ++ '/' :: name.toList) = namesOf before ++ [name] :=
    fun before => by rw [namesOf_append, h.namesOf_eq]
  unfold join
  rw [h.isAbsolute_eq, Bool.false_or]
  split
  next empty =>
    have noText : p.text = "" := by simpa using empty
    have start : name.toList.head? ≠ some '/' := fun first => h.noSlash (List.mem_of_head? first)
    rw [spot, spot, noText, h.namesOf_eq, startOf, if_neg start]
    exact h.resolve_eq here
  next filled =>
    have filled : p.text.toList ≠ [] := by simpa using filled
    split
    -- A slash at the end goes before the name.
    next slash =>
      obtain ⟨before, same⟩ := List.getLast?_eq_some_iff.mp slash
      have whole : (p.text ++ name).toList = before ++ '/' :: name.toList := by simp [same]
      have own : namesOf p.text.toList = namesOf before := by
        rw [same, namesOf_append]
        exact List.append_nil _
      have start : startOf here (p.text ++ name) = startOf here p.text := by
        rw [startOf, startOf, String.toList_append, List.head?_append_of_ne_nil _ filled]
      rw [spot, start, whole, names, resolve_append, h.resolve_eq, spot, own]
    · have whole : (p.text ++ "/" ++ name).toList = p.text.toList ++ '/' :: name.toList := by simp
      have start : startOf here (p.text ++ "/" ++ name) = startOf here p.text := by
        rw [startOf, startOf, whole, List.head?_append_of_ne_nil _ filled]
      rw [spot, start, whole, names, resolve_append, h.resolve_eq, spot]

theorem spot_withFileName {name other : String} (h : p.fileName? = some name) (step : IsStep other)
    (here : Location) :
    (p.withFileName other).spot here = (p.spot here).dropLast ++ [other] := by
  obtain ⟨parent, before, last, found, same, above, _⟩ :=
    exists_parent? (components_ne_nil_of_fileName? h)
  rw [spot_of_fileName? h same, List.dropLast_concat, withFileName, found, Option.getD_some,
    spot_join _ step, above]

theorem isPrefix_stem (name : List Char) : stem name <+: name := by
  unfold stem
  split
  next dot before cut =>
    split
    · exact List.prefix_rfl
    · have whole := List.takeWhile_append_dropWhile (p := (· != '.')) (l := name.reverse)
      have turned := congrArg List.reverse whole
      rw [cut, List.reverse_append, List.reverse_cons, List.append_assoc,
        List.reverse_reverse] at turned
      exact ⟨_, turned⟩
  · exact List.prefix_rfl

theorem stem_ne_nil {name : List Char} (h : name ≠ []) : stem name ≠ [] := by
  unfold stem
  split
  · split
    · exact h
    next filled => simpa using filled
  · exact h

theorem stem_eq_self {name : List Char} (h : '.' ∉ name) : stem name = name := by
  have none : name.reverse.dropWhile (· != '.') = [] := by
    refine List.dropWhile_eq_nil_iff.mpr fun c own => ?_
    exact bne_iff_ne.mpr (ne_of_mem_of_not_mem (List.mem_reverse.mp own) h)
  rw [stem, none]

/-- A file with another extension lies beside the file. -/
theorem spot_withExtension {name extension : String} (h : p.fileName? = some name)
    (filled : extension ≠ "") (noSlash : '/' ∉ extension.toList) (here : Location) :
    (p.withExtension extension).spot here =
      (p.spot here).dropLast ++ [String.ofList (stem name.toList ++ '.' :: extension.toList)] := by
  obtain ⟨before, last, cut, early, component, same⟩ :=
    exists_upToLast_pieces (components_ne_nil_of_fileName? h)
  obtain rfl : last = name.toList := by
    have found := (fileName?_eq_some h).1
    rw [same, List.getLast?_concat] at found
    exact Option.some.inj found
  have named : name.toList ≠ [] := by
    intro empty
    rw [empty] at component
    cases component
  -- The new name has a character before its dot and one behind it, so it is too long to be `..`.
  have long : 2 < (stem name.toList ++ '.' :: extension.toList).length := by
    have early := List.length_pos_iff.mpr (stem_ne_nil named)
    have late : 0 < extension.toList.length := List.length_pos_iff.mpr (by simpa using filled)
    simp only [List.length_append, List.length_cons]
    omega
  have noSlash' : '/' ∉ stem name.toList ++ '.' :: extension.toList := by
    have own : '/' ∉ name.toList := not_slash_mem_of_mem_pieces (early.subset (by simp))
    have kept : '/' ∉ stem name.toList := fun slash => own ((isPrefix_stem _).subset slash)
    simpa [kept] using noSlash
  rw [spot_of_fileName? h same, List.dropLast_concat, withExtension, h]
  dsimp only
  rw [cut, List.dropLast_concat]
  generalize stem name.toList ++ '.' :: extension.toList = new at long noSlash'
  have step := IsStep.of_length long noSlash'
  have component' : isComponent new = true := by simpa using step.isComponent_eq
  have fits : Fits p.lead (before ++ [new]) := by
    refine (p.fits_pieces.of_isPrefix early).of_concat named ?_
    rintro rfl
    cases long
  have plain : ∀ piece ∈ before ++ [new], '/' ∉ piece := by
    intro piece listed
    rcases List.mem_append.mp listed with above | last
    · exact not_slash_mem_of_mem_pieces (early.subset (by simp [above]))
    · rwa [List.mem_singleton.mp last]
  rw [spot_ofPieces fits plain, componentNames_append, componentNames_singleton component',
    resolve_append, step.resolve_eq]
  rfl

end Path

end SpecPrompt
