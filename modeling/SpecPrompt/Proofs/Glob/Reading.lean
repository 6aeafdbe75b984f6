import SpecPrompt.Glob.Pattern
import SpecPrompt.Proofs.Outcome

/-!
# Texts that are globs

Whether a text is a glob does not depend on the tokens that are read from it. It takes no more to tell than how
many groups are open, whether a backslash precedes, and how far a class has been read. Asterisks make no
difference, whatever stands next to them.

So a text is a glob exactly if it is one behind `**/*.`, which leaves nothing open, and otherwise it has the
same flaw there.

## Main results

- `course_read`, `course_foldlM`: one character, and all characters, change what there is to know of a reader
  in the same way as the reader.
- `exists_parse_append_iff`, `parse_append_eq_error_iff`: a text behind another one that leaves nothing open.
-/

namespace SpecPrompt.Glob

/-! ### What there is to know -/

/-- What the next character belongs to, whatever tokens and asterisks precede it. -/
inductive Phase where
  /-- It starts a token, or goes on with asterisks. -/
  | free
  | escaped
  | classStart
  | inClass (part : ClassPart)

def Mode.phase : Mode → Phase
  | .tokens | .star _ | .doubleStar _ => .free
  | .escaped => .escaped
  | .classStart => .classStart
  | .inClass part => .inClass part

/-- A reader without its tokens. -/
structure Course where
  phase : Phase
  /-- How many groups are open. -/
  opened : Nat

def Reader.course (r : Reader) : Course :=
  ⟨r.mode.phase, r.outer.length⟩

namespace Course

def start : Course := ⟨.free, 0⟩

def startToken (opened : Nat) (c : Char) : Except Flaw Course :=
  match c with
  | '[' => .ok ⟨.classStart, opened⟩
  | '\\' => .ok ⟨.escaped, opened⟩
  | '\x7b' => .ok ⟨.free, opened + 1⟩
  | '\x7d' =>
    match opened with
    | 0 => .error .unopenedGroup
    | enclosing + 1 => .ok ⟨.free, enclosing⟩
  | _ => .ok ⟨.free, opened⟩

def readClass (opened : Nat) (part : ClassPart) (c : Char) : Except Flaw Course :=
  if c = ']' && !part.stretches.isEmpty then .ok ⟨.free, opened⟩
  else if c = '-' && !part.stretches.isEmpty && !part.hyphen then
    .ok ⟨.inClass { part with hyphen := true }, opened⟩
  else do .ok ⟨.inClass (← part.add c), opened⟩

/-- Follows a reader over a character. -/
def read (k : Course) (c : Char) : Except Flaw Course :=
  match k.phase with
  | .free => startToken k.opened c
  | .escaped => .ok ⟨.free, k.opened⟩
  | .classStart =>
    if c = '!' || c = '^' then .ok ⟨.inClass ⟨true, [], false⟩, k.opened⟩
    else readClass k.opened ⟨false, [], false⟩ c
  | .inClass part => readClass k.opened part c

/-- Whether the pattern may end. -/
def finish (k : Course) : Except Flaw Unit :=
  match k.phase with
  | .free => if k.opened = 0 then .ok () else .error .unclosedGroup
  | .escaped => .error .danglingEscape
  | .classStart | .inClass _ => .error .unclosedClass

end Course

/-- Whether a text is a glob, told without its tokens. -/
def check (pattern : String) : Except Flaw Unit := do
  (← pattern.toList.foldlM Course.read .start).finish

/-! ### One character -/

namespace Reader

variable {r : Reader}

theorem course_startToken (tokens : r.mode = .tokens) (c : Char) :
    (r.startToken c).map course = Course.startToken r.outer.length c := by
  have free : r.mode.phase = .free := by
    rw [tokens]
    rfl
  unfold startToken Course.startToken
  split
  -- A question mark, an asterisk, a bracket and a backslash.
  next => rfl
  next => rfl
  next => rfl
  next => rfl
  -- A brace opens or closes a group.
  next => simp [Except.map, course, free]
  next =>
    cases inside : r.outer with
    | nil => rfl
    | cons enclosing outer => simp [Except.map, course, free]
  -- A comma may end a branch, but never a group.
  next =>
    split
    · rfl
    · simp [Except.map, course, free]
  -- The remaining characters have no meaning of their own here either.
  next => split <;> first | contradiction | rfl

theorem course_readClass (r : Reader) (part : ClassPart) (c : Char) :
    (r.readClass part c).map course = Course.readClass r.outer.length part c := by
  unfold readClass Course.readClass
  split
  · rfl
  split
  · rfl
  · cases part.add c <;> rfl

theorem course_doubleStar (r : Reader) (before behind : Option Char) :
    (r.doubleStar before behind).1.mode = .tokens ∧
      (r.doubleStar before behind).1.course = ⟨.free, r.outer.length⟩ := by
  unfold doubleStar
  dsimp only
  repeat' split
  all_goals exact ⟨rfl, rfl⟩

/-- Two asterisks take up nothing but a slash, which would start a token that is over at once. -/
theorem eq_slash_of_doubleStar {before behind : Option Char}
    (taken : (r.doubleStar before behind).2 = true) : behind = some '/' := by
  unfold doubleStar at taken
  dsimp only at taken
  split at taken
  · split at taken
    next slash =>
      obtain ⟨c, rfl⟩ := Option.isSome_iff_exists.mp taken
      exact congrArg some (of_decide_eq_true slash)
    · cases taken
  · repeat' split at taken
    all_goals simp_all

/-- One character changes what there is to know of a reader in the same way as the reader. -/
theorem course_read (r : Reader) (c : Char) : (r.read c).map course = r.course.read c := by
  -- The character read last is only kept for asterisks.
  have marked (x : Except Flaw Reader) :
      (x >>= fun next => .ok { next with before := some c }).map course = x.map course := by
    cases x <;> rfl
  unfold read Course.read course
  dsimp only
  cases mode : r.mode with
  | tokens => exact (marked _).trans (course_startToken mode c)
  | escaped => rfl
  | star before =>
    dsimp only
    split
    next another =>
      rw [another]
      rfl
    next => exact (marked _).trans (course_startToken rfl c)
  | doubleStar before =>
    obtain ⟨tokens, free⟩ := r.course_doubleStar before (some c)
    dsimp only
    split
    -- The slash that is taken up would only have been a literal.
    next behind done =>
      rw [done] at free
      have slash : c = '/' := Option.some.inj (eq_slash_of_doubleStar (congrArg Prod.snd done))
      rw [slash]
      exact congrArg Except.ok free
    next behind done =>
      rw [done] at tokens free
      have opened : behind.outer.length = r.outer.length := congrArg Course.opened free
      exact (marked _).trans ((course_startToken tokens c).trans (by rw [opened]; rfl))
  | classStart =>
    dsimp only
    split
    · rfl
    · exact (marked _).trans (course_readClass r _ c)
  | inClass part => exact (marked _).trans (course_readClass r part c)

/-! ### A whole text -/

theorem course_foldlM (cs : List Char) (r : Reader) :
    (cs.foldlM read r).map course = cs.foldlM Course.read r.course :=
  Outcome.map_foldlM course_read cs r

theorem map_finish (r : Reader) : r.finish.map (fun _ => ()) = r.course.finish := by
  -- Once a last token is complete, it only matters whether a group is open.
  have ended (behind : Reader) (opened : behind.outer.length = r.outer.length) :
      (if behind.outer.isEmpty then .ok behind.group.tokens.reverse
        else .error .unclosedGroup : Except Flaw (List Token)).map (fun _ => ()) =
      if r.outer.length = 0 then .ok () else .error .unclosedGroup := by
    rw [← opened]
    cases behind.outer <;> rfl
  unfold finish Course.finish course
  dsimp only
  cases mode : r.mode with
  | tokens => exact ended r rfl
  | escaped => rfl
  | star before => exact ended _ rfl
  | doubleStar before =>
    exact ended _ (congrArg Course.opened (r.course_doubleStar before none).2)
  | classStart => rfl
  | inClass part => rfl

end Reader

/-- Whether a text is a glob, and if not, which flaw it has, can be told without its tokens. -/
theorem map_parse (pattern : String) : (parse pattern).map (fun _ => ()) = check pattern := by
  have followed := Reader.course_foldlM pattern.toList .fresh
  unfold parse check
  rw [show Course.start = Reader.course .fresh from rfl, ← followed]
  cases pattern.toList.foldlM Reader.read .fresh with
  | error flaw => rfl
  | ok reader =>
    -- The tokens only wrap the last result.
    have ended := reader.map_finish
    change (reader.finish >>= fun tokens => .ok ⟨tokens⟩ : Except Flaw Glob).map _ = reader.course.finish
    rw [← ended]
    cases reader.finish <;> rfl

/-- A text has the same flaws behind another one that leaves nothing open. -/
theorem check_append {before : String} (closed : before.toList.foldlM Course.read .start = .ok .start)
    (pattern : String) : check (before ++ pattern) = check pattern := by
  unfold check
  rw [String.toList_append, List.foldlM_append, closed]
  rfl

theorem exists_parse_iff {pattern : String} :
    (∃ glob, parse pattern = .ok glob) ↔ check pattern = .ok () := by
  rw [← map_parse]
  cases parse pattern <;> simp [Except.map]

theorem parse_eq_error_iff {pattern : String} {flaw : Flaw} :
    parse pattern = .error flaw ↔ check pattern = .error flaw := by
  rw [← map_parse]
  cases parse pattern <;> simp [Except.map]

theorem exists_parse_append_iff {before : String}
    (closed : before.toList.foldlM Course.read .start = .ok .start) {pattern : String} :
    (∃ glob, parse (before ++ pattern) = .ok glob) ↔ ∃ glob, parse pattern = .ok glob := by
  rw [exists_parse_iff, check_append closed, exists_parse_iff]

theorem parse_append_eq_error_iff {before : String}
    (closed : before.toList.foldlM Course.read .start = .ok .start) {pattern : String} {flaw : Flaw} :
    parse (before ++ pattern) = .error flaw ↔ parse pattern = .error flaw := by
  rw [parse_eq_error_iff, check_append closed, parse_eq_error_iff]

end SpecPrompt.Glob
