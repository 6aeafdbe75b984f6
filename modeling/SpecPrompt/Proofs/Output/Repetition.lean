import SpecPrompt.Proofs.Files.Storing
import SpecPrompt.Proofs.Output.Untouched
import SpecPrompt.Proofs.Project.Steadiness

/-!
# Running again

A run that succeeds leaves the tree so that it can be repeated, if it writes to no file that a
compilation reads. The second run compiles the same prompts from the same files. Its directories are
there, the temporary file has gone, and the output is a file, which can be replaced. Two things are new
to it. The walk opens the directories that the first run made, if they lie beneath the root. And the
first run makes no copy if there was no output, so whether the copy's name fits in a directory is not
settled by then.

## Main result

`run_again`: what the second run does.
-/

namespace SpecPrompt

open Workspace

variable {w s s' : Workspace} {output : Path} {settings : Settings} {n : Nat}

namespace Output

variable {name stamp : String} {content : ByteArray} {prompts : List String}

/-! ### What the writing leaves behind -/

/-- There are no links, and the directory of the output is there. -/
structure Housed (path : Path) (s : Workspace) : Prop where
  plain : s.tree.NoLinks
  parent : ∀ parent ∈ path.parent?, parent.text ≠ "" →
    ∃ loc, s.lookup parent = .ok (loc, .directory)

theorem Housed.evolve (h : Housed output s) (evolves : s.Evolves s') : Housed output s' := by
  refine ⟨evolves.noLinks, fun parent above filled => ?_⟩
  obtain ⟨loc, leads⟩ := h.parent parent above filled
  exact ⟨loc, evolves.lookup_directory h.plain leads⟩

/-- The directory of the output is there, and nothing in it is in the way of the output and of its
temporary file. -/
structure Ready (path : Path) (s : Workspace) : Prop where
  parent : ∀ parent ∈ path.parent?, parent.text ≠ "" →
    ∃ loc, s.lookup parent = .ok (loc, .directory)
  output : s.Storable path
  temporary : s.Storable (temporaryPath path)

theorem meets_makeDirectory (plain : w.tree.NoLinks) (path : Path) :
    (makeDirectory path).Meets w (fun _ => True)
      (fun made s => w.Evolves s ∧ (made = .ok () → ∃ loc, s.lookup path = .ok (loc, .directory)))
      (fun _ => False) := by
  unfold makeDirectory
  refine Writing.meets_bind (Writing.meets_attempt trivial (fun s made => ⟨trivial, ?_⟩)
    fun fault refused => ?_)
  · refine Writing.meets_pure trivial ⟨(makeDirectory_eq_ok plain made).1, fun _ => ?_⟩
    exact exists_lookup_of_makeDirectory plain made
  · refine Writing.meets_bind (Writing.meets_current trivial ?_)
    split
    next there =>
      refine Writing.meets_pure trivial ⟨.refl plain, fun _ => ?_⟩
      exact Scanner.exists_lookup_of_isDirectory there
    · exact Writing.meets_pure trivial ⟨.refl plain, nofun⟩

theorem meets_ensureDirectory (plain : w.tree.NoLinks) (paths : List Path) :
    (ensureDirectory paths).Meets w (fun _ => True)
      (fun made s => w.Evolves s ∧ (made = .ok () → ∀ path ∈ paths.head?, path.text ≠ "" →
        ∃ loc, s.lookup path = .ok (loc, .directory)))
      (fun _ => False) := by
  induction paths generalizing w with
  | nil => exact Writing.meets_pure trivial ⟨.refl plain, nofun⟩
  | cons path parents ih =>
    unfold ensureDirectory
    split
    next empty =>
      refine Writing.meets_pure trivial ⟨.refl plain, fun _ other listed filled => ?_⟩
      obtain rfl := Option.some.inj listed
      exact absurd (by simpa using empty) filled
    have own : ∀ {w : Workspace}, w.tree.NoLinks → (makeDirectory path).Meets w (fun _ => True)
        (fun made s => w.Evolves s ∧ (made = .ok () → ∀ other ∈ (path :: parents).head?,
          other.text ≠ "" → ∃ loc, s.lookup other = .ok (loc, .directory))) (fun _ => False) := by
      intro w plain
      refine (meets_makeDirectory plain path).mono (fun _ => id) ?_ fun _ => id
      rintro made s ⟨evolves, there⟩
      refine ⟨evolves, fun succeeds other listed _ => ?_⟩
      obtain rfl := Option.some.inj listed
      exact there succeeds
    refine Writing.meets_bind ((own plain).mono (fun _ => id) ?_ fun _ => id)
    rintro made s ⟨evolves, there⟩
    split
    -- The induction is on the directories above: they are made, and the first is tried again.
    · refine Writing.meets_bind ((ih evolves.noLinks).mono (fun _ => id) ?_ fun _ => id)
      rintro above s' ⟨evolves', _⟩
      have onward := evolves.trans evolves'
      cases above with
      | ok _ =>
        refine (own evolves'.noLinks).mono (fun _ => id) ?_ fun _ => id
        exact fun _ _ ends => ⟨onward.trans ends.1, ends.2⟩
      | error fault => exact Writing.meets_pure trivial ⟨onward, nofun⟩
    · exact Writing.meets_pure trivial ⟨evolves, there⟩

theorem meets_makeParent (plain : w.tree.NoLinks) (output : Path) :
    (makeParent output).Meets w (fun _ => True) (fun _ => Housed output) (fun _ => True) := by
  unfold makeParent
  split
  next none => exact Writing.meets_pure trivial ⟨plain, by simp [none]⟩
  next parent found =>
    split
    next empty =>
      refine Writing.meets_pure trivial ⟨plain, fun other listed filled => ?_⟩
      obtain rfl := Option.some.inj (found.symm.trans listed)
      exact absurd (by simpa using empty) filled
    refine Writing.meets_bind ((meets_ensureDirectory plain _).mono (fun _ => id) ?_ nofun)
    rintro made s ⟨evolves, there⟩
    cases made with
    | error fault => exact Writing.meets_fail trivial trivial
    | ok _ =>
      refine Writing.meets_pure trivial ⟨evolves.noLinks, fun other listed filled => ?_⟩
      obtain rfl := Option.some.inj (found.symm.trans listed)
      exact there rfl parent parent.head?_ancestors filled

theorem meets_replace_storable (plain : w.tree.NoLinks) (output : Path) (content : ByteArray) :
    (replace output content).Meets w (fun _ => True)
      (fun _ s => w.Evolves s ∧ s.Storable output ∧ s.Storable (temporaryPath output))
      (fun _ => True) := by
  unfold replace
  refine Writing.meets_bind (Writing.meets_perform trivial (fun _ _ => trivial)
    fun s₁ created => ⟨trivial, ?_⟩)
  obtain ⟨evolves₁, _⟩ := Change.apply_eq_ok plain created
  refine Writing.meets_bind (Writing.meets_perform trivial (fun _ _ => trivial)
    fun s₂ written => ⟨trivial, ?_⟩)
  -- What can be written to is a file, and no directory is made after that.
  have open₁ : s₁.Storable (temporaryPath output) := by
    obtain ⟨⟨loc, node⟩, leads, wrote⟩ := Outcome.except_bind_eq_ok_iff.mp written
    cases node with
    | file old => exact storable_of_lookup_file evolves₁.noLinks leads
    | directory => cases wrote
    | link target => cases wrote
  have open₂ := open₁.apply evolves₁.noLinks written nofun
  obtain ⟨evolves₂, _⟩ := Change.apply_eq_ok evolves₁.noLinks written
  refine Writing.meets_bind (Writing.meets_perform trivial (fun _ _ => trivial)
    fun s₃ synced => ⟨trivial, ?_⟩)
  have open₃ := open₂.apply evolves₂.noLinks synced nofun
  obtain ⟨evolves₃, _⟩ := Change.apply_eq_ok evolves₂.noLinks synced
  refine Writing.meets_perform trivial (fun _ _ => trivial) fun s₄ renamed => ⟨trivial, ?_⟩
  obtain ⟨evolves₄, _⟩ := Change.apply_eq_ok evolves₃.noLinks renamed
  exact ⟨((evolves₁.trans evolves₂).trans evolves₃).trans evolves₄,
    storable_of_rename evolves₃.noLinks renamed, open₃.apply evolves₃.noLinks renamed nofun⟩

theorem meets_backUp_housed (housed : Housed settings.output s) (stamp : String) :
    (backUp settings.output stamp).Meets s (fun _ => True) (fun _ => Housed settings.output)
      (fun _ => True) := by
  unfold backUp
  split
  · exact Writing.meets_fail trivial trivial
  next name named =>
    refine Writing.meets_bind (Writing.meets_perform trivial (fun _ _ => trivial)
      fun s' copied => ⟨trivial, ?_⟩)
    exact Writing.meets_report trivial (housed.evolve (Change.apply_eq_ok housed.plain copied).1)

theorem meets_publish_ready (plain : w.tree.NoLinks) :
    (publish settings stamp prompts).Meets w (fun _ => True) (fun _ => Ready settings.output)
      (fun _ => True) := by
  refine meets_stages (meets_makeParent plain _) (fun _ _ => trivial)
    (fun s housed _ _ => meets_backUp_housed housed stamp) (fun _ housed _ => housed) fun s housed => ?_
  refine (meets_replace_storable housed.plain _ _).mono (fun _ => id) ?_ fun _ => id
  rintro _ s' ⟨evolves, free, temporary⟩
  exact ⟨(housed.evolve evolves).parent, free, temporary⟩

/-! ### Writing again -/

/-- A directory that is there is not made again. -/
theorem meets_makeParent_again (plain : s.tree.NoLinks) (ready : Ready output s) :
    (makeParent output).Meets s (fun _ => True) (fun _ s' => s' = s) (fun _ => False) := by
  unfold makeParent
  split
  · exact Writing.meets_pure trivial rfl
  next parent found =>
    split
    · exact Writing.meets_pure trivial rfl
    next filled =>
      obtain ⟨loc, leads⟩ := ready.parent parent found (by simpa using filled)
      obtain ⟨above, list⟩ := List.head?_eq_some_iff.mp parent.head?_ancestors
      have there : s.isDirectory parent = true := by rw [isDirectory, leads]
      -- Making the directory is refused, and then it is found to be there.
      have again : (makeDirectory parent).Meets s (fun _ => True)
          (fun made s' => made = .ok () ∧ s' = s) (fun _ => False) := by
        unfold makeDirectory
        refine Writing.meets_bind (Writing.meets_attempt trivial (fun s' made => ?_) fun _ _ => ?_)
        · obtain ⟨fault, refused⟩ := exists_fault_of_makeDirectory plain leads
          cases made.symm.trans refused
        · refine Writing.meets_bind (Writing.meets_current trivial ?_)
          rw [if_pos there]
          exact Writing.meets_pure trivial ⟨rfl, rfl⟩
      rw [list, ensureDirectory, if_neg filled]
      refine Writing.meets_bind (Writing.meets_bind (again.mono (fun _ => id) ?_ fun _ => id))
      rintro made s' ⟨rfl, rfl⟩
      exact Writing.meets_pure trivial (Writing.meets_pure trivial rfl)

theorem meets_backUp_again (plain : s.tree.NoLinks) (ready : Ready settings.output s)
    (there : s.pathExists settings.output = true)
    (copy : ∀ name ∈ settings.output.fileName?,
      s.Storable (backupPath settings.output name (toString n))) :
    (backUp settings.output (toString n)).Meets s (fun _ => True)
      (fun _ s' => s'.tree.NoLinks ∧ s'.Storable settings.output ∧
        s'.Storable (temporaryPath settings.output)) (fun _ => False) := by
  obtain ⟨bytes, leads⟩ := ready.output.exists_lookup plain there
  obtain ⟨parent, name, reached, _, _⟩ := (lookup_file_iff plain).mp leads
  have named := fileName?_of_locateEntry plain reached
  have noDirectory : ∀ path, Change.copy settings.output
      (backupPath settings.output name (toString n)) ≠ .makeDirectory path := by
    intro path same
    cases same
  unfold backUp
  rw [named]
  dsimp only
  refine Writing.meets_bind (Writing.meets_perform trivial (fun fault refused => ?_)
    fun s' copied => ⟨trivial, Writing.meets_report trivial ⟨?_, ?_, ?_⟩⟩)
  · obtain ⟨s', stored⟩ := exists_store plain (copy name named)
      (if s.leadsTo (backupPath settings.output name (toString n)) (settings.output.spot s.here) then
        .empty else bytes)
    rw [Change.apply, Workspace.copy, leads] at refused
    cases stored.symm.trans refused
  · exact (Change.apply_eq_ok plain copied).1.noLinks
  · exact ready.output.apply plain copied noDirectory
  · exact ready.temporary.apply plain copied noDirectory

/-- A file can be replaced where one can be stored, if the temporary file can. -/
theorem meets_replace_of_storable (plain : s.tree.NoLinks) (free : s.Storable output)
    (temporary : s.Storable (temporaryPath output)) :
    (replace output content).Meets s (fun _ => True) (fun _ _ => True) (fun _ => False) := by
  unfold replace
  -- The place of the output stays free through all steps up to the last.
  obtain ⟨s₁, created⟩ := exists_store plain temporary .empty
  have created : (Change.create (temporaryPath output)).apply s = .ok s₁ := created
  have leads := lookup_of_store plain temporary.reaches created
  obtain ⟨evolves₁, _⟩ := Change.apply_eq_ok plain created
  have free₁ := free.apply plain created nofun
  refine Writing.meets_bind (Writing.meets_perform trivial (fun _ refused => ?_)
    fun s₁' created' => ⟨trivial, ?_⟩)
  · cases created.symm.trans refused
  obtain rfl := Except.ok.inj (created.symm.trans created')
  obtain ⟨written, _, leads₂⟩ := write_of_lookup_file leads content
  have written : (Change.write (temporaryPath output) content).apply s₁ = .ok _ := written
  obtain ⟨evolves₂, _⟩ := Change.apply_eq_ok evolves₁.noLinks written
  have free₂ := free₁.apply evolves₁.noLinks written nofun
  refine Writing.meets_bind (Writing.meets_perform trivial (fun _ refused => ?_)
    fun s₂ written' => ⟨trivial, ?_⟩)
  · cases written.symm.trans refused
  obtain rfl := Except.ok.inj (written.symm.trans written')
  refine Writing.meets_bind (Writing.meets_perform trivial (fun _ refused => ?_)
    fun s₃ synced => ⟨trivial, ?_⟩)
  · rw [Change.apply, leads₂] at refused
    cases refused
  rw [Change.apply, leads₂] at synced
  obtain rfl := Except.ok.inj synced
  refine Writing.meets_perform trivial (fun _ refused => ?_) fun _ _ => ⟨trivial, trivial⟩
  obtain ⟨s₄, renamed⟩ := exists_rename evolves₂.noLinks leads₂ free₂
  cases renamed.symm.trans refused

/-- The prompts can be written where nothing is in the way. -/
theorem meets_publish_of_ready (plain : s.tree.NoLinks) (ready : Ready settings.output s)
    (copy : settings.backup = true → s.pathExists settings.output = true →
      ∀ name ∈ settings.output.fileName?,
        s.Storable (backupPath settings.output name (toString n))) :
    (publish settings (toString n) prompts).Meets s (fun _ => True) (fun _ _ => True)
      (fun _ => False) := by
  have copied : ∀ s', s' = s → settings.backup = true → s'.pathExists settings.output = true →
      (backUp settings.output (toString n)).Meets s' (fun _ => True)
        (fun _ s' => s'.tree.NoLinks ∧ s'.Storable settings.output ∧
          s'.Storable (temporaryPath settings.output)) (fun _ => False) := by
    rintro _ rfl wanted there
    exact meets_backUp_again plain ready there (copy wanted there)
  refine meets_stages (meets_makeParent_again plain ready) (fun _ _ => trivial) copied ?_ ?_
  · rintro _ rfl _
    exact ⟨plain, ready.output, ready.temporary⟩
  · rintro s ⟨plain, output, temporary⟩
    exact meets_replace_of_storable plain output temporary

/-! ### The copy -/

/-- The copy made at the time `n` has a name that a directory can hold and a path that can be opened,
and there is no directory in its place. -/
structure HasRoomForCopy (settings : Settings) (n : Nat) (s : Workspace) (name : String) : Prop where
  fits : (name ++ ".backup." ++ toString n).utf8ByteSize ≤ longestName
  short : (backupPath settings.output name (toString n)).text.utf8ByteSize < pathLimit
  free : s.tree.isDirectory ((backupPath settings.output name (toString n)).spot s.here) = false

theorem HasRoomForCopy.storable (h : HasRoomForCopy settings n s name) (plain : s.tree.NoLinks)
    (reached : s.Reaches settings.output) (named : settings.output.fileName? = some name) :
    s.Storable (backupPath settings.output name (toString n)) := by
  have step := isStep_copy named n
  have noNul : Char.ofNat 0 ∉ (name ++ ".backup." ++ toString n).toList := by
    obtain ⟨parent, own, found⟩ := reached
    obtain rfl := Option.some.inj (named.symm.trans (fileName?_of_locateEntry plain found))
    obtain ⟨_, _, valid⟩ := spot_of_locateEntry plain found
    simp only [String.toList_append, List.mem_append, not_or]
    refine ⟨⟨valid.2.1.2, by decide⟩, fun digit => ?_⟩
    exact absurd (isDigit_of_mem_toString digit) (by decide)
  have valid : IsName (name ++ ".backup." ++ toString n) :=
    ⟨⟨step.filled, step.notHere, step.notUp⟩, ⟨step.noSlash, noNul⟩, h.fits⟩
  exact ⟨reaches_withFileName plain reached valid h.short, of_decide_eq_false h.free⟩

end Output

/-! ### Running again -/

namespace Settings

open Output

/-- The locations that a run at the time `n` may write to. -/
def Touches (settings : Settings) (n : Nat) (here loc : Location) : Prop :=
  loc = settings.output.spot here ∨ loc = (temporaryPath settings.output).spot here ∨
    settings.backup = true ∧ ∃ name, settings.output.fileName? = some name ∧
      loc = (backupPath settings.output name (toString n)).spot here

theorem steady_of_published {prompts : List String}
    (apart : ∀ loc, settings.Touches n w.here loc → settings.Ignores w loc)
    (h : Published settings (toString n) prompts w s) : settings.Steady w s := by
  refine ⟨?_, fun loc => ?_⟩
  · obtain ⟨_, _, _, replaced⟩ := h
    exact replaced.holding.evolves
  · rcases h.file_eq loc with same | output | temporary | ⟨wanted, name, named, copy, _⟩
    · exact .inl same
    · exact .inr (apart loc (.inl output))
    · exact .inr (apart loc (.inr (.inl temporary)))
    · rw [← spot_backupPath named] at copy
      exact .inr (apart loc (.inr (.inr ⟨wanted, name, named, copy⟩)))

/-- What a run that succeeds, and is no dry run, has compiled and left behind. -/
theorem of_run_eq_ok {report : RunReport} (plain : w.tree.NoLinks) (wet : settings.dryRun = false)
    (succeeds : ((settings.run (toString n)).run w).result = .ok report)
    (after : ((settings.run (toString n)).run w).workspace w = s) :
    ∃ c language prompts, (Compiler.prepare w settings).result = .ok c ∧
      (c.compile w).result = .ok (language, prompts) ∧
      report = .ofPrompts settings language prompts ∧
      Published settings (toString n) prompts.flatten w s ∧ Ready settings.output s := by
  obtain ⟨c, prepared, own, language, prompts, compiled, stated, ends⟩ :=
    (settings.meets_run_plain n plain).done report succeeds
  have writes : (settings.run (toString n)).Meets w (fun _ => True) _ (fun _ => True) :=
    meets_run (fun _ _ => trivial) (fun _ _ _ _ => trivial) fun _ _ => meets_publish_ready plain
  obtain ⟨c', _, own', _, _, _, _, ends'⟩ := writes.done report succeeds
  rw [own', if_neg (by simp [wet]), after] at ends'
  rw [own, if_neg (by simp [wet]), after] at ends
  rw [own] at stated
  exact ⟨c, language, prompts, prepared, compiled, stated, ends, ends'⟩

/-- A run succeeds if its compiler is made ready, ends in prompts, and can write them. -/
theorem exists_run_eq_ok {c : Compiler} {compiled : String × Prompts}
    (prepared : (Compiler.prepare w settings).result = .ok c)
    (succeeds : (c.compile w).result = .ok compiled)
    (writes : ∀ prompts, (publish settings (toString n) prompts).Meets w (fun _ => True)
      (fun _ _ => True) (fun _ => False)) :
    ∃ report, ((settings.run (toString n)).run w).result = .ok report := by
  have met : (settings.run (toString n)).Meets w (fun _ => True) _ (fun _ => False) :=
    meets_run (fun _ fails => nomatch prepared.symm.trans fails)
      (fun c' _ found fails => by
        obtain rfl := Except.ok.inj (prepared.symm.trans found)
        exact nomatch succeeds.symm.trans fails)
      fun _ => writes
  cases ended : ((settings.run (toString n)).run w).result with
  | error failure => exact (met.failed failure ended).elim
  | ok report => exact ⟨report, rfl⟩

/-- A run that succeeds can be repeated, if what it writes is not read, the walk can open the
directories that it makes, and the copy finds room. The second run reports the same, leaves the same
output, and keeps a copy of it if one is wanted. -/
theorem run_again {n' : Nat} {report : RunReport} (plain : w.tree.NoLinks)
    (wet : settings.dryRun = false)
    (apart : ∀ loc, settings.Touches n w.here loc → settings.Ignores w loc)
    (succeeds : ((settings.run (toString n)).run w).result = .ok report)
    (after : ((settings.run (toString n)).run w).workspace w = s)
    (opens : ∀ scanner, Scanner.ofSettings w settings = .ok scanner →
      ∀ found ∈ s.listing scanner.root, found ∉ w.listing scanner.root →
        scanner.outOfReach found = false)
    (room : settings.backup = true → ∀ name ∈ settings.output.fileName?,
      HasRoomForCopy settings n' s name) :
    ((settings.run (toString n')).run s).result = .ok report ∧
      ∃ bytes, s.readBytes settings.output = .ok bytes ∧
        (((settings.run (toString n')).run s).workspace s).readBytes settings.output = .ok bytes ∧
        (settings.backup = true → ∃ name, settings.output.fileName? = some name ∧
          (((settings.run (toString n')).run s).workspace s).readBytes
            (backupPath settings.output name (toString n')) = .ok bytes) := by
  obtain ⟨c, language, prompts, prepared, compiled, rfl, published, ready⟩ :=
    of_run_eq_ok plain wet succeeds after
  have steady := steady_of_published apart published
  have plain' := steady.evolves.noLinks
  have reads := published.readBytes_output
  have reached := ((readBytes_eq_ok_iff plain').mp reads).1
  have copy : settings.backup = true → ∀ name ∈ settings.output.fileName?,
      s.Storable (backupPath settings.output name (toString n')) := fun wanted name named =>
    (room wanted name named).storable plain' reached named
  -- The same compiler is made ready, and ends in the same prompts.
  have prepared' := steady.prepare_eq_ok plain prepared
  obtain ⟨_, scanned, -, -⟩ := Compiler.of_prepare_eq_ok prepared
  have compiled' := steady.compile_eq_ok plain prepared (opens _ scanned) compiled
  obtain ⟨report', ended⟩ := exists_run_eq_ok prepared' compiled' fun _ =>
    meets_publish_of_ready plain' ready fun wanted _ => copy wanted
  obtain ⟨c', language', prompts', found, made, same, published', _⟩ :=
    of_run_eq_ok plain' wet ended rfl
  obtain rfl := Except.ok.inj (prepared'.symm.trans found)
  obtain ⟨rfl, rfl⟩ := Prod.mk.inj (Except.ok.inj (compiled'.symm.trans made))
  refine ⟨ended.trans (congrArg Except.ok same), contentOf prompts.flatten, reads,
    published'.readBytes_output, fun wanted => ?_⟩
  obtain ⟨name, named, holds⟩ := published'.file_copy wanted reads
  refine ⟨name, named, ?_⟩
  obtain ⟨_, _, _, replaced⟩ := published'
  have evolves := replaced.holding.evolves
  rw [readBytes_eq_ok_iff evolves.noLinks, evolves.here_eq, spot_backupPath named, holds]
  exact ⟨evolves.reaches plain' (copy wanted name named).reaches,
    ((readBytes_eq_ok_iff plain').mp reads).2⟩

/-! ### Two runs of a project -/

/-- A project with one test, and no prompts yet. -/
def unwritten : Workspace :=
  let tree := (FileTree.empty.place ["p"] .directory).place ["config.lnegc"] (.file .empty)
  let tree := tree.place ["p", "tests"] .directory
  ⟨tree.place ["p", "tests", "x.lnegc"] (.file .empty), []⟩

private theorem noLinks_unwritten : unwritten.tree.NoLinks := by decide +kernel

private theorem absolute_unwritten : unwritten.absolute ⟨"p"⟩ = .ok ⟨"/p"⟩ :=
  eq_ok_of_toOption (by decide +kernel)

private theorem spot_unwritten : (Path.mk "/p").spot unwritten.here = ["p"] := by decide +kernel

/-- Settings for prompts in a new folder beneath the root, with a copy of those from before. -/
def intoProject : Settings :=
  { settingsAt ⟨"p"⟩ with output := ⟨"p/new/prompt.txt"⟩, backup := true }

/-- No prompts, temporary file or copy is a document. -/
private theorem passes_eq_false {scanner : Scanner} (extension : settings.extension = "lnegc")
    (scanned : Scanner.ofSettings w settings = .ok scanner) :
    ∀ relative ∈ ["new/prompt.txt", "new/prompt.tmp", "new/prompt.txt.backup.0",
      "documentacao-x/prompt.txt", "documentacao-x/prompt.tmp"], scanner.passes relative = false := by
  obtain ⟨-, documents, -, -⟩ := Scanner.ofSettings_eq_ok_iff.mp scanned
  have globs : ∃ glob, Scanner.documentGlob "lnegc" = .ok glob ∧
      ∀ relative ∈ ["new/prompt.txt", "new/prompt.tmp", "new/prompt.txt.backup.0",
        "documentacao-x/prompt.txt", "documentacao-x/prompt.tmp"], glob.isMatch relative = false :=
    Outcome.exists_ok_of_decide (by decide +kernel)
  obtain ⟨glob, read, refused⟩ := globs
  intro relative listed
  rw [extension] at documents
  obtain rfl := Except.ok.inj (read.symm.trans documents)
  rw [Scanner.passes, refused relative listed, Bool.false_and]

private theorem ignores_intoProject {loc : Location}
    (touched : intoProject.Touches 0 unwritten.here loc) : intoProject.Ignores unwritten loc := by
  have near : ∃ name ∈ ["prompt.txt", "prompt.tmp", "prompt.txt.backup.0"],
      loc = ["p", "new", name] := by
    rcases touched with rfl | rfl | ⟨_, name, named, rfl⟩
    · exact ⟨"prompt.txt", by decide +kernel⟩
    · exact ⟨"prompt.tmp", by decide +kernel⟩
    · obtain rfl : "prompt.txt" = name := by
        have own : intoProject.output.fileName? = some "prompt.txt" := by decide +kernel
        exact Option.some.inj (own.symm.trans named)
      exact ⟨"prompt.txt.backup.0", by decide +kernel⟩
  obtain ⟨name, listed, rfl⟩ := near
  have facts : ∀ name ∈ ["prompt.txt", "prompt.tmp", "prompt.txt.backup.0"],
      name ≠ "config.lnegc" ∧ "/".intercalate ["new", name] ∈ ["new/prompt.txt", "new/prompt.tmp",
        "new/prompt.txt.backup.0", "documentacao-x/prompt.txt", "documentacao-x/prompt.tmp"] := by
    decide
  refine ignores_of_absolute absolute_unwritten rfl (by simpa using (facts name listed).1)
    fun scanner scanned names same => ?_
  rw [spot_unwritten] at same
  obtain rfl : names = ["new", name] := by simpa using same
  exact passes_eq_false rfl scanned _ (facts name listed).2

/-- The first run makes the folder, and the second one a copy in it. -/
theorem run_again_intoProject :
    ∃ report s, (unwritten.tree.NoLinks ∧ intoProject.dryRun = false ∧
        (∀ loc, intoProject.Touches 0 unwritten.here loc → intoProject.Ignores unwritten loc) ∧
        ((intoProject.run (toString 0)).run unwritten).result = .ok report ∧
        ((intoProject.run (toString 0)).run unwritten).workspace unwritten = s ∧
        (∀ scanner, Scanner.ofSettings unwritten intoProject = .ok scanner →
          ∀ found ∈ s.listing scanner.root, found ∉ unwritten.listing scanner.root →
            scanner.outOfReach found = false) ∧
        (intoProject.backup = true → ∀ name ∈ intoProject.output.fileName?,
          HasRoomForCopy intoProject 1 s name)) ∧
      ((intoProject.run (toString 1)).run s).result = .ok report ∧
        ∃ bytes, s.readBytes intoProject.output = .ok bytes ∧
          (((intoProject.run (toString 1)).run s).workspace s).readBytes intoProject.output =
            .ok bytes ∧
          (intoProject.backup = true → ∃ name, intoProject.output.fileName? = some name ∧
            (((intoProject.run (toString 1)).run s).workspace s).readBytes
              (backupPath intoProject.output name (toString 1)) = .ok bytes) := by
  have plain := noLinks_unwritten
  have evaluated : ((intoProject.run (toString 0)).run unwritten).result.isOk = true := by
    decide +kernel
  have room : ∀ name ∈ intoProject.output.fileName?, HasRoomForCopy intoProject 1
      (((intoProject.run (toString 0)).run unwritten).workspace unwritten) name := by
    intro name named
    obtain rfl : "prompt.txt" = name := by
      have own : intoProject.output.fileName? = some "prompt.txt" := by decide +kernel
      exact Option.some.inj (own.symm.trans named)
    constructor <;> decide +kernel
  -- The path of the new folder is short, so the walk of the second run opens it.
  have walks : ∃ scanner, Scanner.ofSettings unwritten intoProject = .ok scanner ∧
      scanner.Walks (((intoProject.run (toString 0)).run unwritten).workspace unwritten) :=
    Outcome.exists_ok_of_decide (by decide +kernel)
  obtain ⟨scanner, scanned, walks⟩ := walks
  have opens : ∀ scanner', Scanner.ofSettings unwritten intoProject = .ok scanner' →
      ∀ found ∈ (((intoProject.run (toString 0)).run unwritten).workspace unwritten).listing
        scanner'.root, found ∉ unwritten.listing scanner'.root →
        scanner'.outOfReach found = false := by
    intro scanner' scanned' found listed _
    obtain rfl := Except.ok.inj (scanned.symm.trans scanned')
    exact walks found listed
  obtain ⟨report, succeeds⟩ := Outcome.exists_ok_of_isOk evaluated
  exact ⟨report, _, ⟨plain, rfl, fun _ => ignores_intoProject, succeeds, rfl, opens, fun _ => room⟩,
    run_again plain rfl (fun _ => ignores_intoProject) succeeds rfl opens fun _ => room⟩

/-! ### Runs that cannot be repeated -/

/-- The settings write to nothing that a compilation reads, and their first run succeeds. Whenever
it is, the second run does not. -/
structure RunsOnce (settings : Settings) (w : Workspace) : Prop where
  plain : w.tree.NoLinks
  wet : settings.dryRun = false
  apart : ∀ (n : Nat) loc, settings.Touches n w.here loc → settings.Ignores w loc
  succeeds : ∃ report, ((settings.run (toString 0)).run w).result = .ok report
  fails : ∀ (n : Nat) report, ((settings.run (toString n)).run
    (((settings.run (toString 0)).run w).workspace w)).result ≠ .ok report

/-- A name that a directory can hold, but not with the ending of a copy. -/
def longName : String := String.ofList (List.replicate 250 'a')

private theorem toList_longName : longName.toList = List.replicate 250 'a' := String.toList_ofList

private theorem size_longName : longName.utf8ByteSize = 250 := by decide +kernel

/-- Settings for prompts in a file of that name, with a copy of those from before. -/
def longOutput : Settings :=
  { settingsAt ⟨"p"⟩ with output := ⟨longName⟩, backup := true }

private theorem isName_longName : IsName longName ∧ IsName (longName ++ ".tmp") := by
  have named : ∀ ending : String, '/' ∉ ending.toList → Char.ofNat 0 ∉ ending.toList →
      ending.utf8ByteSize ≤ 5 → IsName (longName ++ ending) := by
    intro ending noSlash noNul short
    have start : ∀ other : String, other.toList.length < 250 → longName ++ ending ≠ other := by
      rintro _ few rfl
      rw [String.toList_append, List.length_append, toList_longName, List.length_replicate] at few
      omega
    refine ⟨⟨start _ (by decide), start _ (by decide), start _ (by decide)⟩, ?_, ?_⟩
    · simp only [String.toList_append, toList_longName, List.mem_append, List.mem_replicate, not_or]
      exact ⟨⟨by decide, noSlash⟩, by decide, noNul⟩
    · rw [String.utf8ByteSize_append, size_longName]
      unfold longestName
      omega
  have alone := named "" (by decide) (by decide) (by decide)
  rw [String.append_empty] at alone
  exact ⟨alone, named ".tmp" (by decide) (by decide) (by decide)⟩

private theorem isStep_longName : Path.IsStep longName := by
  have valid := isName_longName.1
  exact ⟨valid.1.1, valid.1.2.1, valid.1.2.2, valid.2.1.1⟩

private theorem temporaryPath_longName : temporaryPath ⟨longName⟩ = ⟨longName ++ ".tmp"⟩ := by
  have whole : Path.stem (List.replicate 250 'a') = List.replicate 250 'a' :=
    Path.stem_eq_self fun dot => absurd (List.eq_of_mem_replicate dot) (by decide)
  have ending : String.ofList ('.' :: "tmp".toList) = ".tmp" := by decide
  have named : String.ofList (List.replicate 250 'a') = longName := rfl
  rw [temporaryPath, isStep_longName.withExtension_eq, toList_longName, whole, String.ofList_append,
    ending, named]

private theorem long_longName : 20 < longName.utf8ByteSize := by
  rw [size_longName]
  decide

private theorem long_append (ending : String) : 20 < (longName ++ ending).utf8ByteSize := by
  rw [String.utf8ByteSize_append]
  exact Nat.lt_add_right _ long_longName

private theorem get?_unwritten {name : String} (long : 20 < name.utf8ByteSize) :
    unwritten.tree.nodes.get? [name] = none := by
  have short : ∀ entry ∈ unwritten.tree.nodes.toList, ∀ name ∈ entry.1, name.utf8ByteSize ≤ 20 := by
    decide +kernel
  cases found : unwritten.tree.nodes.get? [name] with
  | none => rfl
  | some node =>
    have few := short _ (SortedMap.mem_toList_iff.mpr found) name (by simp)
    omega

private theorem ignores_longOutput {name : String} (long : 20 < name.utf8ByteSize) :
    longOutput.Ignores unwritten [name] := by
  refine ignores_of_absolute absolute_unwritten rfl ?_ fun _ _ names same => ?_
  · rintro same
    obtain rfl := Option.some.inj same
    exact absurd long (by decide)
  · rw [spot_unwritten] at same
    obtain rfl := (List.cons.inj same).1
    exact absurd long (by decide)

private theorem storable_unwritten {name : String} (valid : IsName name)
    (long : 20 < name.utf8ByteSize) :
    unwritten.Storable ⟨name⟩ ∧ (Path.mk name).spot unwritten.here = [name] := by
  obtain ⟨reached, spot⟩ := reaches_name noLinks_unwritten (.inl rfl) valid
  refine ⟨⟨reached, ?_⟩, spot⟩
  rw [spot]
  rintro (root | directory)
  · cases root
  · cases (get?_unwritten long).symm.trans directory

/-- The output and its temporary file can be stored beside the root. -/
private theorem storable_longOutput :
    (unwritten.Storable longOutput.output ∧ longOutput.output.spot unwritten.here = [longName]) ∧
      unwritten.Storable (temporaryPath longOutput.output) ∧
        (temporaryPath longOutput.output).spot unwritten.here = [longName ++ ".tmp"] := by
  have temporary : temporaryPath longOutput.output = ⟨longName ++ ".tmp"⟩ := temporaryPath_longName
  rw [temporary]
  exact ⟨storable_unwritten isName_longName.1 long_longName,
    storable_unwritten isName_longName.2 (long_append _)⟩

private theorem ready_unwritten : Ready longOutput.output unwritten := by
  obtain ⟨⟨output, _⟩, temporary, _⟩ := storable_longOutput
  refine ⟨fun parent found filled => ?_, output, temporary⟩
  obtain rfl := Option.some.inj (isStep_longName.parent?_eq.symm.trans found)
  exact absurd rfl filled

private theorem touches_longOutput {loc : Location}
    (touched : longOutput.Touches n unwritten.here loc) : longOutput.Ignores unwritten loc := by
  obtain ⟨⟨_, output⟩, _, temporary⟩ := storable_longOutput
  rcases touched with same | same | ⟨_, name, named, same⟩
  · rw [same, output]
    exact ignores_longOutput long_longName
  · rw [same, temporary]
    exact ignores_longOutput (long_append _)
  · obtain rfl := Option.some.inj (isStep_longName.fileName?_eq.symm.trans named)
    rw [same, spot_backupPath named, output, String.append_assoc]
    exact ignores_longOutput (long_append _)

private theorem not_pathExists_longOutput : ¬ unwritten.pathExists longOutput.output = true := by
  intro there
  obtain ⟨⟨output, spot⟩, _⟩ := storable_longOutput
  obtain ⟨content, leads⟩ := output.exists_lookup noLinks_unwritten there
  obtain ⟨_, _, _, _, taken⟩ := (lookup_file_iff noLinks_unwritten).mp leads
  rw [spot, get?_unwritten long_longName] at taken
  cases taken

private theorem not_fits_longName (ending : String) : ¬ IsName (longName ++ ".backup." ++ ending) := by
  rintro ⟨_, _, fits⟩
  have middle : ".backup.".utf8ByteSize = 8 := by decide
  simp only [String.utf8ByteSize_append, size_longName, middle, longestName] at fits
  omega

/-- The copy is wanted by both runs, and made by the second one only, which its name stops. -/
private theorem runsOnce_longOutput : RunsOnce longOutput unwritten := by
  have plain := noLinks_unwritten
  have compiles : ∃ c, (Compiler.prepare unwritten longOutput).result = .ok c ∧
      (c.compile unwritten).result.isOk = true := Outcome.exists_ok_of_decide (by decide +kernel)
  obtain ⟨c, prepared, compiles⟩ := compiles
  obtain ⟨compiled, ends⟩ := Outcome.exists_ok_of_isOk compiles
  obtain ⟨report, succeeds⟩ := exists_run_eq_ok prepared ends fun _ =>
    meets_publish_of_ready plain ready_unwritten fun _ there => absurd there not_pathExists_longOutput
  refine ⟨plain, rfl, fun _ _ => touches_longOutput, ⟨report, succeeds⟩, fun n report' again => ?_⟩
  obtain ⟨_, _, _, _, _, _, published, _⟩ := of_run_eq_ok plain rfl succeeds rfl
  have reads := published.readBytes_output
  have plain' := (steady_of_published (fun _ => touches_longOutput) published).evolves.noLinks
  obtain ⟨_, _, _, _, _, _, published', _⟩ := of_run_eq_ok plain' rfl again rfl
  obtain ⟨name, named, copied⟩ := published'.file_copy rfl reads
  rw [((readBytes_eq_ok_iff plain').mp reads).2, FileTree.file?_eq_some_iff] at copied
  obtain rfl := Option.some.inj (isStep_longName.fileName?_eq.symm.trans named)
  have valid := FileTree.named _ _ _ copied (longName ++ ".backup." ++ toString n) (by simp)
  exact not_fits_longName _ valid

/-- Settings for prompts in a new folder beneath a root that is spelled long. -/
def longFolder : Settings :=
  { settingsAt longRoot with output := ⟨"p/documentacao-x/prompt.txt"⟩ }

private theorem noLinks_noTest : noTest.tree.NoLinks := by decide +kernel

private theorem touches_longFolder {loc : Location}
    (touched : longFolder.Touches n noTest.here loc) : longFolder.Ignores noTest loc := by
  have near : ∃ name ∈ ["prompt.txt", "prompt.tmp"], loc = ["p", "documentacao-x", name] := by
    rcases touched with rfl | rfl | ⟨wanted, -⟩
    · exact ⟨"prompt.txt", by decide +kernel⟩
    · exact ⟨"prompt.tmp", by decide +kernel⟩
    · cases wanted
  obtain ⟨name, listed, rfl⟩ := near
  have facts : ∀ name ∈ ["prompt.txt", "prompt.tmp"], name ≠ "config.lnegc" ∧
      "/".intercalate ["documentacao-x", name] ∈ ["new/prompt.txt", "new/prompt.tmp",
        "new/prompt.txt.backup.0", "documentacao-x/prompt.txt", "documentacao-x/prompt.tmp"] := by
    decide
  refine ignores_of_absolute (absolute_longRoot noTest) rfl (by simpa using (facts name listed).1)
    fun scanner scanned names same => ?_
  rw [spot_of_lookup noLinks_noTest (lookup_longRoot directory_noTest)] at same
  obtain rfl : names = ["documentacao-x", name] := by simpa using same
  exact passes_eq_false rfl scanned _ (facts name listed).2

/-- The folder is made, and the prompts can be stored in it. -/
private theorem meets_makeParent_longFolder :
    (makeParent longFolder.output).Meets noTest (fun _ => True)
      (fun _ s => s.tree.NoLinks ∧ s.Storable longFolder.output ∧
        s.Storable (temporaryPath longFolder.output)) (fun _ => False) := by
  have made : ((makeParent longFolder.output).run noTest).result.isOk = true ∧
      ((((makeParent longFolder.output).run noTest).workspace noTest).tree.NoLinks ∧
        (((makeParent longFolder.output).run noTest).workspace noTest).locateEntry longFolder.output =
          .ok (["p", "documentacao-x"], .name "prompt.txt" false) ∧
        (((makeParent longFolder.output).run noTest).workspace noTest).locateEntry
          (temporaryPath longFolder.output) =
          .ok (["p", "documentacao-x"], .name "prompt.tmp" false)) ∧
      ∀ name ∈ ["prompt.txt", "prompt.tmp"], ¬ IsDirectoryIn
        (((makeParent longFolder.output).run noTest).workspace noTest).tree.nodes
        ["p", "documentacao-x", name] := by
    decide +kernel
  obtain ⟨ended, ⟨plain, output, temporary⟩, free⟩ := made
  have storable : ∀ path name, name ∈ ["prompt.txt", "prompt.tmp"] →
      (((makeParent longFolder.output).run noTest).workspace noTest).locateEntry path =
        .ok (["p", "documentacao-x"], .name name false) →
      (((makeParent longFolder.output).run noTest).workspace noTest).Storable path := by
    intro path name listed reached
    refine ⟨⟨_, _, reached⟩, ?_⟩
    rw [(spot_of_locateEntry plain reached).1]
    exact free name listed
  refine ⟨fun _ _ => trivial, fun _ _ => ⟨plain, ?_, ?_⟩, fun failure failed => ?_⟩
  · exact storable _ _ (by simp) output
  · exact storable _ _ (by simp) temporary
  · rw [failed] at ended
    cases ended

private theorem meets_publish_longFolder (prompts : List String) :
    (publish longFolder (toString 0) prompts).Meets noTest (fun _ => True) (fun _ _ => True)
      (fun _ => False) := by
  refine meets_stages meets_makeParent_longFolder (fun _ _ => trivial) nofun (fun _ made _ => made) ?_
  rintro s ⟨plain, output, temporary⟩
  exact meets_replace_of_storable plain output temporary

/-- The walk of the second run cannot open the folder that the first one has made. -/
private theorem runsOnce_longFolder : RunsOnce longFolder noTest := by
  have plain := noLinks_noTest
  obtain ⟨c, ready⟩ := exists_readyAtLongRoot directory_noTest (by decide) longFolder.output
  obtain ⟨compiled, ends⟩ := ready.exists_compile_noTest
  have prepared : (Compiler.prepare noTest longFolder).result = .ok c := ready.prepared
  obtain ⟨report, succeeds⟩ := exists_run_eq_ok prepared ends meets_publish_longFolder
  refine ⟨plain, rfl, fun _ _ => touches_longFolder, ⟨report, succeeds⟩, fun n report' again => ?_⟩
  obtain ⟨_, _, _, _, _, _, published, after⟩ := of_run_eq_ok plain rfl succeeds rfl
  have evolves := (steady_of_published (fun _ => touches_longFolder) published).evolves
  obtain ⟨c', _, _, prepared', compiled', _, _, _⟩ := of_run_eq_ok evolves.noLinks rfl again rfl
  have rooted : c'.scanner.root = longRoot :=
    Except.ok.inj ((Compiler.absolute_of_prepare prepared').symm.trans (absolute_longRoot _))
  -- The folder is there, and its path, as the root is spelled, is too long to be opened.
  obtain ⟨loc, leads⟩ := after.parent ⟨"p/documentacao-x"⟩ (by decide +kernel) (by decide)
  obtain rfl : ["p", "documentacao-x"] = loc := by
    rw [← spot_of_lookup evolves.noLinks leads, evolves.here_eq]
    decide +kernel
  have top := (evolves.directories ["p"] (.inr directory_noTest)).resolve_left (by simp)
  have folder := (FileTree.isDirectoryIn_of_node? (lookup_eq_ok_iff.mp leads).2.2).resolve_left
    (by simp)
  have beneath : (["documentacao-x"], Node.directory) ∈ FileTree.beneath _ ["p"] :=
    FileTree.mem_beneath_of_get? (by simp) folder
  have listed := Scanner.mem_listing_of_mem_beneath (lookup_longRoot top) beneath
  rw [← rooted] at listed
  have reached := Compiler.walks_of_compile compiled' _ listed
  rw [outOfReach_longRoot rooted beneath] at reached
  exact absurd reached (by decide)

/-- A run that succeeds can leave behind what makes every later one fail: an output whose name leaves
no room for the ending of a copy, or a folder that is too deep to be opened. -/
theorem runsOnce_longOutput_and_longFolder :
    RunsOnce longOutput unwritten ∧ RunsOnce longFolder noTest :=
  ⟨runsOnce_longOutput, runsOnce_longFolder⟩

end Settings

end SpecPrompt
