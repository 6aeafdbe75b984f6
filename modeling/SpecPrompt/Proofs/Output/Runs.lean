import SpecPrompt.Proofs.Output.Publish
import SpecPrompt.Proofs.Project.Duplicates
import SpecPrompt.Run

/-!
# What a run does

A run that fails leaves the output as it was, and one that succeeds leaves there what its compiler
makes of the files before it. Beside the output, only the copy and the temporary file change. The
name of the temporary file may be that of another file, which is then lost.

## Main results

- `run_frame`: the files that a run leaves as they were.
- `run_agrees`: what a run that succeeds writes and reports.
-/

namespace SpecPrompt

open Outcome Workspace

variable {w : Workspace} {settings : Settings} {stamp : String}

/-! ### Compiling and reporting -/

namespace Compiler

variable {c : Compiler} {language : String} {prompts : Prompts}

private theorem eq_map_lookup {α β : Type} [DecidableEq α] {entries : List (α × List β)}
    (distinct : (entries.map Prod.fst).Nodup) :
    entries = (entries.map Prod.fst).map fun k => (k, (entries.lookup k).getD []) := by
  induction entries with
  | nil => rfl
  | cons entry entries ih =>
    obtain ⟨k, v⟩ := entry
    rw [List.map_cons, List.nodup_cons] at distinct
    obtain ⟨fresh, distinct⟩ := distinct
    have rest : (entries.map Prod.fst).map (fun other =>
        (other, (((k, v) :: entries).lookup other).getD [])) = entries := by
      conv_rhs => rw [ih distinct]
      refine List.map_congr_left fun other listed => ?_
      have apart : other ≠ k := by
        rintro rfl
        exact fresh listed
      rw [List.lookup_cons, beq_false_of_ne apart]
    rw [List.map_cons, List.map_cons, rest, List.lookup_cons_self]
    rfl

theorem byCategory_of_compile (h : (c.compile w).result = .ok (language, prompts)) :
    prompts.byCategory = Category.all.map fun category => (category, prompts.of category) := by
  unfold compile compileWith at h
  obtain ⟨configuration, _, h⟩ := bind_eq_ok_iff.mp h
  obtain ⟨chosen, _, h⟩ := bind_eq_ok_iff.mp h
  obtain ⟨scanned, _, h⟩ := bind_eq_ok_iff.mp h
  obtain ⟨compiled, results, h⟩ := bind_eq_ok_iff.mp h
  obtain ⟨rfl, rfl⟩ := Prod.mk.inj (Except.ok.inj h)
  have listed : compiled.map Prod.fst = Category.all := by
    have each := mapM_result_eq_ok_iff.mp results
    rw [← List.forall₂_eq_eq_eq, List.forall₂_map_left_iff]
    exact (each.imp fun category entry h => (compileCategory_eq_ok h).1).flip
  have distinct : (compiled.map Prod.fst).Nodup := by
    rw [listed]
    decide
  have entries := eq_map_lookup distinct
  rwa [listed] at entries

theorem targetLanguage_of_compile (h : (c.compile w).result = .ok (language, prompts)) :
    (c.targetLanguage w).result = .ok language := by
  unfold compile compileWith at h
  obtain ⟨configuration, located, h⟩ := bind_eq_ok_iff.mp h
  obtain ⟨chosen, stated, h⟩ := bind_eq_ok_iff.mp h
  obtain ⟨scanned, _, h⟩ := bind_eq_ok_iff.mp h
  obtain ⟨compiled, _, h⟩ := bind_eq_ok_iff.mp h
  obtain ⟨rfl, rfl⟩ := Prod.mk.inj (Except.ok.inj h)
  rw [targetLanguage, result_bind_of_ok located, stated]

/-- What holds at the end of a run that succeeds, if `written` holds once the prompts are written. -/
def Finishes (c : Compiler) (w : Workspace) (written : List String → Workspace → Prop)
    (report : RunReport) (s : Workspace) : Prop :=
  ∃ language prompts, (c.compile w).result = .ok (language, prompts) ∧
    report = .ofPrompts c.settings language prompts ∧
    if c.settings.dryRun then s = w else written prompts.flatten s

variable {written : List String → Workspace → Prop} {failed : Workspace → Prop}

/-- A run only writes the prompts, and that only if they can be made and it is no dry run. -/
theorem meets_run (unmade : ∀ failure, (c.compile w).result = .error failure → failed w)
    (writes : ∀ language prompts, (c.compile w).result = .ok (language, prompts) →
      c.settings.dryRun = false → (Output.publish c.settings stamp prompts.flatten).Meets w
        (fun _ => True) (fun _ => written prompts.flatten) failed) :
    (c.run stamp).Meets w (fun _ => True) (c.Finishes w written) failed := by
  unfold run
  refine Writing.meets_bind (Writing.meets_report trivial ?_)
  refine Writing.meets_bind (Writing.meets_report trivial ?_)
  refine Writing.meets_bind (Writing.meets_ofOutcome trivial ?_ unmade)
  rintro ⟨language, prompts⟩ compiled
  refine Writing.meets_bind (Writing.meets_report trivial ?_)
  -- What follows is the same whether or not a lack of prompts is reported.
  have write : (do
      if c.settings.dryRun then Writing.report .writingSkipped
      else
        Writing.report .writingStarted
        Output.publish c.settings stamp prompts.flatten
      Writing.report .runFinished
      pure (.ofPrompts c.settings language prompts) : Writing RunReport).Meets w (fun _ => True)
        (c.Finishes w written) failed := by
    split
    next dry =>
      refine Writing.meets_bind (Writing.meets_report trivial ?_)
      refine Writing.meets_bind (Writing.meets_report trivial ?_)
      refine Writing.meets_pure trivial ⟨language, prompts, compiled, rfl, ?_⟩
      rw [if_pos dry]
    next wet =>
      refine Writing.meets_bind (Writing.meets_report trivial ?_)
      refine Writing.meets_bind ((writes language prompts compiled (by simpa using wet)).mono
        (fun _ => id) (fun _ s ends => ?_) fun _ => id)
      refine Writing.meets_bind (Writing.meets_report trivial ?_)
      refine Writing.meets_pure trivial ⟨language, prompts, compiled, rfl, ?_⟩
      rwa [if_neg wet]
  cases prompts.isEmpty with
  | true => exact Writing.meets_bind (Writing.meets_report trivial write)
  | false => exact write

end Compiler

namespace Settings

/-- A run of settings is one of the compiler that is made ready with them. -/
theorem meets_run {written : List String → Workspace → Prop} {failed : Workspace → Prop}
    (unready : ∀ failure, (Compiler.prepare w settings).result = .error failure → failed w)
    (unmade : ∀ c failure, (Compiler.prepare w settings).result = .ok c →
      (c.compile w).result = .error failure → failed w)
    (writes : settings.dryRun = false → ∀ prompts, (Output.publish settings stamp prompts).Meets w
      (fun _ => True) (fun _ => written prompts) failed) :
    (settings.run stamp).Meets w (fun _ => True)
      (fun report s => ∃ c, (Compiler.prepare w settings).result = .ok c ∧
        c.settings = settings ∧ c.Finishes w written report s) failed := by
  unfold run
  refine Writing.meets_bind (Writing.meets_ofOutcome trivial ?_ unready)
  intro c prepared
  obtain ⟨_, _, _, own⟩ := Compiler.of_prepare_eq_ok prepared
  have met : (c.run stamp).Meets w (fun _ => True) (c.Finishes w written) failed := by
    refine c.meets_run (fun failure => unmade c failure prepared) fun language prompts _ wet => ?_
    rw [own] at wet ⊢
    exact writes wet prompts.flatten
  exact met.mono (fun _ => id) (fun report s ends => ⟨c, prepared, own, ends⟩) fun _ => id

/-- On a tree without links, a run that fails has changed no file but the temporary one and the copy. -/
theorem meets_run_plain (settings : Settings) (n : Nat) (plain : w.tree.NoLinks) :
    (settings.run (toString n)).Meets w (fun _ => True)
      (fun report s => ∃ c, (Compiler.prepare w settings).result = .ok c ∧ c.settings = settings ∧
        c.Finishes w (fun prompts => Output.Published settings (toString n) prompts w) report s)
      (fun s => s = w ∨ settings.dryRun = false ∧ Output.Unpublished settings (toString n) w s) := by
  refine meets_run (fun _ _ => .inl rfl) (fun _ _ _ _ => .inl rfl) fun wet prompts => ?_
  exact (Output.meets_publish plain).mono (fun _ _ => trivial) (fun _ _ => id)
    fun s unpublished => .inr ⟨wet, unpublished⟩

end Settings

/-! ### The files after a run -/

namespace Output

variable {n : Nat} {prompts : List String} {s : Workspace}

/-- Whether `loc` is the place for a copy made at the time `n`, and holds what the output held. -/
def HoldsCopy (settings : Settings) (n : Nat) (w s : Workspace) (loc : Location) : Prop :=
  settings.backup = true ∧ ∃ name, settings.output.fileName? = some name ∧
    loc = (settings.output.spot w.here).dropLast ++ [name ++ ".backup." ++ toString n] ∧
    s.tree.file? loc = w.tree.file? (settings.output.spot w.here)

theorem Unpublished.file_eq (h : Unpublished settings (toString n) w s) (loc : Location) :
    s.tree.file? loc = w.tree.file? loc ∨ loc = (temporaryPath settings.output).spot w.here ∨
      HoldsCopy settings n w s loc := by
  obtain ⟨files, kept, beside⟩ := h
  by_cases temporary : loc = (temporaryPath settings.output).spot w.here
  · exact .inr (.inl temporary)
  · rw [HoldsCopy, beside.files_eq loc temporary]
    exact (kept.file_eq loc).imp_right .inr

theorem Unpublished.file_output (h : Unpublished settings (toString n) w s)
    (apart : (temporaryPath settings.output).spot w.here ≠ settings.output.spot w.here) :
    s.tree.file? (settings.output.spot w.here) = w.tree.file? (settings.output.spot w.here) := by
  obtain ⟨files, kept, beside⟩ := h
  rw [beside.files_eq _ apart.symm, kept.output_eq]

namespace Published

variable (h : Published settings (toString n) prompts w s)
include h

theorem file_eq (loc : Location) :
    s.tree.file? loc = w.tree.file? loc ∨ loc = settings.output.spot w.here ∨
      loc = (temporaryPath settings.output).spot w.here ∨ HoldsCopy settings n w s loc := by
  obtain ⟨files, kept, _, replaced⟩ := h
  by_cases output : loc = settings.output.spot w.here
  · exact .inr (.inl output)
  by_cases temporary : loc = (temporaryPath settings.output).spot w.here
  · exact .inr (.inr (.inl temporary))
  · rw [HoldsCopy, replaced.holding.files_eq, Function.update_of_ne output,
      Function.update_of_ne temporary]
    exact (kept.file_eq loc).imp_right fun copy => .inr (.inr copy)

theorem file_temporary
    (apart : (temporaryPath settings.output).spot w.here ≠ settings.output.spot w.here) :
    s.tree.file? ((temporaryPath settings.output).spot w.here) = none := by
  obtain ⟨files, _, _, replaced⟩ := h
  rw [replaced.holding.files_eq, Function.update_of_ne apart, Function.update_self]

theorem readBytes_output : s.readBytes settings.output = .ok (contentOf prompts) := by
  obtain ⟨files, _, _, reached, held⟩ := h
  rw [readBytes_eq_ok_iff held.evolves.noLinks, held.evolves.here_eq, held.files_eq]
  exact ⟨reached, Function.update_self _ _ _⟩

theorem readText_output : s.readText settings.output = .ok (separator.intercalate prompts) := by
  have decoded : String.fromUTF8? (contentOf prompts) = some (separator.intercalate prompts) :=
    dif_pos (separator.intercalate prompts).isValidUTF8
  rw [readText, h.readBytes_output]
  simp [bind, Except.bind, decoded]

theorem file_copy (wanted : settings.backup = true) {bytes : ByteArray}
    (reads : w.readBytes settings.output = .ok bytes) :
    ∃ name, settings.output.fileName? = some name ∧
      s.tree.file? ((settings.output.spot w.here).dropLast ++ [name ++ ".backup." ++ toString n]) =
        w.tree.file? (settings.output.spot w.here) := by
  obtain ⟨files, _, copied, replaced⟩ := h
  obtain ⟨_, name, named, rfl⟩ := copied wanted ⟨bytes, reads⟩
  refine ⟨name, named, ?_⟩
  rw [← spot_backupPath named, replaced.holding.files_eq,
    Function.update_of_ne (spot_ne_backupPath named n w.here).symm,
    Function.update_of_ne (spot_temporaryPath_ne_backupPath named n w.here).symm,
    Function.update_self]

end Published

end Output

namespace Settings

open Output

variable {n : Nat}

/-- What becomes of the regular files in a run: `s` is the workspace after it. -/
structure RunFrame (settings : Settings) (n : Nat) (w s : Workspace)
    (result : Except Failure RunReport) : Prop where
  /-- A file elsewhere is as it was, and there is no new one. -/
  others : ∀ loc, loc ≠ settings.output.spot w.here →
    loc ≠ (temporaryPath settings.output).spot w.here →
    ¬ HoldsCopy settings n w s loc → s.tree.file? loc = w.tree.file? loc
  /-- Nothing is left at the place of the temporary file, not even a file that was there before. -/
  temporary : ∀ report, result = .ok report → settings.dryRun = false →
    (temporaryPath settings.output).spot w.here ≠ settings.output.spot w.here →
    s.tree.file? ((temporaryPath settings.output).spot w.here) = none
  /-- A run that fails leaves the output. -/
  output : ∀ failure, result = .error failure →
    (temporaryPath settings.output).spot w.here ≠ settings.output.spot w.here →
    s.tree.file? (settings.output.spot w.here) = w.tree.file? (settings.output.spot w.here)
  dry : settings.dryRun = true → s = w

namespace RunFrame

variable {s : Workspace} {result : Except Failure RunReport}

theorem of_unchanged (settings : Settings) (n : Nat) (w : Workspace)
    (idle : ∀ report, result = .ok report → settings.dryRun = true) :
    settings.RunFrame n w w result where
  others _ _ _ _ := rfl
  temporary report succeeds wet := by
    rw [idle report succeeds] at wet
    cases wet
  output _ _ _ := rfl
  dry _ := rfl

theorem of_unpublished (wet : settings.dryRun = false)
    (h : Unpublished settings (toString n) w s) (failure : Failure) :
    settings.RunFrame n w s (.error failure) where
  others loc _ apart noCopy := by
    rcases h.file_eq loc with same | temporary | copy
    · exact same
    · exact absurd temporary apart
    · exact absurd copy noCopy
  temporary := nofun
  output _ _ apart := h.file_output apart
  dry dry := by
    rw [wet] at dry
    cases dry

theorem of_published {prompts : List String} {report : RunReport} (wet : settings.dryRun = false)
    (h : Published settings (toString n) prompts w s) :
    settings.RunFrame n w s (.ok report) where
  others loc notOutput notTemporary noCopy := by
    rcases h.file_eq loc with same | output | temporary | copy
    · exact same
    · exact absurd output notOutput
    · exact absurd temporary notTemporary
    · exact absurd copy noCopy
  temporary _ _ _ apart := h.file_temporary apart
  output := nofun
  dry dry := by
    rw [wet] at dry
    cases dry

end RunFrame

/-- A run changes the output, the temporary file and the copy, and no other file. -/
theorem run_frame (plain : w.tree.NoLinks) (settings : Settings) (n : Nat) :
    settings.RunFrame n w (((settings.run (toString n)).run w).workspace w)
      ((settings.run (toString n)).run w).result := by
  have meets := settings.meets_run_plain n plain
  cases ended : ((settings.run (toString n)).run w).result with
  | error failure =>
    rcases meets.failed failure ended with unchanged | ⟨wet, unpublished⟩
    · rw [unchanged]
      exact .of_unchanged settings n w nofun
    · exact .of_unpublished wet unpublished failure
  | ok report =>
    obtain ⟨c, _, rfl, language, prompts, _, _, ends⟩ := meets.done report ended
    split at ends
    next dry =>
      rw [ends]
      exact .of_unchanged _ n w fun _ _ => dry
    next wet => exact .of_published (by simpa using wet) ends

/-- A project with one test, prompts from before, and a file of another origin that has the name of
their temporary file. -/
def crowded : Workspace :=
  let tree := (FileTree.empty.place ["p"] .directory).place ["config.lnegc"] (.file .empty)
  let tree := (tree.place ["p", "tests"] .directory).place ["p", "tests", "x.lnegc"] (.file .empty)
  let tree := tree.place ["prompt.txt"] (.file "velho".toUTF8)
  ⟨tree.place ["prompt.tmp"] (.file "notas".toUTF8), []⟩

/-- Settings that ask for a copy of the prompts from before. -/
def withCopy : Settings := { settingsAt ⟨"/p"⟩ with backup := true }

theorem run_frame_crowded :
    crowded.tree.NoLinks ∧
      withCopy.RunFrame 0 crowded (((withCopy.run (toString 0)).run crowded).workspace crowded)
        ((withCopy.run (toString 0)).run crowded).result := by
  have plain : crowded.tree.NoLinks := by decide +kernel
  exact ⟨plain, run_frame plain withCopy 0⟩

private theorem evaluated_crowded :
    ((withCopy.run (toString 0)).run crowded).result.isOk = true ∧
      (((withCopy.run (toString 0)).run crowded).workspace crowded).tree.file? ["prompt.tmp"] =
        none := by
  decide +kernel

/-- The file that happens to have the name of the temporary file is lost. -/
theorem run_crowded :
    crowded.tree.NoLinks ∧ crowded.tree.file? ["prompt.tmp"] = some "notas".toUTF8 ∧
      withCopy.output.spot crowded.here = ["prompt.txt"] ∧
      ((withCopy.run (toString 0)).run crowded).result.isOk = true ∧
      (((withCopy.run (toString 0)).run crowded).workspace crowded).tree.file? ["prompt.tmp"] =
        none := by
  refine ⟨?_, ?_, ?_, evaluated_crowded⟩
  · decide +kernel
  · decide +kernel
  · decide +kernel

/-- What a run that succeeds did and reports, by the prompts `prompts` of its compiler `c` on the
workspace `w` before it; `s` is the workspace after it. -/
structure RunAgrees (settings : Settings) (n : Nat) (w s : Workspace) (c : Compiler)
    (prompts : Prompts) (report : RunReport) : Prop where
  language : (c.targetLanguage w).result = .ok report.language
  counts : report.counts = Category.all.map fun category => (category, (prompts.of category).length)
  total : (report.counts.map Prod.snd).sum = report.total
  filesWritten : report.filesWritten = 0 ↔ settings.dryRun = true
  dry : settings.dryRun = true → s = w
  written : settings.dryRun = false →
    s.readText settings.output = .ok ("\n\n".intercalate prompts.flatten)
  /-- If the place for the copy is free, the copy is the one new file. -/
  copied : settings.dryRun = false → settings.backup = true →
    ∀ bytes, w.readBytes settings.output = .ok bytes →
      ∃ name copy, settings.output.fileName? = some name ∧
        copy = (settings.output.spot w.here).dropLast ++ [name ++ ".backup." ++ toString n] ∧
        (w.tree.file? copy = none → s.tree.file? copy = some bytes ∧
          ∀ loc, w.tree.file? loc = none → s.tree.file? loc ≠ none → loc = copy)

theorem sum_counts (settings : Settings) (language : String) (prompts : Prompts) :
    ((RunReport.ofPrompts settings language prompts).counts.map Prod.snd).sum =
      (RunReport.ofPrompts settings language prompts).total := by
  unfold RunReport.ofPrompts Prompts.total Prompts.flatten
  rw [List.length_flatMap, List.map_map]
  rfl

/-- A run that succeeds writes the prompts that the compiler makes, and reports them. -/
theorem run_agrees {report : RunReport} (plain : w.tree.NoLinks)
    (succeeds : ((settings.run (toString n)).run w).result = .ok report) :
    ∃ c language prompts, (Compiler.prepare w settings).result = .ok c ∧
      (c.compile w).result = .ok (language, prompts) ∧
      settings.RunAgrees n w (((settings.run (toString n)).run w).workspace w) c prompts report := by
  obtain ⟨c, prepared, rfl, language, prompts, compiled, rfl, ends⟩ :=
    (settings.meets_run_plain n plain).done report succeeds
  refine ⟨c, language, prompts, prepared, compiled, ?_⟩
  constructor
  case language => exact Compiler.targetLanguage_of_compile compiled
  case counts =>
    unfold RunReport.ofPrompts
    dsimp only
    rw [Compiler.byCategory_of_compile compiled, List.map_map]
    rfl
  case total => exact sum_counts _ _ _
  case filesWritten =>
    unfold RunReport.ofPrompts
    cases c.settings.dryRun <;> simp
  case dry =>
    intro dry
    rwa [if_pos dry] at ends
  case written =>
    intro wet
    rw [if_neg (by simp [wet])] at ends
    exact ends.readText_output
  case copied =>
    intro wet wanted bytes reads
    rw [if_neg (by simp [wet])] at ends
    have file := ((readBytes_eq_ok_iff plain).mp reads).2
    obtain ⟨name, named, holds⟩ := ends.file_copy wanted reads
    refine ⟨name, _, named, rfl, fun free => ⟨holds.trans file, fun loc absent present => ?_⟩⟩
    rcases ends.file_eq loc with same | output | temporary | ⟨_, name', named', copy, _⟩
    · exact absurd (same.trans absent) present
    · rw [output, file] at absent
      cases absent
    -- Only an output that is its own temporary file could be left there.
    · rw [temporary] at absent present
      refine absurd (ends.file_temporary fun same => ?_) present
      rw [same, file] at absent
      cases absent
    · obtain rfl := Option.some.inj (named.symm.trans named')
      exact copy

theorem run_agrees_crowded :
    ∃ report, (crowded.tree.NoLinks ∧
        ((withCopy.run (toString 0)).run crowded).result = .ok report) ∧
      ∃ c language prompts, (Compiler.prepare crowded withCopy).result = .ok c ∧
        (c.compile crowded).result = .ok (language, prompts) ∧
        withCopy.RunAgrees 0 crowded
          (((withCopy.run (toString 0)).run crowded).workspace crowded) c prompts report := by
  have plain : crowded.tree.NoLinks := by decide +kernel
  have evaluated := evaluated_crowded.1
  cases succeeds : ((withCopy.run (toString 0)).run crowded).result with
  | error failure =>
    rw [succeeds] at evaluated
    cases evaluated
  | ok report => exact ⟨report, ⟨plain, rfl⟩, run_agrees plain succeeds⟩

end Settings

end SpecPrompt
