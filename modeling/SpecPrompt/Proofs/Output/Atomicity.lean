import SpecPrompt.Proofs.Output.Publish

/-!
# Atomicity

An interruption between two steps of writing the prompts leaves at the output what was there before
or all of the prompts.

## Main result

`fileAt_of_mem_states`: what the output holds in every state on the way.
-/

namespace SpecPrompt.Output

open Workspace

/-- Whether an output is its own temporary file, for it has the extension of one. -/
def IsOwnTemporary (output : Path) : Prop :=
  ∃ name ∈ output.fileName?, String.ofList (Path.stem name.toList) ++ ".tmp" = name

instance (output : Path) : Decidable (IsOwnTemporary output) :=
  inferInstanceAs (Decidable (∃ name ∈ output.fileName?, _))

variable {w : Workspace} {settings : Settings} {prompts : List String} {n : Nat}

theorem spot_ne_temporaryPath {output : Path} {name : String} (apart : ¬ IsOwnTemporary output)
    (named : output.fileName? = some name) (here : Location) :
    output.spot here ≠ (temporaryPath output).spot here := by
  rw [spot_temporaryPath named, ne_eq, Path.spot_eq_sibling_iff named]
  intro same
  exact apart ⟨name, named, same.symm⟩

/-- In every state on the way to the prompts, the output holds what it held before, or all of the
prompts, or, if its directory was not there before, the file to which the path now leads. -/
theorem fileAt_of_mem_states (plain : w.tree.NoLinks) (apart : ¬ IsOwnTemporary settings.output)
    {s : Workspace} (reached : s ∈ ((publish settings (toString n) prompts).run w).states w) :
    s.fileAt settings.output = w.fileAt settings.output ∨
      s.fileAt settings.output = some (contentOf prompts) ∨
      (∀ entry, w.locateEntry settings.output ≠ .ok entry) ∧
        s.fileAt settings.output = w.tree.file? (settings.output.spot w.here) := by
  have stage := (meets_publish plain).always s reached
  have evolves : w.Evolves s := by
    rcases stage with ⟨files, _, beside⟩ | ⟨files, _, _, replaced⟩
    · exact beside.evolves
    · exact replaced.holding.evolves
  by_cases now : s.Reaches settings.output
  · have holds : s.fileAt settings.output = s.tree.file? (settings.output.spot w.here) := by
      rw [fileAt_of_reaches evolves.noLinks now, evolves.here_eq]
    rcases stage with ⟨files, kept, beside⟩ | ⟨files, _, _, replaced⟩
    · obtain ⟨parent, name, entry⟩ := now
      have named := fileName?_of_locateEntry evolves.noLinks entry
      have same : s.fileAt settings.output = w.tree.file? (settings.output.spot w.here) := by
        rw [holds, beside.files_eq _ (spot_ne_temporaryPath apart named w.here), kept.output_eq]
      by_cases before : w.Reaches settings.output
      · left
        rw [same, fileAt_of_reaches plain before]
      -- What could be looked up before is looked up as before.
      · refine .inr (.inr ⟨?_, same⟩)
        rintro ⟨above, step⟩ found
        have later := evolves.locateEntry_eq_ok plain found
        rw [entry] at later
        cases later
        exact before ⟨parent, name, found⟩
    · right
      left
      rw [holds, replaced.holding.files_eq, Function.update_self]
  -- What could be reached before can still be reached.
  · left
    have before : ¬ w.Reaches settings.output := fun before => now (evolves.reaches plain before)
    rw [fileAt_of_not_reaches evolves.noLinks now, fileAt_of_not_reaches plain before]

/-- A prompt file in the root, and a directory that has the name of its temporary file. -/
def guarded : Workspace :=
  let tree := FileTree.empty.place ["prompt.txt"] (.file "velho".toUTF8)
  ⟨tree.place ["prompt.tmp"] .directory, []⟩

/-- The settings for an output beside the prompt file, spelled by way of a directory that is not
there yet. -/
def roundabout : Settings := { output := ⟨"novo/../prompt.txt"⟩ }

/-- Making a directory on the way brings a path to a file that was there all along. -/
theorem fileAt_roundabout :
    guarded.tree.NoLinks ∧ guarded.fileAt roundabout.output = none ∧
      ∃ s ∈ ((publish roundabout (toString 0) ["a"]).run guarded).states guarded,
        s.fileAt roundabout.output = some "velho".toUTF8 ∧
          s.fileAt roundabout.output ≠ some (contentOf ["a"]) := by
  decide +kernel

theorem fileAt_of_mem_states_roundabout :
    let history := (publish roundabout (toString 0) ["a"]).run guarded
    let s := history.workspace guarded
    (guarded.tree.NoLinks ∧ ¬ IsOwnTemporary roundabout.output ∧ s ∈ history.states guarded) ∧
      (s.fileAt roundabout.output = guarded.fileAt roundabout.output ∨
        s.fileAt roundabout.output = some (contentOf ["a"]) ∨
        (∀ entry, guarded.locateEntry roundabout.output ≠ .ok entry) ∧
          s.fileAt roundabout.output =
            guarded.tree.file? (roundabout.output.spot guarded.here)) := by
  have plain : guarded.tree.NoLinks := by decide +kernel
  have apart : ¬ IsOwnTemporary roundabout.output := by decide +kernel
  have reached := History.workspace_mem_states
    ((publish roundabout (toString 0) ["a"]).run guarded) guarded
  exact ⟨⟨plain, apart, reached⟩, fileAt_of_mem_states plain apart reached⟩

end SpecPrompt.Output
