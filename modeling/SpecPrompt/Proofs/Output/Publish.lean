import SpecPrompt.Output.Publish
import SpecPrompt.Proofs.Files.Changes
import SpecPrompt.Proofs.Output.Writing

/-!
# Writing the prompts in steps

Only three files change while the prompts are written: the copy of the output, the temporary file,
and at last the output itself, in the step that also takes the temporary file away. All three lie
in one directory, and the copy has a name of its own.

## Main results

- `spot_temporaryPath`, `spot_backupPath`: where the temporary file and the copy are.
- `meets_publish`: the states that the writing goes through, and those it ends in.
-/

namespace SpecPrompt

open Workspace

variable {w s s' : Workspace} {files : Location → Option ByteArray} {loc : Location}

/-! ### States on the way -/

/-- A workspace that `w` became, with the given files. -/
structure Holding (w : Workspace) (files : Location → Option ByteArray) (s : Workspace) : Prop where
  evolves : w.Evolves s
  files_eq : s.tree.file? = files

/-- A workspace that `w` became, with the given files but for one location. -/
structure Beside (w : Workspace) (files : Location → Option ByteArray) (loc : Location)
    (s : Workspace) : Prop where
  evolves : w.Evolves s
  files_eq : ∀ other, other ≠ loc → s.tree.file? other = files other

theorem Holding.refl (plain : w.tree.NoLinks) : Holding w w.tree.file? w :=
  ⟨.refl plain, rfl⟩

theorem Holding.beside (h : Holding w files s) (loc : Location) : Beside w files loc s :=
  ⟨h.evolves, fun other _ => congrFun h.files_eq other⟩

theorem Holding.beside_update {content : Option ByteArray}
    (h : Holding w (Function.update files loc content) s) : Beside w files loc s := by
  refine ⟨h.evolves, fun other apart => ?_⟩
  rw [h.files_eq, Function.update_of_ne apart]

theorem Holding.readBytes_eq_ok {p : Path} {content : ByteArray} (plain : w.tree.NoLinks)
    (h : Holding w w.tree.file? s) (reads : w.readBytes p = .ok content) :
    s.readBytes p = .ok content := by
  obtain ⟨reached, file⟩ := (readBytes_eq_ok_iff plain).mp reads
  refine (readBytes_eq_ok_iff h.evolves.noLinks).mpr ⟨h.evolves.reaches plain reached, ?_⟩
  rwa [h.evolves.here_eq, h.files_eq]

theorem Holding.apply {change : Change} (h : Holding w files s) (applied : change.apply s = .ok s') :
    Holding w (change.filesAfter w.here files) s' := by
  obtain ⟨evolves, files_eq⟩ := Change.apply_eq_ok h.evolves.noLinks applied
  refine ⟨h.evolves.trans evolves, ?_⟩
  rw [files_eq, h.evolves.here_eq, h.files_eq]

namespace Output

variable {output : Path} {name stamp : String} {content : ByteArray}

/-! ### Names beside the output -/

theorem spot_temporaryPath (named : output.fileName? = some name) (here : Location) :
    (temporaryPath output).spot here =
      (output.spot here).dropLast ++ [String.ofList (Path.stem name.toList) ++ ".tmp"] := by
  have ending : String.ofList ('.' :: "tmp".toList) = ".tmp" := by decide
  rw [temporaryPath, Path.spot_withExtension named (by decide) (by decide), String.ofList_append,
    ending]

theorem isDigit_of_mem_toString {n : Nat} {c : Char} (h : c ∈ (toString n).toList) :
    c.isDigit = true := by
  rw [Nat.toString_eq_ofList_toDigits, String.toList_ofList] at h
  exact Nat.isDigit_of_mem_toDigits (by decide) (by decide) h

/-- The name of a copy leads one step down. -/
theorem isStep_copy (named : output.fileName? = some name) (n : Nat) :
    Path.IsStep (name ++ ".backup." ++ toString n) := by
  have long : 2 < (name ++ ".backup." ++ toString n).toList.length := by
    have middle : ".backup.".toList.length = 8 := rfl
    simp only [String.toList_append, List.length_append, middle]
    omega
  have noSlash : '/' ∉ (name ++ ".backup." ++ toString n).toList := by
    simp only [String.toList_append, List.mem_append, not_or]
    refine ⟨⟨Path.not_slash_mem_of_fileName? named, by decide⟩, fun slash => ?_⟩
    exact absurd (isDigit_of_mem_toString slash) (by decide)
  have step := Path.IsStep.of_length long noSlash
  rwa [String.ofList_toList] at step

theorem spot_backupPath (named : output.fileName? = some name) (n : Nat) (here : Location) :
    (backupPath output name (toString n)).spot here =
      (output.spot here).dropLast ++ [name ++ ".backup." ++ toString n] :=
  Path.spot_withFileName named (isStep_copy named n) here

theorem spot_ne_backupPath (named : output.fileName? = some name) (n : Nat) (here : Location) :
    output.spot here ≠ (backupPath output name (toString n)).spot here := by
  rw [spot_backupPath named, ne_eq, Path.spot_eq_sibling_iff named]
  intro same
  -- The copy has the longer name.
  have longer := congrArg String.length same
  have middle : ".backup.".length = 8 := rfl
  simp only [String.length_append, middle] at longer
  omega

theorem spot_temporaryPath_ne_backupPath (named : output.fileName? = some name) (n : Nat)
    (here : Location) :
    (temporaryPath output).spot here ≠ (backupPath output name (toString n)).spot here := by
  rw [spot_temporaryPath named, spot_backupPath named]
  intro same
  rw [List.append_cancel_left_eq, List.singleton_inj] at same
  -- The name of the copy ends in a digit, that of the temporary file in a letter.
  have ends := congrArg (fun s : String => s.toList.getLast?) same
  have letter : ".tmp".toList.getLast? = some 'p' := rfl
  have filled : (toString n).toList ≠ [] := by
    rw [Nat.toString_eq_ofList_toDigits, String.toList_ofList]
    exact Nat.toDigits_ne_nil
  simp only [String.toList_append, String.toList_ofList] at ends
  rw [List.getLast?_append_of_ne_nil _ (by decide), List.getLast?_append_of_ne_nil _ filled,
    letter, eq_comm] at ends
  exact absurd (isDigit_of_mem_toString (List.mem_of_getLast? ends)) (by decide)

/-! ### The directory of the output -/

section

variable {stays : Workspace → Prop}
  (keeps : ∀ path s s', stays s → s.makeDirectory path = .ok s' → stays s')
include keeps

open Writing in
theorem preserves_makeDirectory (path : Path) : Preserves stays (makeDirectory path) := by
  unfold makeDirectory
  have made : Preserves stays (attempt (.makeDirectory path)) :=
    preserves_attempt fun s s' h applied => keeps path s s' h applied
  refine made.bind fun made => ?_
  cases made with
  | ok _ => exact preserves_pure _
  | error fault =>
    refine preserves_current.bind fun s => ?_
    split <;> exact preserves_pure _

theorem preserves_ensureDirectory (paths : List Path) :
    Writing.Preserves stays (ensureDirectory paths) := by
  induction paths with
  | nil => exact Writing.preserves_pure _
  | cons path parents ih =>
    unfold ensureDirectory
    split
    · exact Writing.preserves_pure _
    refine (preserves_makeDirectory keeps path).bind fun made => ?_
    split
    -- The induction is on the directories above: they are made, and the first is tried again.
    · refine ih.bind fun parent => ?_
      cases parent with
      | ok _ => exact preserves_makeDirectory keeps path
      | error fault => exact Writing.preserves_pure _
    · exact Writing.preserves_pure _

/-- What no new directory changes stays while the directory of the output is made. -/
theorem preserves_makeParent (output : Path) : Writing.Preserves stays (makeParent output) := by
  unfold makeParent
  split
  · exact Writing.preserves_pure _
  · split
    · exact Writing.preserves_pure _
    · refine (preserves_ensureDirectory keeps _).bind fun made => ?_
      cases made with
      | ok _ => exact Writing.preserves_pure _
      | error fault => exact Writing.preserves_fail _

end

theorem holding_makeParent (output : Path) :
    Writing.Preserves (Holding w files) (makeParent output) :=
  preserves_makeParent (fun path _ _ held made => by
    have applied : (Change.makeDirectory path).apply _ = .ok _ := made
    exact held.apply applied) output

/-! ### The temporary file -/

/-- The output has got its content, and the temporary file is gone. -/
structure Replaced (w : Workspace) (files : Location → Option ByteArray) (output : Path)
    (content : ByteArray) (s : Workspace) : Prop where
  reaches : s.Reaches output
  holding : Holding w
    (Function.update (Function.update files ((temporaryPath output).spot w.here) none)
      (output.spot w.here) (some content)) s

/-- Up to the last step only the temporary file changes. -/
theorem meets_replace (h : Holding w files s) :
    (replace output content).Meets s
      (fun s' => Beside w files ((temporaryPath output).spot w.here) s' ∨
        Replaced w files output content s')
      (fun _ => Replaced w files output content)
      (Beside w files ((temporaryPath output).spot w.here)) := by
  have start := h.beside ((temporaryPath output).spot w.here)
  unfold replace
  -- `empty`, `full`, `durable` and `moved` are the files after each of the four changes.
  refine Writing.meets_bind (Writing.meets_perform (.inl start) (fun _ _ => start) fun s₁ created => ?_)
  have empty := h.apply created
  rw [Change.filesAfter] at empty
  refine ⟨.inl empty.beside_update, ?_⟩
  refine Writing.meets_bind
    (Writing.meets_perform (.inl empty.beside_update) (fun _ _ => empty.beside_update) fun s₂ written => ?_)
  have full := empty.apply written
  rw [Change.filesAfter, Function.update_idem] at full
  refine ⟨.inl full.beside_update, ?_⟩
  refine Writing.meets_bind
    (Writing.meets_perform (.inl full.beside_update) (fun _ _ => full.beside_update) fun s₃ synced => ?_)
  have durable := full.apply synced
  rw [Change.filesAfter] at durable
  refine ⟨.inl durable.beside_update, ?_⟩
  refine Writing.meets_perform (.inl durable.beside_update) (fun _ _ => durable.beside_update) fun s₄ renamed => ?_
  have moved := durable.apply renamed
  rw [Change.filesAfter, Function.update_idem, Function.update_self] at moved
  obtain ⟨reached, evolves, _⟩ := rename_eq_ok durable.evolves.noLinks renamed
  have replaced : Replaced w files output content s₄ :=
    ⟨evolves.reaches durable.evolves.noLinks reached, moved⟩
  exact ⟨.inr replaced, replaced⟩

/-! ### The copy -/

/-- The files of `w` with a copy of the output under a name for `stamp`. -/
def WithCopy (settings : Settings) (stamp : String) (w : Workspace)
    (files : Location → Option ByteArray) : Prop :=
  settings.backup = true ∧ ∃ name, settings.output.fileName? = some name ∧
    files = Function.update w.tree.file? ((backupPath settings.output name stamp).spot w.here)
      (w.tree.file? (settings.output.spot w.here))

/-- The files of `w`, with a copy of the output or without. -/
def Kept (settings : Settings) (stamp : String) (w : Workspace)
    (files : Location → Option ByteArray) : Prop :=
  files = w.tree.file? ∨ WithCopy settings stamp w files

variable {settings : Settings} {prompts : List String} {n : Nat}

theorem meets_backUp (wanted : settings.backup = true) (h : Holding w w.tree.file? s) :
    (backUp settings.output (toString n)).Meets s
      (fun s' => ∃ files, Kept settings (toString n) w files ∧ Holding w files s')
      (fun _ s' => ∃ files, WithCopy settings (toString n) w files ∧ Holding w files s')
      (Holding w w.tree.file?) := by
  have start : ∃ files, Kept settings (toString n) w files ∧ Holding w files s := ⟨_, .inl rfl, h⟩
  unfold backUp
  split
  · exact Writing.meets_fail start h
  next name named =>
    refine Writing.meets_bind (Writing.meets_perform start (fun _ _ => h) fun s₁ copied => ?_)
    have held := h.apply copied
    -- The output is not copied to itself, which would empty it.
    rw [Change.filesAfter, if_neg (spot_ne_backupPath named n w.here).symm] at held
    have copy : WithCopy settings (toString n) w _ := ⟨wanted, name, named, rfl⟩
    have after : ∃ files, Kept settings (toString n) w files ∧ Holding w files s₁ :=
      ⟨_, .inr copy, held⟩
    exact ⟨after, Writing.meets_report after ⟨_, copy, held⟩⟩

/-! ### All steps -/

theorem publish_eq (settings : Settings) (stamp : String) (prompts : List String) :
    publish settings stamp prompts =
      makeParent settings.output >>= fun _ =>
        Writing.current >>= fun s =>
          (if settings.backup && s.pathExists settings.output then backUp settings.output stamp
            else pure ()) >>= fun _ =>
            replace settings.output (contentOf prompts) >>= fun _ =>
              Writing.report (.written prompts.length settings.output) := by
  unfold publish
  refine congrArg _ (funext fun _ => ?_)
  refine congrArg _ (funext fun s => ?_)
  split
  · rfl
  · rw [Writing.pure_bind]

/-- The prompts are written in three stages, each from what the one before it leaves behind. -/
theorem meets_stages {stamp : String} {always made copied done failed : Workspace → Prop}
    (parent : (makeParent settings.output).Meets w always (fun _ => made) failed)
    (reached : ∀ s, made s ∨ done s → always s)
    (copy : ∀ s, made s → settings.backup = true → s.pathExists settings.output = true →
      (backUp settings.output stamp).Meets s always (fun _ => copied) failed)
    (noCopy : ∀ s, made s → (settings.backup = true → ¬ s.pathExists settings.output = true) →
      copied s)
    (replaced : ∀ s, copied s →
      (replace settings.output (contentOf prompts)).Meets s always (fun _ => done) failed) :
    (publish settings stamp prompts).Meets w always (fun _ => done) failed := by
  rw [publish_eq]
  refine Writing.meets_bind (parent.mono (fun _ => id) (fun _ s there => ?_) fun _ => id)
  refine Writing.meets_bind (Writing.meets_current (reached s (.inl there)) ?_)
  have both : (if settings.backup && s.pathExists settings.output then
      backUp settings.output stamp else pure ()).Meets s always (fun _ => copied) failed := by
    split
    next wanted =>
      obtain ⟨wanted, old⟩ := Bool.and_eq_true_iff.mp wanted
      exact copy s there wanted old
    next unwanted =>
      refine Writing.meets_pure (reached s (.inl there)) (noCopy s there fun wanted old => ?_)
      exact unwanted (Bool.and_eq_true_iff.mpr ⟨wanted, old⟩)
  refine Writing.meets_bind (both.mono (fun _ => id) (fun _ s kept => ?_) fun _ => id)
  refine Writing.meets_bind ((replaced s kept).mono (fun _ => id) (fun _ s ends => ?_) fun _ => id)
  exact Writing.meets_report (reached s (.inr ends)) ends

/-- Before the output is replaced, no file has changed but the temporary one and the copy. -/
def Unpublished (settings : Settings) (stamp : String) (w s : Workspace) : Prop :=
  ∃ files, Kept settings stamp w files ∧
    Beside w files ((temporaryPath settings.output).spot w.here) s

/-- Once the output is replaced, there is a copy of what could be read if one is wanted. -/
def Published (settings : Settings) (stamp : String) (prompts : List String) (w s : Workspace) :
    Prop :=
  ∃ files, Kept settings stamp w files ∧
    (settings.backup = true → (∃ bytes, w.readBytes settings.output = .ok bytes) →
      WithCopy settings stamp w files) ∧
    Replaced w files settings.output (contentOf prompts) s

/-- Before the output is replaced, there is a copy of what could be read if one is wanted. -/
def Copied (settings : Settings) (stamp : String) (w s : Workspace) : Prop :=
  ∃ files, Kept settings stamp w files ∧
    (settings.backup = true → (∃ bytes, w.readBytes settings.output = .ok bytes) →
      WithCopy settings stamp w files) ∧
    Holding w files s

theorem unpublished_of_holding (h : Holding w w.tree.file? s) : Unpublished settings stamp w s :=
  ⟨_, .inl rfl, h.beside _⟩

/-- Every state that the writing of the prompts goes through is one from before or from after the
output is replaced, and only a success ends after that. -/
theorem meets_publish (plain : w.tree.NoLinks) :
    (publish settings (toString n) prompts).Meets w
      (fun s => Unpublished settings (toString n) w s ∨ Published settings (toString n) prompts w s)
      (fun _ => Published settings (toString n) prompts w)
      (Unpublished settings (toString n) w) := by
  have copy : ∀ s, Holding w w.tree.file? s → settings.backup = true →
      s.pathExists settings.output = true →
      (backUp settings.output (toString n)).Meets s
        (fun s => Unpublished settings (toString n) w s ∨ Published settings (toString n) prompts w s)
        (fun _ => Copied settings (toString n) w) (Unpublished settings (toString n) w) := by
    intro s held wanted _
    refine (meets_backUp wanted held).mono ?_ ?_ fun _ held => unpublished_of_holding held
    · rintro s ⟨files, kept, held⟩
      exact .inl ⟨files, kept, held.beside _⟩
    · rintro _ s ⟨files, copy, held⟩
      exact ⟨files, .inr copy, fun _ _ => copy, held⟩
  refine meets_stages ((holding_makeParent _ w (.refl plain)).mono
    (fun _ held => .inl (unpublished_of_holding held)) (fun _ _ => id)
    fun _ held => unpublished_of_holding held) ?_ copy (fun s held noCopy => ?_) ?_
  · exact fun s ends => ends.imp unpublished_of_holding id
  -- What could be read before the parents were made is still there.
  · refine ⟨_, .inl rfl, ?_, held⟩
    rintro wanted ⟨bytes, reads⟩
    obtain ⟨loc, found⟩ := exists_lookup_of_readBytes (held.readBytes_eq_ok plain reads)
    refine absurd ?_ (noCopy wanted)
    rw [pathExists, found]
    rfl
  · rintro s ⟨files, kept, copied, held⟩
    have published : ∀ s, Replaced w files settings.output (contentOf prompts) s →
        Published settings (toString n) prompts w s :=
      fun s replaced => ⟨files, kept, copied, replaced⟩
    refine (meets_replace held).mono (fun s stage => ?_) (fun _ => published) fun s beside => ?_
    · exact stage.imp (fun beside => ⟨files, kept, beside⟩) (published s)
    · exact ⟨files, kept, beside⟩

/-! ### The files on the way -/

theorem Kept.output_eq (h : Kept settings (toString n) w files) :
    files (settings.output.spot w.here) = w.tree.file? (settings.output.spot w.here) := by
  rcases h with rfl | ⟨_, name, named, rfl⟩
  · rfl
  · exact Function.update_of_ne (spot_ne_backupPath named n w.here) _ _

theorem Kept.file_eq (h : Kept settings (toString n) w files) (loc : Location) :
    files loc = w.tree.file? loc ∨
      settings.backup = true ∧ ∃ name, settings.output.fileName? = some name ∧
        loc = (settings.output.spot w.here).dropLast ++ [name ++ ".backup." ++ toString n] ∧
        files loc = w.tree.file? (settings.output.spot w.here) := by
  rcases h with rfl | ⟨wanted, name, named, rfl⟩
  · exact .inl rfl
  rw [spot_backupPath named]
  by_cases copy :
      loc = (settings.output.spot w.here).dropLast ++ [name ++ ".backup." ++ toString n]
  · subst copy
    exact .inr ⟨wanted, name, named, rfl, Function.update_self _ _ _⟩
  · exact .inl (Function.update_of_ne copy _ _)

end Output

end SpecPrompt
