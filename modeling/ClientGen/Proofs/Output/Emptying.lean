import ClientGen.Proofs.Disk.Aside
import ClientGen.Proofs.Disk.Grounded
import ClientGen.Proofs.Output.Effect

namespace ClientGen.Output

open Disk (Grounded Aside Fits)

-- A mode leaves nothing there, the output directory itself apart.
def BaseMode.Empties (mode : BaseMode) (root spot : Place) : Prop :=
  spot ≠ root ∧ ∃ top ∈ mode.removes root, top <+: spot

instance (mode : BaseMode) (root spot : Place) : Decidable (mode.Empties root spot) :=
  inferInstanceAs (Decidable (_ ∧ _))

section Emptying

variable {mode : BaseMode} {root front spot top : Place}

theorem empties_regenerate : BaseMode.regenerate.Empties root spot ↔ spot ≠ root ∧ root <+: spot := by
  simp [BaseMode.Empties, BaseMode.removes]

theorem empties_keep : BaseMode.keep.Empties root spot ↔ root ++ ["api"] <+: spot ∨ root ++ ["model"] <+: spot := by
  have deeper : root ++ ["api"] <+: spot ∨ root ++ ["model"] <+: spot → spot ≠ root := by
    rintro (below | below) rfl <;> exact absurd below.length_le (by simp)
  simpa [BaseMode.Empties, BaseMode.removes] using deeper

theorem empties_of_removes (removed : top ∈ BaseMode.keep.removes root) (below : top <+: spot) :
    BaseMode.keep.Empties root spot := by
  rw [BaseMode.removes, List.mem_cons, List.mem_singleton] at removed
  rw [empties_keep]
  rcases removed with rfl | rfl
  · exact .inl below
  · exact .inr below

theorem below_of_removes (removed : top ∈ mode.removes root) : root <+: top := by
  cases mode with
  | fresh => cases removed
  | regenerate => exact List.mem_singleton.mp removed ▸ List.prefix_rfl
  | keep =>
    rw [BaseMode.removes, List.mem_cons, List.mem_singleton] at removed
    rcases removed with rfl | rfl
    · exact List.prefix_append _ _
    · exact List.prefix_append _ _

theorem BaseMode.Empties.below (empties : mode.Empties root spot) : root <+: spot := by
  obtain ⟨_, top, removed, below⟩ := empties
  exact (below_of_removes removed).trans below

theorem length_of_removes (removed : top ∈ mode.removes root) : top.length ≤ root.length + 1 := by
  cases mode with
  | fresh => cases removed
  | regenerate => simp [List.mem_singleton.mp removed]
  | keep =>
    rw [BaseMode.removes, List.mem_cons, List.mem_singleton] at removed
    rcases removed with rfl | rfl <;> simp

theorem BaseMode.Empties.above (empties : mode.Empties root spot) (above : front <+: spot) (below : root <+: front)
    (proper : front ≠ root) : mode.Empties root front := by
  obtain ⟨_, top, removed, upper⟩ := empties
  refine ⟨proper, top, removed, List.prefix_of_prefix_length_le upper above ?_⟩
  have longer := below.length_le
  have different : root.length ≠ front.length := fun same => proper (below.eq_of_length same).symm
  have bound := length_of_removes removed
  omega

theorem root_spared (mode : BaseMode) (root : Place) : ¬ mode.Empties root root := fun empties => empties.1 rfl

theorem base_spared (root : Place) : ¬ BaseMode.keep.Empties root (root ++ baseFile) := by
  rintro ⟨_, top, removed, below⟩
  exact base_apart top removed below

end Emptying

section Upholding

variable {out : Path}

theorem away_ordinary {path : Path} (ordinary : Path.Ordinary path) (disk : Disk) :
    ¬ disk.place path <+: disk.workingDirectory := by
  intro above
  have shorter := above.length_le
  have named := List.length_pos_iff.mpr ordinary.named
  rw [ordinary.place, List.length_append] at shorter
  omega

theorem upheld_grounded (ordinary : Path.Ordinary out) :
    Upheld out fun before after => before.Grounded → after.Grounded where
  transmits := Disk.transmits_grounded
  makes _ _ made grounded := grounded.makeDirectory made
  writes _ _ written grounded := grounded.write written
  removes := by
    intro path disk descends below grounded
    have away : ¬ disk.place path <+: disk.workingDirectory := fun above =>
      away_ordinary ordinary disk (below.trans above)
    have deep : disk.place path ≠ [] := fun top => away (top ▸ List.nil_prefix)
    rcases Disk.left_removeDirectory descends disk with same | same | same
    · rw [same]
      exact grounded
    · rw [same]
      refine ⟨grounded.sound.clear _, ?_⟩
      rw [Disk.entryAt_clear, if_neg fun under => away under.1]
      exact grounded.working
    · rw [same]
      exact grounded.prune deep away

theorem upheld_aside (out : Path) : Upheld out fun before after => Aside (before.place out) before after where
  transmits := Disk.transmits_place out .refl .trans Aside.workingDirectory
  makes descends along made := by
    obtain ⟨_, rfl⟩ := Disk.makeDirectory_eq descends made
    exact .put along.symm _ _
  removes descends below := .removeDirectory descends below
  writes descends within written := by
    rw [Disk.write_eq descends written]
    exact .put (.inl within.below) _ _

end Upholding

section Preparing

variable {mode : BaseMode} {root spot : Place} {out path : Path} {disk ready after : Disk} {writeBase : Bool}

-- After a directory has been removed if it was there, a file can only be left where the path does not find it.
theorem vacant_removeIfThere (sound : disk.Sound) (ordinary : Path.Ordinary path) (fits : Fits path)
    (ran : (Folder.removeIfThere path).run.run disk = (.ok (), after)) (below : disk.place path <+: spot) :
    after.entryAt spot = none ∨ spot = disk.place path ∧ path.endsInSlash = true := by
  obtain ⟨looked, _, got, later⟩ := Action.bind_ok ran
  cases got
  split at later
  next =>
    obtain ⟨_, rfl⟩ := Disk.pruned_of_removeDirectory ordinary.plain ordinary.named (Action.attempt_ok later)
    left
    rw [Disk.entryAt_prune (Disk.deep_place ordinary.plain ordinary.named disk), if_pos below]
  next missing =>
    obtain ⟨_, rfl⟩ := Action.pure_ok later
    have absent : ∀ entry, (path.endsInSlash = true → entry = .directory) →
        after.entryAt (after.place path) ≠ some entry := by
      intro entry slash held
      apply missing
      rw [Disk.exists?, Disk.find_of_entryAt sound ordinary.plain ordinary.named fits slash held]
      rfl
    cases held : after.entryAt spot with
    | none => exact .inl rfl
    | some entry =>
      right
      by_cases here : spot = after.place path
      · refine ⟨here, ?_⟩
        rw [here] at held
        by_contra noSlash
        exact absent entry (fun slash => absurd slash noSlash) held
      · exact absurd (sound.above held below fun same => here same.symm) (absent .directory fun _ => rfl)

theorem vacant_part {part : Path} (listed : part ∈ parts) (sound : disk.Sound) (ordinary : Path.Ordinary out)
    (fits : Fits (Path.join out part)) (ran : (Folder.removeIfThere (Path.join out part)).run.run disk = (.ok (), after))
    (below : disk.place out ++ [part] <+: spot) : after.entryAt spot = none := by
  rw [← place_part ordinary.written listed disk] at below
  rcases vacant_removeIfThere sound (ordinary_part ordinary listed) fits ran below with vacant | ⟨_, slash⟩
  · exact vacant
  · simp only [parts, List.mem_cons, List.not_mem_nil, or_false] at listed
    rcases listed with rfl | rfl | rfl <;> rw [Path.endsInSlash_join (by decide) (by decide)] at slash <;> cases slash

theorem part_unique {one other : String} (first : root ++ [one] <+: spot) (second : root ++ [other] <+: spot) :
    one = other := by
  have same := (List.prefix_of_prefix_length_le first second (by simp)).eq_of_length (by simp)
  exact List.singleton_inj.mp (List.append_cancel_left same)

theorem vacant_makeReady (sound : disk.Sound) (ordinary : Path.Ordinary out) (removable : Removable ⟨out⟩)
    (ran : ((Folder.mk out).makeReady mode).run.run disk = (.ok writeBase, ready))
    (empties : mode.Empties (disk.place out) spot) : ready.entryAt spot = none := by
  -- The output directory is made last, which changes nothing below it.
  have made : ∀ {cleared : Disk} {wanted : Bool}, cleared.workingDirectory = disk.workingDirectory →
      (do Action.makeDirectories out; pure wanted : Action Bool).run.run cleared = (.ok writeBase, ready) →
      cleared.entryAt spot = none → ready.entryAt spot = none := by
    intro cleared wanted same finished vacant
    obtain ⟨_, attempted⟩ := makeDirectories_ok finished
    have opened := Disk.opened_makeDirectories ordinary.descends cleared
    rw [attempted, Disk.place_congr same] at opened
    rcases opened.entryAt spot with kept | ⟨above, _, _⟩
    · exact kept.trans vacant
    · exact absurd (above.eq_of_length_le empties.below.length_le) empties.1
  cases mode with
  | fresh =>
    obtain ⟨_, top, removed, _⟩ := empties
    cases removed
  | regenerate =>
    obtain ⟨_, cleared, gone, rest⟩ := Action.bind_ok ran
    have emptied := (emptied_removeIfThere sound ordinary removable.root gone).1
    refine made emptied.workingDirectory rest ?_
    rcases vacant_removeIfThere sound ordinary removable.root gone empties.below with vacant | ⟨here, _⟩
    · exact vacant
    · exact absurd here empties.1
  | keep =>
    obtain ⟨_, middle, apiGone, rest⟩ := Action.bind_ok ran
    obtain ⟨_, cleared, modelGone, rest⟩ := Action.bind_ok rest
    obtain ⟨_, _, got, rest⟩ := Action.bind_ok rest
    cases got
    obtain ⟨apiEmptied, still⟩ :=
      emptied_removeIfThere sound (ordinary_part ordinary (by decide)) removable.api apiGone
    obtain ⟨modelEmptied, _⟩ :=
      emptied_removeIfThere still (ordinary_part ordinary (by decide)) removable.model modelGone
    have same : middle.place out = disk.place out := Disk.place_congr apiEmptied.workingDirectory out
    refine made (modelEmptied.workingDirectory.trans apiEmptied.workingDirectory) rest ?_
    rcases empties_keep.mp empties with below | below
    · rw [modelEmptied.away]
      · exact vacant_part (by decide) sound ordinary removable.api apiGone below
      · rw [place_part ordinary.written (by decide), List.forall_mem_singleton, same]
        exact fun also => absurd (part_unique below also) (by decide)
    · exact vacant_part (by decide) still ordinary removable.model modelGone (same ▸ below)

end Preparing

section Writing

variable {mode : BaseMode} {root front spot : Place} {library : Template.Library} {page : Page}
  {pages : List Page} {disk after : Disk}

theorem changed_writePage (ordinary : Path.Ordinary page.path)
    (ran : (writePage library page).run.run disk = (.ok (), after)) :
    after.workingDirectory = disk.workingDirectory ∧ ∀ spot, after.entryAt spot = disk.entryAt spot ∨
      spot <+: disk.place page.path ∧ disk.entryAt spot ≠ some .directory := by
  obtain ⟨_, middle, _, opened, free, rfl, _⟩ := put_writePage ordinary ran
  refine ⟨opened.workingDirectory, fun spot => ?_⟩
  by_cases here : spot = disk.place page.path
  · right
    rw [here]
    exact ⟨List.prefix_rfl, fun there => free (opened.directories there)⟩
  · rw [Disk.entryAt_put_ne here]
    rcases opened.entryAt spot with same | ⟨above, missing, _⟩
    · exact .inl same
    · right
      rw [missing]
      exact ⟨above, nofun⟩

-- Pages that are for such places leave all others as they were, where the way to the output directory is made of
-- directories. Induction on the pages: what the first one leaves has that way still.
theorem unchanged_pages (ordinary : ∀ page ∈ pages, Path.Ordinary page.path)
    (placed : ∀ page ∈ pages, mode.Empties root (disk.place page.path))
    (rooted : ∀ front, front <+: root → disk.entryAt front = some .directory)
    (ran : (pages.forM (writePage library)).run.run disk = (.ok (), after)) :
    ∀ spot, ¬ mode.Empties root spot → after.entryAt spot = disk.entryAt spot := by
  induction pages generalizing disk with
  | nil =>
    obtain ⟨_, rfl⟩ := Action.pure_ok ran
    exact fun _ _ => rfl
  | cons page rest ih =>
    obtain ⟨_, middle, first, later⟩ := Action.bind_ok ran
    rw [List.forall_mem_cons] at ordinary placed
    obtain ⟨workingDirectory, changed⟩ := changed_writePage ordinary.1 first
    have one : ∀ spot, ¬ mode.Empties root spot → middle.entryAt spot = disk.entryAt spot := by
      intro spot outside
      rcases changed spot with same | ⟨above, noDirectory⟩
      · exact same
      · exfalso
        by_cases upper : spot <+: root
        · exact noDirectory (rooted spot upper)
        · have below : root <+: spot :=
            (List.prefix_or_prefix_of_prefix placed.1.below above).resolve_right upper
          exact outside (placed.1.above above below fun same => upper (same ▸ List.prefix_rfl))
    have still : ∀ front, front <+: root → middle.entryAt front = some .directory := by
      intro front above
      rw [one]
      · exact rooted front above
      · exact fun empties => empties.1 (above.eq_of_length_le empties.below.length_le)
    intro spot outside
    rw [← one spot outside]
    refine ih ordinary.2 (fun other member => ?_) still later spot outside
    rw [Disk.place_congr workingDirectory]
    exact placed.2 other member

end Writing

end ClientGen.Output
