import ClientGen.Proofs.Disk.Frame

namespace ClientGen

namespace Disk

variable {before middle disk after : Disk} {path : Path} {root spot top start : Place}

def Near (root spot : Place) : Prop := root <+: spot ∨ spot <+: root

instance (root spot : Place) : Decidable (Near root spot) := inferInstanceAs (Decidable (_ ∨ _))

theorem Near.above (near : Near root spot) (above : start <+: spot) : Near root start := by
  rcases near with below | upper
  · exact List.prefix_or_prefix_of_prefix below above
  · exact .inr (above.trans upper)

def awayFrom (root : Place) (disk : Disk) : List (Place × Entry) :=
  disk.entries.filter fun item => ¬ Near root item.1

-- The entries that are not near the root are the same, in the same order.
structure Aside (root : Place) (before after : Disk) : Prop where
  workingDirectory : after.workingDirectory = before.workingDirectory
  entries : after.awayFrom root = before.awayFrom root

namespace Aside

theorem refl (root : Place) (disk : Disk) : Aside root disk disk := ⟨rfl, rfl⟩

theorem trans (first : Aside root before middle) (second : Aside root middle after) : Aside root before after :=
  ⟨second.workingDirectory.trans first.workingDirectory, second.entries.trans first.entries⟩

theorem put (near : Near root spot) (disk : Disk) (entry : Entry) : Aside root disk (disk.put spot entry) := by
  refine ⟨rfl, ?_⟩
  rw [awayFrom, awayFrom, Disk.put]
  induction disk.entries with
  | nil => simp [putEntry, near]
  | cons item rest ih =>
    obtain ⟨other, held⟩ := item
    rw [putEntry]
    split
    next same => simp [same, near]
    next => rw [List.filter_cons, List.filter_cons, ih]

theorem filter (disk : Disk) (keep : Place → Bool) (kept : ∀ spot, keep spot = false → Near root spot) :
    Aside root disk { disk with entries := disk.entries.filter fun item => keep item.1 } := by
  refine ⟨rfl, ?_⟩
  rw [awayFrom, awayFrom, List.filter_filter]
  refine List.filter_congr fun item _ => ?_
  cases keeps : keep item.1 with
  | true => rw [Bool.and_true]
  | false => simp [kept _ keeps]

theorem removeDirectory (descends : path.Descends) (below : root <+: disk.place path) :
    Aside root disk (disk.removeDirectory path).2 := by
  rcases left_removeDirectory descends disk with same | same | same
  · rw [same]
    exact refl root disk
  · rw [same]
    refine filter disk (fun spot => !((disk.place path).isPrefixOf spot && spot != disk.place path)) ?_
    intro spot removed
    simp only [Bool.not_eq_false', Bool.and_eq_true, List.isPrefixOf_iff_prefix] at removed
    exact .inl (below.trans removed.1)
  · rw [same]
    refine filter disk (fun spot => !(disk.place path).isPrefixOf spot) fun spot removed => ?_
    rw [Bool.not_eq_false', List.isPrefixOf_iff_prefix] at removed
    exact .inl (below.trans removed)

theorem filterMap {α : Type} {read : Place × Entry → Option α} (aside : Aside root before after)
    (blind : ∀ item, Near root item.1 → read item = none) :
    after.entries.filterMap read = before.entries.filterMap read := by
  have only : ∀ disk : Disk, disk.entries.filterMap read = (disk.awayFrom root).filterMap read := by
    intro disk
    rw [awayFrom, List.filterMap_filter]
    refine congrArg (disk.entries.filterMap ·) (funext fun item => ?_)
    by_cases near : Near root item.1
    · simp [near, blind item near]
    · simp [near]
  rw [only, only, aside.entries]

end Aside

end Disk

end ClientGen
