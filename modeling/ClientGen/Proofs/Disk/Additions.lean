import ClientGen.Proofs.Disk.Frame

namespace ClientGen

def Entry.SameKind : Entry → Entry → Prop
  | .directory, .directory => True
  | .file _, .file _ => True
  | _, _ => False

theorem Entry.SameKind.refl (entry : Entry) : entry.SameKind entry := by
  cases entry <;> trivial

theorem Entry.SameKind.trans {first second third : Entry} (one : first.SameKind second)
    (two : second.SameKind third) : first.SameKind third := by
  cases first <;> cases second <;> cases third <;> trivial

namespace Disk

variable {paths : List Path} {path : Path} {before middle after disk : Disk} {spot : Place} {entry : Entry}

structure Adds (paths : List Path) (before after : Disk) : Prop where
  workingDirectory : after.workingDirectory = before.workingDirectory
  entryAt : ∀ spot entry, before.entryAt spot = some entry → ∃ now, after.entryAt spot = some now ∧
    now.SameKind entry ∧ (now = entry ∨ ∃ path ∈ paths, spot = before.destination path)

namespace Adds

theorem refl (paths : List Path) (disk : Disk) : Adds paths disk disk :=
  ⟨rfl, fun _ entry found => ⟨entry, found, .refl entry, .inl rfl⟩⟩

theorem trans (first : Adds paths before middle) (second : Adds paths middle after) :
    Adds paths before after := by
  refine ⟨second.workingDirectory.trans first.workingDirectory, ?_⟩
  intro spot entry found
  obtain ⟨next, foundNext, kindNext, sameNext⟩ := first.entryAt spot entry found
  obtain ⟨now, foundNow, kindNow, sameNow⟩ := second.entryAt spot next foundNext
  refine ⟨now, foundNow, kindNow.trans kindNext, ?_⟩
  obtain rfl | ⟨path, listed, here⟩ := sameNow
  · exact sameNext
  · rw [destination_congr first.workingDirectory] at here
    exact .inr ⟨path, listed, here⟩

theorem transmits (paths : List Path) : Action.Transmits (Adds paths) := ⟨refl paths, trans⟩

theorem of_missing (missing : disk.entryAt spot = none) (entry : Entry) :
    Adds paths disk (disk.put spot entry) := by
  refine ⟨rfl, fun other old found => ?_⟩
  have different : other ≠ spot := by
    rintro rfl
    rw [missing] at found
    cases found
  exact ⟨old, (entryAt_put_ne different).trans found, .refl old, .inl rfl⟩

theorem of_written {content : ByteArray} (listed : path ∈ paths) (written : disk.write path content = .ok after) :
    Adds paths disk after := by
  obtain ⟨noDirectory, rfl⟩ := write_destination written
  cases there : disk.entryAt (disk.destination path) with
  | none => exact of_missing there _
  | some entry =>
    cases entry with
    | directory => exact absurd there noDirectory
    | file old =>
      refine ⟨rfl, fun other entry found => ?_⟩
      by_cases here : other = disk.destination path
      · subst here
        rw [there] at found
        cases found
        have deep : disk.destination path ≠ [] := by
          intro root
          rw [root] at there
          cases there
        exact ⟨.file content, entryAt_put_self deep disk _, trivial, .inr ⟨path, listed, rfl⟩⟩
      · exact ⟨entry, (entryAt_put_ne here).trans found, .refl entry, .inl rfl⟩

theorem kept (adds : Adds paths before after) (found : before.entryAt spot = some entry) :
    ∃ now, after.entryAt spot = some now ∧ now.SameKind entry := by
  obtain ⟨now, held, kind, _⟩ := adds.entryAt spot entry found
  exact ⟨now, held, kind⟩

end Adds

theorem adds_makeDirectories (paths : List Path) (path : Path) (disk : Disk) :
    Adds paths disk (makeDirectories path disk).2 := by
  have made : ∀ {path : Path} {before after : Disk}, before.makeDirectory path = .ok after →
      Adds paths before after := by
    intro path before after made
    obtain ⟨missing, rfl⟩ := makeDirectory_destination made
    exact .of_missing missing .directory
  exact related_makeDirectories (Adds.transmits paths) (fun _ _ {_ _} => made) made disk

end Disk

section Writing

variable {paths : List Path} {path : Path}

theorem Action.adds_writeBelow (listed : path ∈ paths) (content : ByteArray) :
    Action.Keeps (Disk.Adds paths) (Action.writeBelow path content) := by
  have passes := Disk.Adds.transmits paths
  have written : Action.Keeps (Disk.Adds paths) (Action.change (·.write path content)) :=
    Action.keeps_change passes fun _ _ written => .of_written listed written
  unfold Action.writeBelow
  split
  next parent _ =>
    refine Action.keeps_bind passes ?_ fun _ => written
    exact Action.keeps_attempt (Disk.adds_makeDirectories paths parent)
  next => exact written

end Writing

end ClientGen
