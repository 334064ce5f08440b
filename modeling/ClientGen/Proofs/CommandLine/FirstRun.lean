import ClientGen.CommandLine.Run
import ClientGen.Proofs.Output.Files

namespace ClientGen

namespace CommandLine

open Output

variable {yes keepBase : Bool} {turn : Turn} {config : Config} {disk : Disk}

-- The places of the files that a run for an entry makes.
def Generated (turn : Turn) (disk : Disk) (spot : Place) : Prop :=
  ∃ api, turn.config.api .standard disk turn.around.web = .ok api ∧
    ∃ names ∈ files api true, spot = disk.destination turn.config.outPath ++ names

theorem disk_run_first (noBase : disk.isDirectory (Path.join turn.config.outPath "base") = false) :
    (turn.run yes keepBase disk).2 =
      ((generateClient .standard .fresh turn.config turn.around).run.run disk).2 := by
  have fresh : turn.mode yes keepBase disk = .ok .fresh := by
    have none : turn.folder.hasBase disk = false := noBase
    rw [Turn.mode, baseMode, none]
    rfl
  rw [Turn.run]
  cases valid : turn.config.check with
  | error failure =>
    have refused : turn.config.sources .standard turn.around disk = .error failure :=
      sources_error_stages.mpr (.inl valid)
    rw [run_refused refused]
  | ok =>
    simp only [fresh]
    rfl

theorem outPath_written (valid : config.check = .ok ()) : config.outPath ≠ "" := by
  intro empty
  have blank : ("out_path", config.outPath) ∈ config.required.filter fun field => Text.isBlankText field.2 := by
    refine List.mem_filter.mpr ⟨by simp [Config.required], ?_⟩
    rw [empty]
    decide
  have missing : "out_path" ∈ config.missing := List.mem_map_of_mem blank
  have refused : config.missing.isEmpty = false := by
    rw [List.isEmpty_eq_false_iff]
    exact List.ne_nil_of_mem missing
  rw [Config.check, refused] at valid
  cases valid

theorem first_run_keeps (yes keepBase : Bool) (turn : Turn) (disk : Disk)
    (noBase : disk.isDirectory (Path.join turn.config.outPath "base") = false)
    (plain : ∀ api, turn.config.api .standard disk turn.around.web = .ok api →
      ∀ c ∈ api.controllers, '/' ∉ c.name.toList) :
    (∀ spot entry, disk.entryAt spot = some entry →
      ∃ now, (turn.run yes keepBase disk).2.entryAt spot = some now ∧ now.SameKind entry) ∧
    ∀ spot content, disk.entryAt spot = some (.file content) → ¬ Generated turn disk spot →
      (turn.run yes keepBase disk).2.entryAt spot = some (.file content) := by
  rw [disk_run_first noBase]
  cases prepared : turn.config.sources .standard turn.around disk with
  | error failure =>
    rw [run_refused prepared]
    exact ⟨fun _ entry found => ⟨entry, found, .refl entry⟩, fun _ _ found _ => found⟩
  | ok sources =>
    obtain ⟨api, library⟩ := sources
    have found := sources_api prepared
    -- Whatever its outcome, the writing removes nothing.
    have adds := adds_writeFresh library api (turn.config.setting api) turn.config.outPath disk
    rw [disk_prepared prepared]
    constructor
    · exact fun _ _ there => adds.kept there
    · intro spot content there other
      obtain ⟨now, held, _, rfl | ⟨path, listed, here⟩⟩ := adds.entryAt spot _ there
      · exact held
      · obtain ⟨names, file, rfl⟩ := List.mem_map.mp listed
        refine absurd ⟨api, found, names, file, ?_⟩ other
        rw [here]
        have written := outPath_written (prepared_stages prepared).1
        exact Path.destination_below written (simple_of_file (plain api found) file) disk

-- An output directory with a file of its own and a file in the place of a directory.
def blockedDisk : Disk :=
  { workingDirectory := ["work"]
    entries := [
      (["work"], .directory),
      (["work", "src"], .directory),
      (["work", "src", "other.ts"], .file "user code".toUTF8),
      (["work", "src", "model"], .file "not a directory".toUTF8)] }

def blockedTurn : Turn :=
  { config := { fetchedConfig with outPath := "src" }, around := serving (taggedDocument "Ping") }

-- The base is written before the run fails.
theorem first_run_keeps_blocked :
    blockedDisk.isDirectory (Path.join blockedTurn.config.outPath "base") = false ∧
    (∀ api, blockedTurn.config.api .standard blockedDisk blockedTurn.around.web = .ok api →
      ∀ c ∈ api.controllers, '/' ∉ c.name.toList) ∧
    (blockedTurn.run true false blockedDisk).1 =
      .error (.notGenerated "http://[::1]:8088/api-json" (.disk .alreadyExists)) ∧
    (∀ spot entry, blockedDisk.entryAt spot = some entry →
      ∃ now, (blockedTurn.run true false blockedDisk).2.entryAt spot = some now ∧ now.SameKind entry) ∧
    ∀ spot content, blockedDisk.entryAt spot = some (.file content) → ¬ Generated blockedTurn blockedDisk spot →
      (blockedTurn.run true false blockedDisk).2.entryAt spot = some (.file content) := by
  have noBase : blockedDisk.isDirectory (Path.join blockedTurn.config.outPath "base") = false := by decide +kernel
  have names : controllerNames? .standard blockedTurn.config blockedTurn.around.web blockedDisk =
      some ["PingApi"] := by decide +kernel
  have plain : ∀ api, blockedTurn.config.api .standard blockedDisk blockedTurn.around.web = .ok api →
      ∀ c ∈ api.controllers, '/' ∉ c.name.toList := plain_of_names names (by decide)
  refine ⟨noBase, plain, ?_, first_run_keeps true false blockedTurn blockedDisk noBase plain⟩
  decide +kernel

end CommandLine

end ClientGen
