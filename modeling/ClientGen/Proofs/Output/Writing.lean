import ClientGen.Proofs.Disk.Tree
import ClientGen.Proofs.Output.Files

namespace ClientGen

namespace Disk

open ClientGen.Path

variable {path base first second child : Path}

theorem size_join (relative : child.isAbsolute = false) : (join base child).utf8ByteSize =
    base.utf8ByteSize + child.utf8ByteSize + if base = "" || base.endsInSlash then 0 else 1 := by
  rw [join, relative, if_neg Bool.false_ne_true]
  split
  next => simp
  next =>
    have slash : "/".utf8ByteSize = 1 := by decide
    rw [String.utf8ByteSize_append, String.utf8ByteSize_append, slash]
    omega

theorem nul_join (relative : child.isAbsolute = false) :
    '\x00' ∉ (join base child).toList ↔ '\x00' ∉ base.toList ∧ '\x00' ∉ child.toList := by
  rw [join, relative, if_neg Bool.false_ne_true]
  split <;> simp

theorem Fits.of_join (written : base ≠ "") (relative : child.isAbsolute = false) (fits : Fits (join base child)) :
    Fits base := by
  obtain ⟨nul, _, size⟩ := checkPath_ok_iff.mp fits.checked
  rw [size_join relative] at size
  refine ⟨checkPath_ok_iff.mpr ⟨((nul_join relative).mp nul).1, written, by omega⟩, fun name member => ?_⟩
  exact fits.short name (by rw [names_join relative]; exact List.mem_append_left _ member)

theorem Fits.sibling (written : base ≠ "") (fits : Fits (join base first)) (simpleFirst : Simple first)
    (simple : Simple second) (free : '\x00' ∉ second.toList) (shorter : second.utf8ByteSize ≤ first.utf8ByteSize) :
    Fits (join base second) := by
  have relativeFirst := simpleFirst.inward.relative
  have relative := simple.inward.relative
  obtain ⟨nul, _, size⟩ := checkPath_ok_iff.mp fits.checked
  have long := fits.short first (by rw [names_join relativeFirst, simpleFirst.alone]; simp)
  refine ⟨checkPath_ok_iff.mpr ⟨?_, join_ne_empty simple.inward written, ?_⟩, fun name member => ?_⟩
  · exact (nul_join relative).mpr ⟨((nul_join relativeFirst).mp nul).1, free⟩
  · rw [size_join relativeFirst] at size
    rw [size_join relative]
    omega
  · rw [names_join relative, simple.alone, List.mem_append, List.mem_singleton] at member
    obtain upper | rfl := member
    · exact fits.short name (by rw [names_join relativeFirst]; exact List.mem_append_left _ upper)
    · exact Nat.le_trans shorter long

end Disk

theorem Path.Ordinary.named {path : Path} (ordinary : Ordinary path) : path.names ≠ [] :=
  names_ne_nil ordinary.relative ordinary.written

section Opening

variable {path : Path} {disk after : Disk}

theorem Action.writeBelow_ok {content : ByteArray} (descends : path.Descends)
    (ran : (writeBelow path content).run.run disk = (.ok (), after)) :
    ∃ middle, Disk.Opened (disk.place path) disk middle ∧ middle.write path content = .ok after := by
  unfold writeBelow at ran
  split at ran
  next parent above =>
    obtain ⟨_, middle, made, changed⟩ := bind_ok ran
    refine ⟨middle, ?_, change_ok changed⟩
    have beginning := List.dropLast_prefix path.steps
    have opened := Disk.opened_makeDirectories (Disk.descends_ofSteps descends beginning) disk
    rw [← Path.parent?_steps above, attempt_ok made] at opened
    exact opened.mono (Path.parent?_steps above ▸ Disk.place_ofSteps beginning)
  next => exact ⟨disk, .refl _ disk, change_ok ran⟩

end Opening

namespace Output

variable {library : Template.Library} {page : Page} {pages rest : List Page} {before middle disk after : Disk}

-- A path leads to a file at a place, and what it holds is what a template writes in a context.
def Holds (disk : Disk) (path : Path) (spot : Place) (library : Template.Library) (template : String)
    (context : Json) : Prop :=
  ∃ text, library.render template context = .ok text ∧ disk.find path = .ok (spot, .file text.toUTF8)

-- From one disk to the other, pages have been written, and no other files.
structure Drawn (library : Template.Library) (pages : List Page) (before after : Disk) : Prop where
  workingDirectory : after.workingDirectory = before.workingDirectory
  found : ∀ page ∈ pages,
    Holds after page.path (before.place page.path) library page.template page.context
  directories : ∀ spot, before.entryAt spot = some .directory → after.entryAt spot = some .directory
  others : ∀ spot, (∀ page ∈ pages, spot ≠ before.place page.path) → ∀ content,
    after.entryAt spot = some (.file content) ↔ before.entryAt spot = some (.file content)

namespace Drawn

theorem nothing (library : Template.Library) (disk : Disk) : Drawn library [] disk disk :=
  ⟨rfl, fun _ member => (List.not_mem_nil member).elim, fun _ there => there, fun _ _ _ => .rfl⟩

-- A page that is written later is for another file, so that the earlier one still holds its text.
theorem cons (plain : ∀ other ∈ page :: rest, Path.Ordinary other.path)
    (distinct : ∀ other ∈ rest, before.place page.path ≠ before.place other.path)
    (one : Drawn library [page] before middle) (later : Drawn library rest middle after) :
    Drawn library (page :: rest) before after := by
  have same : ∀ path : Path, middle.place path = before.place path := Disk.place_congr one.workingDirectory
  refine ⟨later.workingDirectory.trans one.workingDirectory, ?_, ?_, ?_⟩
  · rw [List.forall_mem_cons]
    constructor
    · obtain ⟨text, rendered, found⟩ := one.found page (List.mem_singleton_self page)
      have ordinary := plain page List.mem_cons_self
      have held := (Disk.entryAt_of_find ordinary.plain ordinary.named found).2
      rw [same] at held
      refine ⟨text, rendered, Disk.find_kept (fun spot _ => later.directories spot) later.workingDirectory found ?_⟩
      exact (later.others _ (fun other member => same other.path ▸ distinct other member) _).mpr held
    · intro other member
      exact same other.path ▸ later.found other member
  · exact fun spot there => later.directories spot (one.directories spot there)
  · intro spot away content
    rw [List.forall_mem_cons] at away
    rw [later.others spot fun other member => same other.path ▸ away.2 other member]
    exact one.others spot (List.forall_mem_singleton.mpr away.1) content

section Pages

variable (drawn : Drawn library pages before after) (member : page ∈ pages) (ordinary : Path.Ordinary page.path)

include drawn member ordinary

theorem fits : Disk.Fits page.path := by
  obtain ⟨_, _, found⟩ := drawn.found page member
  exact Disk.fits_of_find ordinary.plain ordinary.named found

theorem free : before.entryAt (before.place page.path) ≠ some .directory := by
  intro there
  obtain ⟨_, _, found⟩ := drawn.found page member
  have held := (Disk.entryAt_of_find ordinary.plain ordinary.named found).2
  rw [Disk.place_congr drawn.workingDirectory, drawn.directories _ there] at held
  cases held

end Pages

end Drawn

theorem put_writePage (ordinary : Path.Ordinary page.path)
    (ran : (writePage library page).run.run disk = (.ok (), after)) :
    ∃ text middle, library.render page.template page.context = .ok text ∧
      Disk.Opened (disk.place page.path) disk middle ∧
      middle.entryAt (disk.place page.path) ≠ some .directory ∧
      after = middle.put (disk.place page.path) (.file text.toUTF8) ∧
      after.find page.path = .ok (disk.place page.path, .file text.toUTF8) := by
  obtain ⟨text, _, asked, wrote⟩ := Action.bind_ok ran
  obtain ⟨rendered, rfl⟩ := Action.ofExcept_ok asked
  obtain ⟨middle, opened, written⟩ := Action.writeBelow_ok ordinary.descends wrote
  have found := Disk.find_of_write written
  obtain ⟨noDirectory, changed⟩ := Disk.write_destination written
  rw [Disk.destination_eq_place ordinary.descends, Disk.place_congr opened.workingDirectory]
    at found noDirectory changed
  exact ⟨text, middle, rendered, opened, noDirectory, changed, found⟩

theorem drawn_page (ordinary : Path.Ordinary page.path)
    (ran : (writePage library page).run.run disk = (.ok (), after)) : Drawn library [page] disk after := by
  obtain ⟨text, middle, rendered, opened, noDirectory, rfl, found⟩ := put_writePage ordinary ran
  refine ⟨opened.workingDirectory, ?_, ?_, ?_⟩
  · rw [List.forall_mem_singleton]
    exact ⟨text, rendered, found⟩
  · intro spot there
    have kept := opened.directories there
    rw [Disk.entryAt_put_ne]
    · exact kept
    · rintro rfl
      exact noDirectory kept
  · intro spot away content
    rw [List.forall_mem_singleton] at away
    rw [Disk.entryAt_put_ne away]
    exact opened.files spot content

-- Induction on the pages: what the first one leaves is where the others begin.
theorem drawn_pages (ordinary : ∀ page ∈ pages, Path.Ordinary page.path)
    (distinct : (pages.map fun page => disk.place page.path).Nodup)
    (ran : (pages.forM (writePage library)).run.run disk = (.ok (), after)) :
    Drawn library pages disk after := by
  induction pages generalizing disk with
  | nil =>
    obtain ⟨_, rfl⟩ := Action.pure_ok ran
    exact .nothing library after
  | cons page rest ih =>
    obtain ⟨_, middle, first, later⟩ := Action.bind_ok ran
    rw [List.map_cons, List.nodup_cons] at distinct
    have one := drawn_page (ordinary page List.mem_cons_self) first
    refine .cons ordinary ?_ one (ih (fun other member => ordinary other (List.mem_cons_of_mem _ member)) ?_ later)
    · intro other member same
      exact distinct.1 (List.mem_map.mpr ⟨other, member, same.symm⟩)
    · simp only [Disk.place_congr one.workingDirectory]
      exact distinct.2

end Output

end ClientGen
