import ClientGen.Proofs.Disk.Additions
import ClientGen.Proofs.Output.Containment
import Mathlib.Data.List.Nodup

namespace ClientGen

namespace Path

variable {base : Path} {name : String} {names : List String}

def below (base : Path) (names : List String) : Path := names.foldl join base

theorem names_below (simple : ∀ name ∈ names, Simple name) (base : Path) :
    (below base names).names = base.names ++ names := by
  induction names generalizing base with
  | nil => simp [below]
  | cons name rest ih =>
    rw [List.forall_mem_cons] at simple
    rw [below, List.foldl_cons, ← below, ih simple.2, names_join simple.1.inward.relative, simple.1.alone,
      List.append_assoc, List.singleton_append]

theorem below_written (written : base ≠ "") (simple : ∀ name ∈ names, Simple name) : below base names ≠ "" := by
  induction names generalizing base with
  | nil => exact written
  | cons name rest ih =>
    rw [List.forall_mem_cons] at simple
    exact ih (join_ne_empty simple.1.inward written) simple.2

theorem isAbsolute_below (written : base ≠ "") (simple : ∀ name ∈ names, Simple name) :
    (below base names).isAbsolute = base.isAbsolute := by
  induction names generalizing base with
  | nil => rfl
  | cons name rest ih =>
    rw [List.forall_mem_cons] at simple
    exact (ih (join_ne_empty simple.1.inward written) simple.2).trans
      (isAbsolute_join simple.1.inward.relative written)

theorem Ordinary.below (ordinary : Ordinary base) (simple : ∀ name ∈ names, Simple name) :
    Ordinary (below base names) where
  written := below_written ordinary.written simple
  relative := (isAbsolute_below ordinary.written simple).trans ordinary.relative
  plain name member := by
    rw [names_below simple, List.mem_append] at member
    obtain upper | lower := member
    · exact ordinary.plain name upper
    · exact ⟨(simple name lower).moves, (simple name lower).descends⟩

theorem destination_below (written : base ≠ "") (simple : ∀ name ∈ names, Simple name) (disk : Disk) :
    disk.destination (below base names) = disk.destination base ++ names := by
  have descends : ".." ∉ names := fun member => (simple _ member).descends rfl
  have moving := Disk.filter_moving fun name member => ⟨(simple name member).moves, (simple name member).descends⟩
  rw [Disk.destination, Disk.destination, Disk.start, Disk.start, isAbsolute_below written simple,
    names_below simple, List.foldl_append, Disk.foldl_follow descends, moving]

theorem place_below (ordinary : Ordinary base) (simple : ∀ name ∈ names, Simple name) (disk : Disk) :
    disk.place (below base names) = disk.place base ++ names := by
  rw [← Disk.destination_eq_place (ordinary.below simple).descends, destination_below ordinary.written simple,
    Disk.destination_eq_place ordinary.descends]

end Path

namespace Output

variable {folder : Folder} {setting : Setting} {api : Api} {withBase : Bool} {names : List String}

def baseFile : List String := ["base", "useAxios.ts"]
def modelFile : List String := ["model", "index.ts"]
def controllerFile (controller : String) : List String := ["api", controller ++ ".ts"]

def files (api : Api) (withBase : Bool) : List (List String) :=
  (if withBase then [baseFile] else []) ++ modelFile :: api.controllers.map fun c => controllerFile c.name

theorem paths_pages (folder : Folder) (setting : Setting) (api : Api) (withBase : Bool) :
    (pages folder setting api withBase).map (·.path) = (files api withBase).map (Path.below folder.root) := by
  rw [pages, files, List.map_append, List.map_append, List.map_cons, List.map_cons, List.map_map, List.map_map]
  cases withBase <;> rfl

theorem file_of_page {page : Page} (member : page ∈ pages folder setting api withBase) :
    ∃ names ∈ files api withBase, page.path = Path.below folder.root names := by
  have listed : page.path ∈ (files api withBase).map (Path.below folder.root) :=
    paths_pages folder setting api withBase ▸ List.mem_map_of_mem member
  obtain ⟨names, file, same⟩ := List.mem_map.mp listed
  exact ⟨names, file, same.symm⟩

theorem page_of_file (file : names ∈ files api withBase) (folder : Folder) (setting : Setting) :
    ∃ page ∈ pages folder setting api withBase, page.path = Path.below folder.root names := by
  have listed : Path.below folder.root names ∈ (pages folder setting api withBase).map (·.path) :=
    paths_pages folder setting api withBase ▸ List.mem_map_of_mem file
  exact List.mem_map.mp listed

theorem simple_of_file (plain : ∀ c ∈ api.controllers, '/' ∉ c.name.toList) (listed : names ∈ files api withBase) :
    ∀ name ∈ names, Path.Simple name := by
  rw [files, List.mem_append, List.mem_cons, List.mem_map] at listed
  obtain wanted | rfl | ⟨c, member, rfl⟩ := listed
  · split at wanted
    next =>
      obtain rfl := List.mem_singleton.mp wanted
      decide
    next => cases wanted
  · decide
  · rw [controllerFile, List.forall_mem_cons, List.forall_mem_singleton]
    exact ⟨by decide, simple_ts (plain c member)⟩

theorem controllerFile_injective : Function.Injective controllerFile := by
  intro first second same
  have names : first ++ ".ts" = second ++ ".ts" := by simpa [controllerFile] using same
  have texts := congrArg String.toList names
  rw [String.toList_append, String.toList_append] at texts
  exact String.toList_injective (List.append_cancel_right texts)

theorem files_nodup (distinct : (api.controllers.map (·.name)).Nodup) (withBase : Bool) :
    (files api withBase).Nodup := by
  have controllers : (api.controllers.map fun c => controllerFile c.name).Nodup := by
    have composed := distinct.map controllerFile_injective
    rwa [List.map_map] at composed
  have model : (modelFile :: api.controllers.map fun c => controllerFile c.name).Nodup := by
    refine List.nodup_cons.mpr ⟨fun member => ?_, controllers⟩
    obtain ⟨c, _, same⟩ := List.mem_map.mp member
    simp [controllerFile, modelFile] at same
  rw [files]
  cases withBase with
  | false => exact model
  | true =>
    refine List.nodup_cons.mpr ⟨fun member => ?_, model⟩
    obtain same | later := List.mem_cons.mp member
    · simp [baseFile, modelFile] at same
    · obtain ⟨c, _, same⟩ := List.mem_map.mp later
      simp [controllerFile, baseFile] at same

section Adding

variable {paths : List Path} {page : Page}

theorem adds_writePage (listed : page.path ∈ paths) (library : Template.Library) :
    Action.Keeps (Disk.Adds paths) (writePage library page) := by
  have passes := Disk.Adds.transmits paths
  refine Action.keeps_bind passes (Action.keeps_ofExcept passes _) fun text => ?_
  exact Action.adds_writeBelow listed text.toUTF8

theorem path_listed {folder : Folder} {setting : Setting} {api : Api} {withBase : Bool}
    (member : page ∈ pages folder setting api withBase) :
    page.path ∈ (files api true).map (Path.below folder.root) := by
  obtain ⟨names, file, same⟩ := file_of_page member
  refine List.mem_map.mpr ⟨names, ?_, same.symm⟩
  cases withBase with
  | true => exact file
  | false => exact List.mem_append_right _ file

theorem adds_writeFresh (library : Template.Library) (api : Api) (setting : Setting) (out : Path) :
    Action.Keeps (Disk.Adds ((files api true).map (Path.below out)))
      (writeClient library api setting out .fresh) := by
  have passes := Disk.Adds.transmits ((files api true).map (Path.below out))
  have ready : Action.Keeps (Disk.Adds ((files api true).map (Path.below out)))
      ((Folder.mk out).makeReady .fresh) := by
    refine Action.keeps_bind passes (Action.keeps_pure passes true) fun writeBase => ?_
    refine Action.keeps_bind passes ?_ fun _ => Action.keeps_pure passes writeBase
    exact Action.keeps_attempt (Disk.adds_makeDirectories _ out)
  refine Action.keeps_bind passes ready fun withBase => ?_
  refine Action.keeps_bind passes ?_ fun _ => Action.keeps_pure passes _
  exact Action.keeps_forM passes fun page member => adds_writePage (path_listed member) library

end Adding

end Output

end ClientGen
