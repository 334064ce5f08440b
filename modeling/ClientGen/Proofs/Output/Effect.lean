import ClientGen.Proofs.Output.Writing

namespace ClientGen.Output

open Disk (Under Emptied Fits)

-- The places below which a mode leaves nothing.
def BaseMode.removes (mode : BaseMode) (root : Place) : List Place :=
  match mode with
  | .fresh => []
  | .regenerate => [root]
  | .keep => [root ++ ["api"], root ++ ["model"]]

theorem ordinary_part {out part : Path} (ordinary : Path.Ordinary out) (listed : part ∈ parts) :
    Path.Ordinary (Path.join out part) := by
  have simple : ∀ name ∈ [part], Path.Simple name := by
    rw [List.forall_mem_singleton]
    simp only [parts, List.mem_cons, List.not_mem_nil, or_false] at listed
    obtain rfl | rfl | rfl := listed <;> decide
  exact ordinary.below simple

section Preparing

variable {folder : Folder} {mode : BaseMode} {path : Path} {before ready disk after : Disk} {writeBase : Bool}

theorem emptied_removeIfThere (sound : disk.Sound) (ordinary : Path.Ordinary path) (fits : Fits path)
    (ran : (Folder.removeIfThere path).run.run disk = (.ok (), after)) :
    Emptied [disk.place path] disk after ∧ after.Sound := by
  obtain ⟨looked, _, got, later⟩ := Action.bind_ok ran
  cases got
  split at later
  next =>
    obtain ⟨there, rfl⟩ := Disk.pruned_of_removeDirectory ordinary.plain ordinary.named (Action.attempt_ok later)
    have deep : disk.place path ≠ [] := by
      rw [ordinary.place]
      exact List.append_ne_nil_of_right_ne_nil _ ordinary.named
    exact ⟨.of_pruned deep there, sound.prune deep⟩
  next missing =>
    obtain ⟨_, rfl⟩ := Action.pure_ok later
    refine ⟨.of_no_directory sound fun there => missing ?_, sound⟩
    exact Disk.exists?_of_directory sound ordinary.plain ordinary.named fits there

-- The directories that a mode may remove have names that are not too long.
structure Removable (folder : Folder) : Prop where
  root : Fits folder.root
  api : Fits folder.apiDirectory
  model : Fits folder.modelDirectory

theorem removable_of_model (ordinary : Path.Ordinary folder.root) (fits : Fits folder.modelPath) :
    Removable folder := by
  have written : folder.modelDirectory ≠ "" :=
    Path.join_ne_empty (inward_part (by decide)).1 ordinary.written
  have model : Fits folder.modelDirectory := .of_join written (by decide) fits
  refine ⟨.of_join ordinary.written (by decide) model, ?_, model⟩
  exact .sibling ordinary.written model (by decide) (by decide) (by decide) (by decide)

theorem makeDirectories_ok {wanted : Bool}
    (ran : (do Action.makeDirectories path; pure wanted : Action Bool).run.run disk = (.ok writeBase, after)) :
    writeBase = wanted ∧ Disk.makeDirectories path disk = (.ok (), after) := by
  obtain ⟨_, _, attempted, finished⟩ := Action.bind_ok ran
  obtain ⟨rfl, rfl⟩ := Action.pure_ok finished
  exact ⟨rfl, Action.attempt_ok attempted⟩

theorem emptied_makeReady (sound : disk.Sound) (ordinary : Path.Ordinary folder.root) (removable : Removable folder)
    (ran : (folder.makeReady mode).run.run disk = (.ok writeBase, ready)) :
    ∃ cleared, Emptied (mode.removes (disk.place folder.root)) disk cleared ∧ cleared.Sound ∧
      (writeBase = false ↔ mode = .keep ∧ cleared.isFile folder.basePath = true) ∧
      Disk.makeDirectories folder.root cleared = (.ok (), ready) := by
  cases mode with
  | fresh =>
    obtain ⟨rfl, made⟩ := makeDirectories_ok ran
    exact ⟨disk, .nothing disk, sound, by simp, made⟩
  | regenerate =>
    obtain ⟨_, cleared, gone, rest⟩ := Action.bind_ok ran
    obtain ⟨emptied, still⟩ := emptied_removeIfThere sound ordinary removable.root gone
    obtain ⟨rfl, made⟩ := makeDirectories_ok rest
    exact ⟨cleared, emptied, still, by simp, made⟩
  | keep =>
    obtain ⟨_, middle, apiGone, rest⟩ := Action.bind_ok ran
    obtain ⟨_, cleared, modelGone, rest⟩ := Action.bind_ok rest
    obtain ⟨_, _, got, rest⟩ := Action.bind_ok rest
    cases got
    obtain ⟨rfl, made⟩ := makeDirectories_ok rest
    obtain ⟨apiEmptied, still⟩ := emptied_removeIfThere sound (ordinary_part ordinary (by decide)) removable.api apiGone
    obtain ⟨modelEmptied, sound⟩ :=
      emptied_removeIfThere still (ordinary_part ordinary (by decide)) removable.model modelGone
    rw [Disk.place_congr apiEmptied.workingDirectory] at modelEmptied
    rw [place_part ordinary.written (by decide)] at apiEmptied
    rw [place_part ordinary.written (by decide)] at modelEmptied
    exact ⟨cleared, apiEmptied.trans modelEmptied, sound, by simp, made⟩

end Preparing

def IsFile (disk : Disk) (spot : Place) : Prop := ∃ content, disk.entryAt spot = some (.file content)

def SameFile (before after : Disk) (spot : Place) : Prop :=
  ∀ content, after.entryAt spot = some (.file content) ↔ before.entryAt spot = some (.file content)

def Reported (api : Api) (withBase : Bool) (root spot : Place) : Prop :=
  ∃ names ∈ files api withBase, spot = root ++ names

section Running

variable {library : Template.Library} {api : Api} {setting : Setting} {out : Path} {mode : BaseMode}
  {before ready after : Disk} {withBase : Bool} {root spot : Place} {names : List String}

theorem under_part (part : String) {rest : List String} (deeper : rest ≠ []) :
    Under (root ++ [part]) (root ++ part :: rest) := by
  rw [List.append_cons root part rest]
  exact ⟨List.prefix_append _ rest, fun same => deeper (List.append_right_eq_self.mp same)⟩

-- A file of the run is the base, or it lies in one of the parts that no mode keeps.
theorem part_of_file (listed : names ∈ files api withBase) (root : Place) :
    withBase = true ∧ names = baseFile ∨
      Under (root ++ ["api"]) (root ++ names) ∨ Under (root ++ ["model"]) (root ++ names) := by
  rw [files, List.mem_append, List.mem_cons, List.mem_map] at listed
  obtain wanted | rfl | ⟨c, _, rfl⟩ := listed
  · cases withBase with
    | false => cases wanted
    | true => exact .inl ⟨rfl, List.mem_singleton.mp wanted⟩
  · exact .inr (.inr (under_part "model" (by decide)))
  · exact .inr (.inl (under_part "api" (List.cons_ne_nil _ _)))

theorem base_apart (top : Place) (removed : top ∈ BaseMode.keep.removes root) : ¬ top <+: root ++ baseFile := by
  simp only [BaseMode.removes, List.mem_cons, List.not_mem_nil, or_false] at removed
  obtain rfl | rfl := removed <;> rw [List.prefix_append_right_inj] <;> decide

theorem basePath_below (out : Path) : (Folder.mk out).basePath = Path.below out baseFile := rfl

theorem ordinary_base (ordinary : Path.Ordinary out) : Path.Ordinary (Folder.mk out).basePath := by
  rw [basePath_below]
  exact ordinary.below (by decide)

theorem place_base (ordinary : Path.Ordinary out) (disk : Disk) :
    disk.place (Folder.mk out).basePath = disk.place out ++ baseFile := by
  rw [basePath_below]
  exact Path.place_below ordinary (by decide) disk

-- The disk on which the writing begins, in terms of the disk before.
structure Readied (out : Path) (mode : BaseMode) (withBase : Bool) (before ready : Disk) : Prop where
  workingDirectory : ready.workingDirectory = before.workingDirectory
  root : ready.entryAt (before.place out) = some .directory
  files : ∀ spot content, ready.entryAt spot = some (.file content) ↔
    before.entryAt spot = some (.file content) ∧ ∀ top ∈ mode.removes (before.place out), ¬ Under top spot
  directories : ∀ spot, (∀ top ∈ mode.removes (before.place out), ¬ top <+: spot) →
    before.entryAt spot = some .directory → ready.entryAt spot = some .directory
  kept : withBase = false ↔ mode = .keep ∧ IsFile before (before.place out ++ baseFile)

theorem readied_makeReady (sound : before.Sound) (ordinary : Path.Ordinary out) (removable : Removable ⟨out⟩)
    (fits : withBase = true → Fits (Folder.mk out).basePath)
    (ran : ((Folder.mk out).makeReady mode).run.run before = (.ok withBase, ready)) :
    Readied out mode withBase before ready := by
  obtain ⟨cleared, emptied, still, keeps, made⟩ := emptied_makeReady sound ordinary removable ran
  have opened := Disk.opened_makeDirectories ordinary.descends cleared
  rw [made] at opened
  have workingDirectory := opened.workingDirectory.trans emptied.workingDirectory
  have base := ordinary_base ordinary
  have spot : cleared.place (Folder.mk out).basePath = before.place out ++ baseFile := by
    rw [Disk.place_congr emptied.workingDirectory, place_base ordinary]
  refine ⟨workingDirectory, ?_, ?_, ?_, ?_⟩
  · rw [← Disk.place_congr workingDirectory]
    exact Disk.directory_of_makeDirectories ordinary.plain ordinary.named made
  · intro spot content
    rw [opened.files, emptied.files]
  · intro spot away there
    exact opened.directories ((emptied.away spot away).trans there)
  · rw [keeps]
    constructor
    · rintro ⟨rfl, there⟩
      obtain ⟨content, held⟩ := Disk.file_of_isFile base.plain base.named there
      rw [spot] at held
      exact ⟨rfl, content, ((emptied.files _ _).mp held).1⟩
    · rintro ⟨rfl, content, held⟩
      have held : cleared.entryAt (cleared.place (Folder.mk out).basePath) = some (.file content) := by
        rw [spot, emptied.files]
        exact ⟨held, fun top removed under => base_apart top removed under.1⟩
      -- A base that is there is not written, as its path is then short enough to lead to it.
      by_contra unkept
      have wanted : withBase = true := by
        rw [← Bool.not_eq_false]
        exact fun unwanted => unkept (keeps.mp unwanted)
      have noSlash : (Folder.mk out).basePath.endsInSlash = false := Path.endsInSlash_join (by decide) (by decide)
      exact unkept ⟨rfl, Disk.isFile_of_file still base.plain base.named (fits wanted) noSlash held⟩

-- What a run has done when it ends without a failure, in terms of the disk that it began with.
structure Completed (library : Template.Library) (api : Api) (setting : Setting) (out : Path) (mode : BaseMode)
    (withBase : Bool) (before after : Disk) : Prop where
  found : ∀ page ∈ pages ⟨out⟩ setting api withBase,
    Holds after page.path (before.place page.path) library page.template page.context
  root : after.entryAt (before.place out) = some .directory
  others : ∀ spot, ¬ Reported api withBase (before.place out) spot → ∀ content,
    after.entryAt spot = some (.file content) ↔
      before.entryAt spot = some (.file content) ∧ ∀ top ∈ mode.removes (before.place out), ¬ Under top spot
  kept : withBase = false ↔ mode = .keep ∧ IsFile before (before.place out ++ baseFile)
  missing : mode = .keep → withBase = true → before.entryAt (before.place out ++ baseFile) = none

theorem mem_basePage (wanted : withBase = true) : basePage ⟨out⟩ setting ∈ pages ⟨out⟩ setting api withBase := by
  subst wanted
  exact List.mem_append_left _ (List.mem_singleton_self _)

theorem mem_modelPage : modelPage ⟨out⟩ setting api ∈ pages ⟨out⟩ setting api withBase :=
  List.mem_append_right _ List.mem_cons_self

theorem mem_controllerPage {c : Api.Controller} (member : c ∈ api.controllers) :
    controllerPage ⟨out⟩ setting c ∈ pages ⟨out⟩ setting api withBase :=
  List.mem_append_right _ (List.mem_cons_of_mem _ (List.mem_map_of_mem member))

section Places

variable (ordinary : Path.Ordinary out) (plain : ∀ c ∈ api.controllers, '/' ∉ c.name.toList)

include ordinary plain

theorem ordinary_page {page : Page} (member : page ∈ pages ⟨out⟩ setting api withBase) :
    Path.Ordinary page.path := by
  obtain ⟨names, file, same⟩ := file_of_page member
  rw [same]
  exact ordinary.below (simple_of_file plain file)

theorem places_pages (disk : Disk) : ((pages ⟨out⟩ setting api withBase).map fun page => disk.place page.path) =
    (files api withBase).map fun names => disk.place out ++ names := by
  have mapped := congrArg (List.map disk.place) (paths_pages ⟨out⟩ setting api withBase)
  rw [List.map_map, List.map_map] at mapped
  refine mapped.trans (List.map_congr_left fun names file => ?_)
  exact Path.place_below ordinary (simple_of_file plain file) disk

theorem drawn_client (distinct : (api.controllers.map (·.name)).Nodup)
    (wrote : ((pages ⟨out⟩ setting api withBase).forM (writePage library)).run.run ready = (.ok (), after)) :
    Drawn library (pages ⟨out⟩ setting api withBase) ready after := by
  refine drawn_pages (fun page member => ordinary_page ordinary plain member) ?_ wrote
  rw [places_pages ordinary plain]
  exact (files_nodup distinct withBase).map (List.append_right_injective _)

-- A run that has written its models could make and remove all directories that it had to.
theorem removable_drawn (drawn : Drawn library (pages ⟨out⟩ setting api withBase) ready after) : Removable ⟨out⟩ := by
  have model : modelPage ⟨out⟩ setting api ∈ pages ⟨out⟩ setting api withBase := mem_modelPage
  exact removable_of_model ordinary (drawn.fits model (ordinary_page ordinary plain model))

theorem readied_drawn (sound : before.Sound)
    (prepared : ((Folder.mk out).makeReady mode).run.run before = (.ok withBase, ready))
    (drawn : Drawn library (pages ⟨out⟩ setting api withBase) ready after) : Readied out mode withBase before ready :=
  readied_makeReady sound ordinary (removable_drawn ordinary plain drawn)
    (fun wanted => drawn.fits (mem_basePage wanted) (ordinary_base ordinary)) prepared

theorem completed_writeClient (sound : before.Sound) (distinct : (api.controllers.map (·.name)).Nodup)
    (prepared : ((Folder.mk out).makeReady mode).run.run before = (.ok withBase, ready))
    (wrote : ((pages ⟨out⟩ setting api withBase).forM (writePage library)).run.run ready = (.ok (), after)) :
    Completed library api setting out mode withBase before after := by
  have drawn := drawn_client ordinary plain distinct wrote
  have readied := readied_drawn ordinary plain sound prepared drawn
  have same := Disk.place_congr readied.workingDirectory
  refine ⟨?_, drawn.directories _ readied.root, ?_, readied.kept, ?_⟩
  · intro page member
    exact same page.path ▸ drawn.found page member
  · intro spot other content
    rw [drawn.others, readied.files]
    intro page member here
    obtain ⟨names, file, path⟩ := file_of_page member
    refine other ⟨names, file, ?_⟩
    rw [here, same, path, Path.place_below ordinary (simple_of_file plain file)]
  · intro keeps wanted
    cases there : before.entryAt (before.place out ++ baseFile) with
    | none => rfl
    | some entry =>
      cases entry with
      | file content =>
        have unwanted := readied.kept.mpr ⟨keeps, content, there⟩
        rw [wanted] at unwanted
        cases unwanted
      | directory =>
        have directory := readied.directories _ (keeps ▸ base_apart) there
        have member : basePage ⟨out⟩ setting ∈ pages ⟨out⟩ setting api withBase := mem_basePage wanted
        have free := drawn.free member (ordinary_base ordinary)
        have spot : before.place (basePage ⟨out⟩ setting).path = before.place out ++ baseFile :=
          place_base ordinary before
        rw [same, spot] at free
        exact absurd directory free

end Places

namespace Completed

variable (completed : Completed library api setting out mode withBase before after)

include completed

theorem sameFile_of_other (other : ¬ Reported api withBase (before.place out) spot)
    (away : ∀ top ∈ mode.removes (before.place out), ¬ Under top spot) : SameFile before after spot := by
  intro content
  rw [completed.others spot other, and_iff_left away]

theorem sameFile_fresh (fresh : mode = .fresh) (other : ¬ Reported api withBase (before.place out) spot) :
    SameFile before after spot := by
  refine completed.sameFile_of_other other fun top removed => ?_
  rw [fresh] at removed
  cases removed

theorem sameFile_keep (keeps : mode = .keep)
    (away : ¬ (Under (before.place out ++ ["api"]) spot ∨ Under (before.place out ++ ["model"]) spot)) :
    spot = before.place out ++ baseFile ∧ before.entryAt spot = none ∨ SameFile before after spot := by
  by_cases reported : Reported api withBase (before.place out) spot
  · obtain ⟨names, file, rfl⟩ := reported
    obtain ⟨wanted, rfl⟩ | parts := part_of_file file (before.place out)
    · exact .inl ⟨rfl, completed.missing keeps wanted⟩
    · exact absurd parts away
  · refine .inr (completed.sameFile_of_other reported ?_)
    simpa [keeps, BaseMode.removes] using away

variable (ordinary : Path.Ordinary out) (plain : ∀ c ∈ api.controllers, '/' ∉ c.name.toList)

include ordinary plain

theorem holds {page : Page} (member : page ∈ pages ⟨out⟩ setting api withBase)
    (path : page.path = Path.below out names) (file : names ∈ files api withBase) :
    Holds after (Path.below out names) (before.place out ++ names) library page.template page.context := by
  have found := completed.found page member
  rwa [path, Path.place_below ordinary (simple_of_file plain file)] at found

theorem isFile_of_reported (reported : Reported api withBase (before.place out) spot) : IsFile after spot := by
  obtain ⟨names, file, rfl⟩ := reported
  obtain ⟨page, member, path⟩ := page_of_file file ⟨out⟩ setting
  obtain ⟨text, _, found⟩ := completed.holds ordinary plain member path file
  have below := ordinary.below (simple_of_file plain file)
  obtain ⟨here, held⟩ := Disk.entryAt_of_find below.plain below.named found
  rw [← here] at held
  exact ⟨_, held⟩

theorem isFile_iff {top : Place} (removed : top ∈ mode.removes (before.place out)) (under : Under top spot) :
    IsFile after spot ↔ Reported api withBase (before.place out) spot := by
  refine ⟨fun ⟨content, there⟩ => ?_, completed.isFile_of_reported ordinary plain⟩
  by_contra other
  exact ((completed.others spot other content).mp there).2 top removed under

theorem isFile_regenerate (regenerates : mode = .regenerate) (below : before.place out <+: spot) :
    IsFile after spot ↔ Reported api withBase (before.place out) spot := by
  by_cases top : spot = before.place out
  · have noFile : ¬ IsFile after spot := by
      rintro ⟨content, there⟩
      rw [top, completed.root] at there
      cases there
    exact iff_of_false noFile fun reported => noFile (completed.isFile_of_reported ordinary plain reported)
  · refine completed.isFile_iff ordinary plain ?_ ⟨below, top⟩
    rw [regenerates]
    exact List.mem_singleton_self _

theorem isFile_keep (keeps : mode = .keep)
    (under : Under (before.place out ++ ["api"]) spot ∨ Under (before.place out ++ ["model"]) spot) :
    IsFile after spot ↔ Reported api withBase (before.place out) spot := by
  obtain under | under := under <;> refine completed.isFile_iff ordinary plain ?_ under <;> rw [keeps]
  · exact List.mem_cons_self
  · exact List.mem_cons_of_mem _ (List.mem_singleton_self _)

end Completed

end Running

-- What a run that succeeds leaves behind, with the output directory at a place.
structure Effect (library : Template.Library) (api : Api) (setting : Setting) (out : Path) (mode : BaseMode)
    (receipt : Receipt) (root : Place) (before after : Disk) : Prop where
  reported : receipt.files = (files api receipt.baseWritten).map (Path.below out)
  base : receipt.baseWritten = true → Holds after (Path.below out baseFile) (root ++ baseFile) library
    "base.ts.tera" (.obj [("options", setting.toJson)])
  model : Holds after (Path.below out modelFile) (root ++ modelFile) library
    "model.ts.tera" (.obj [("api_data", api.toJson), ("options", setting.toJson)])
  controllers : ∀ c ∈ api.controllers,
    Holds after (Path.below out (controllerFile c.name)) (root ++ controllerFile c.name) library
      "controller.ts.tera" (.obj [("controller", c.toJson), ("options", setting.toJson)])
  kept : receipt.baseWritten = false ↔ mode = .keep ∧ IsFile before (root ++ baseFile)
  fresh : mode = .fresh → ∀ spot,
    (∀ entry, before.entryAt spot = some entry → ∃ now, after.entryAt spot = some now ∧ now.SameKind entry) ∧
      (¬ Reported api receipt.baseWritten root spot → SameFile before after spot)
  regenerate : mode = .regenerate → ∀ spot, root <+: spot →
    (IsFile after spot ↔ Reported api receipt.baseWritten root spot)
  keep : mode = .keep → ∀ spot, Under (root ++ ["api"]) spot ∨ Under (root ++ ["model"]) spot →
    (IsFile after spot ↔ Reported api receipt.baseWritten root spot)
  elsewhere : mode = .keep → ∀ spot, ¬ (Under (root ++ ["api"]) spot ∨ Under (root ++ ["model"]) spot) →
    spot = root ++ baseFile ∧ before.entryAt spot = none ∨ SameFile before after spot
  outside : ∀ spot, ¬ root <+: spot → after.entryAt spot = before.entryAt spot ∨
    spot <+: root ∧ before.entryAt spot = none ∧ after.entryAt spot = some .directory

theorem effect_writeClient (library : Template.Library) (api : Api) (setting : Setting) (out : Path)
    (mode : BaseMode) (before after : Disk) (receipt : Receipt) (sound : before.Sound)
    (ordinary : Path.Ordinary out) (distinct : (api.controllers.map (·.name)).Nodup)
    (plain : ∀ c ∈ api.controllers, '/' ∉ c.name.toList)
    (ran : (writeClient library api setting out mode).run.run before = (.ok receipt, after)) :
    Effect library api setting out mode receipt (before.workingDirectory ++ out.names) before after := by
  -- The frame holds of every run; what stands inside of it needs what this run has prepared and written.
  have contained := keeps_writeClient ⟨out⟩ ordinary.written ordinary.descends (upheld_within out)
    (fun c member => confined_of_free (plain c member)) library setting mode before
  rw [ran] at contained
  have adds : mode = .fresh → Disk.Adds ((files api true).map (Path.below out)) before after := by
    rintro rfl
    have fresh := adds_writeFresh library api setting out before
    rwa [ran] at fresh
  obtain ⟨withBase, ready, prepared, rest⟩ := Action.bind_ok ran
  obtain ⟨_, _, wrote, finished⟩ := Action.bind_ok rest
  obtain ⟨rfl, rfl⟩ := Action.pure_ok finished
  have completed := completed_writeClient ordinary plain sound distinct prepared wrote
  rw [← ordinary.place before]
  constructor
  case reported => exact paths_pages ⟨out⟩ setting api withBase
  case base =>
    intro wanted
    have file : baseFile ∈ files api withBase := by
      obtain rfl : withBase = true := wanted
      exact List.mem_cons_self
    exact completed.holds ordinary plain (mem_basePage wanted) rfl file
  case model =>
    exact completed.holds ordinary plain mem_modelPage rfl (List.mem_append_right _ List.mem_cons_self)
  case controllers =>
    intro c member
    have file : controllerFile c.name ∈ files api withBase :=
      List.mem_append_right _ (List.mem_cons_of_mem _ (List.mem_map.mpr ⟨c, member, rfl⟩))
    exact completed.holds ordinary plain (mem_controllerPage member) rfl file
  case kept => exact completed.kept
  case fresh => exact fun fresh spot => ⟨fun _ there => (adds fresh).kept there, completed.sameFile_fresh fresh⟩
  case regenerate => exact fun regenerates _ => completed.isFile_regenerate ordinary plain regenerates
  case keep => exact fun keeps _ => completed.isFile_keep ordinary plain keeps
  case elsewhere => exact fun keeps _ => completed.sameFile_keep keeps
  case outside => exact contained.outside

-- What an earlier run has left, with a base that has been changed since and a file that is not generated.
def earlierDisk : Disk :=
  { workingDirectory := ["work"]
    entries := [
      (["work"], .directory),
      (["work", "out"], .directory),
      (["work", "out", "notes.md"], .file "mine".toUTF8),
      (["work", "out", "base"], .directory),
      (["work", "out", "base", "useAxios.ts"], .file "changed".toUTF8),
      (["work", "out", "api"], .directory),
      (["work", "out", "api", "OldApi.ts"], .file "stale".toUTF8)] }

def petApi : Api :=
  { info := ⟨"Pets", "", "1"⟩, controllers := [⟨"PetApi", "Pets", [], []⟩], models := [], enums := [] }

def petSetting : Setting := { apiBase := "/api", swaggerUrl := "api.json", info := petApi.info }

def petReceipt : Receipt := { files := ["out/model/index.ts", "out/api/PetApi.ts"], baseWritten := false }

def laterDisk : Disk := ((writeClient .standard petApi petSetting "out" .keep).run.run earlierDisk).2

theorem effect_writeClient_keep :
    earlierDisk.Sound ∧ Path.Ordinary "out" ∧ (petApi.controllers.map (·.name)).Nodup ∧
    (∀ c ∈ petApi.controllers, '/' ∉ c.name.toList) ∧
    (writeClient .standard petApi petSetting "out" .keep).run.run earlierDisk = (.ok petReceipt, laterDisk) ∧
    Effect .standard petApi petSetting "out" .keep petReceipt (earlierDisk.workingDirectory ++ Path.names "out")
      earlierDisk laterDisk := by
  have sound : earlierDisk.Sound := .of_entries (by decide)
  have distinct : (petApi.controllers.map (·.name)).Nodup := by decide
  have plain : ∀ c ∈ petApi.controllers, '/' ∉ c.name.toList := by decide
  have succeeded : ((writeClient .standard petApi petSetting "out" .keep).run.run earlierDisk).1 =
      .ok petReceipt := by decide +kernel
  have ran : (writeClient .standard petApi petSetting "out" .keep).run.run earlierDisk =
      (.ok petReceipt, laterDisk) := by
    rw [laterDisk, ← succeeded, Prod.eta]
  exact ⟨sound, ordinary_out, distinct, plain, ran, effect_writeClient .standard petApi petSetting "out" .keep
    earlierDisk laterDisk petReceipt sound ordinary_out distinct plain ran⟩

end ClientGen.Output
