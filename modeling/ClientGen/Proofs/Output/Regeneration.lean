import ClientGen.Proofs.Controllers.Matching
import ClientGen.Proofs.Output.SecondRun
import ClientGen.Proofs.Template.Search

namespace ClientGen

open Disk (Near Aside)

def Generated.again (mode : Output.BaseMode) (report : Generated) : Generated :=
  { report with receipt := report.receipt.again mode report.directory }

-- Where a path has passed through a place that the mode empties, a directory is there again.
def Output.BaseMode.Restores (mode : BaseMode) (root : Place) (before after : Disk) (path : Path) : Prop :=
  ∀ spot ∈ before.route path, mode.Empties root spot → after.entryAt spot = some .directory

def Config.root (config : Config) (disk : Disk) : Place := disk.workingDirectory ++ config.outPath.names

-- An entry with a document that lies on the disk outside the output directory, with templates neither in that
-- directory nor around it, and with controllers that name files.
structure Config.Orderly (rules : NameRules) (config : Config) (disk : Disk) : Prop where
  ordinary : Path.Ordinary config.outPath
  nearby : Url.isWeb config.swaggerUrl = false
  document : ¬ config.root disk <+: disk.destination config.swaggerUrl
  templates : ∀ directory, config.templateDirectory? = some directory →
    ¬ Near (config.root disk) (disk.destination directory)
  plain : ∀ api, config.api rules disk = .ok api → ∀ c ∈ api.controllers, '/' ∉ c.name.toList

-- The ways to the document and to the templates are still there, and the templates are searched where their path
-- leads to.
structure Config.Steady (config : Config) (mode : Output.BaseMode) (before after : Disk) : Prop where
  document : mode.Restores (config.root before) before after config.swaggerUrl
  templates : ∀ directory, config.templateDirectory? = some directory →
    mode.Restores (config.root before) before after directory
  search : ∀ directory, config.templateDirectory? = some directory → Template.Library.Literal directory

-- The templates of an entry can be loaded again, and write the same for its client at another time.
def Config.Repeats (rules : NameRules) (config : Config) (around again : Surroundings) (disk : Disk) : Prop :=
  ∀ api library, config.sources rules around disk = .ok (api, library) →
    ∃ other, Template.Library.load disk config.templateDirectory? again.engine = .ok other ∧
      ∀ page ∈ Output.pages ⟨config.outPath⟩ (config.setting api) api true,
        other.render page.template page.context = library.render page.template page.context

-- What a run leaves alone from one disk to the other.
structure Spared (mode : Output.BaseMode) (root : Place) (before after : Disk) : Prop where
  workingDirectory : after.workingDirectory = before.workingDirectory
  outside : ∀ spot entry, ¬ root <+: spot → before.entryAt spot = some entry → after.entryAt spot = some entry
  directories : ∀ spot, ¬ mode.Empties root spot → before.entryAt spot = some .directory →
    after.entryAt spot = some .directory
  aside : Aside root before after

variable {rules : NameRules} {mode : Output.BaseMode} {config : Config} {around again : Surroundings}
  {before after : Disk} {root : Place} {path : Path}

theorem Config.repeats_self (rules : NameRules) (config : Config) (around : Surroundings) (disk : Disk) :
    config.Repeats rules around around disk :=
  fun _ library prepared => ⟨library, (prepared_stages prepared).2.2, fun _ _ => rfl⟩

theorem spared_writeClient {library : Template.Library} {api : Api} {setting : Output.Setting} {out : Path}
    {receipt : Output.Receipt} (sound : before.Sound) (ordinary : Path.Ordinary out)
    (distinct : (api.controllers.map (·.name)).Nodup) (plain : ∀ c ∈ api.controllers, '/' ∉ c.name.toList)
    (ran : (Output.writeClient library api setting out mode).run.run before = (.ok receipt, after)) :
    Spared mode (before.place out) before after := by
  have confined : ∀ c ∈ api.controllers, Output.Confined c.name :=
    fun c member => Output.confined_of_free (plain c member)
  -- First what every run keeps, then what this one has made ready and drawn.
  have contained := Output.keeps_writeClient ⟨out⟩ ordinary.written ordinary.descends (Output.upheld_within out)
    confined library setting mode before
  have aside := Output.keeps_writeClient ⟨out⟩ ordinary.written ordinary.descends (Output.upheld_aside out)
    confined library setting mode before
  rw [ran] at contained aside
  obtain ⟨withBase, ready, prepared, rest⟩ := Action.bind_ok ran
  obtain ⟨_, _, wrote, finished⟩ := Action.bind_ok rest
  obtain ⟨rfl, rfl⟩ := Action.pure_ok finished
  have drawn := Output.drawn_client ordinary plain distinct wrote
  have readied := Output.readied_drawn ordinary plain sound prepared drawn
  refine ⟨contained.workingDirectory, ?_, ?_, aside⟩
  · intro spot entry away there
    rcases contained.outside spot away with same | ⟨_, missing, _⟩
    · exact same.trans there
    · cases there.symm.trans missing
  · intro spot spared there
    apply drawn.directories
    by_cases here : spot = before.place out
    · rw [here]
      exact readied.root
    · refine readied.directories spot (fun top removed below => ?_) there
      exact spared ⟨here, top, removed, below⟩

-- The ways need not be asked for where no name leads up.
theorem Config.Orderly.steady (orderly : config.Orderly rules before) (mode : Output.BaseMode) (after : Disk)
    (descends : Path.Descends config.swaggerUrl)
    (plain : ∀ directory, config.templateDirectory? = some directory →
      Path.Descends directory ∧ Template.Library.Literal directory) : config.Steady mode before after := by
  have restores : ∀ {path}, Path.Descends path → ¬ config.root before <+: before.destination path →
      mode.Restores (config.root before) before after path :=
    fun descends away _ passed empties => absurd (empties.below.trans (Disk.route_above descends passed)) away
  constructor
  case document => exact restores descends orderly.document
  case templates =>
    intro directory wanted
    exact restores (plain directory wanted).1 fun below => orderly.templates directory wanted (.inl below)
  case search => exact fun directory wanted => (plain directory wanted).2

section Sources

variable (grounded : before.Grounded) (spared : Spared mode root before after)

include grounded spared

theorem find_spared {spot : Place} {entry : Entry} (along : mode.Restores root before after path)
    (away : ¬ root <+: spot) (found : before.find path = .ok (spot, entry)) : after.find path = .ok (spot, entry) := by
  refine Disk.find_kept (fun place passed there => ?_) spared.workingDirectory found
    (spared.outside spot entry away (grounded.find found))
  by_cases empties : mode.Empties root place
  · exact along place passed empties
  · exact spared.directories place empties there

theorem ofFile_spared {document : Document} (along : mode.Restores root before after path)
    (away : ¬ root <+: before.destination path) (loaded : Document.ofFile before path = .ok document) :
    Document.ofFile after path = .ok document := by
  have same : after.find path = before.find path := by
    cases found : before.find path with
    | error fault =>
      simp only [Document.ofFile, bind_ok_iff, mapError_ok_iff, Disk.read, found] at loaded
      obtain ⟨_, held, _⟩ := loaded
      cases held
    | ok there =>
      obtain ⟨spot, entry⟩ := there
      rw [← Disk.find_destination found] at away
      exact find_spared grounded spared along away found
  rw [Document.ofFile, Disk.read, same]
  exact loaded

theorem files_spared {files : List (String × ByteArray)} (literal : Template.Library.Literal path)
    (along : mode.Restores root before after path) (apart : ¬ Near root (before.destination path))
    (listed : Template.Library.files before (some path) = .ok files) :
    Template.Library.files after (some path) = .ok files := by
  rw [Template.Library.files] at listed ⊢
  split at listed
  next start found =>
    rw [← Disk.find_destination found] at apart
    have again := find_spared grounded spared along (fun below => apart (.inl below)) found
    rw [again, Template.Library.templateFiles_aside literal spared.aside apart found again]
    exact listed
  next => cases listed

theorem load_spared {engine : Template.Engine} {library : Template.Library} (here : root = config.root before)
    (orderly : config.Orderly rules before) (steady : config.Steady mode before after)
    (loaded : Template.Library.load before config.templateDirectory? engine = .ok library) :
    Template.Library.load after config.templateDirectory? engine = .ok library := by
  subst here
  cases wanted : config.templateDirectory? with
  | none =>
    rw [wanted] at loaded
    exact loaded
  | some directory =>
    rw [wanted, Template.Library.load, bind_ok_iff] at loaded
    obtain ⟨files, listed, gathered⟩ := loaded
    have again := files_spared grounded spared (steady.search directory wanted) (steady.templates directory wanted)
      (orderly.templates directory wanted) listed
    exact bind_ok_iff.mpr ⟨files, again, gathered⟩

theorem sources_spared {api : Api} {library other : Template.Library} (here : root = config.root before)
    (orderly : config.Orderly rules before) (steady : config.Steady mode before after)
    (prepared : config.sources rules around before = .ok (api, library))
    (loaded : Template.Library.load before config.templateDirectory? again.engine = .ok other) :
    config.sources rules again after = .ok (api, other) := by
  have reloaded := load_spared grounded spared here orderly steady loaded
  subst here
  simp only [Config.sources, Config.api, bind_ok_iff, load_nearby orderly.nearby] at prepared ⊢
  obtain ⟨_, ⟨_, valid, document, described, made⟩, _, _, same⟩ := prepared
  cases same
  exact ⟨api, ⟨_, valid, document, ofFile_spared grounded spared steady.document orderly.document described, made⟩,
    other, reloaded, rfl⟩

end Sources

theorem api_nearby {web : Web} (nearby : Url.isWeb config.swaggerUrl = false) :
    config.api rules before web = config.api rules before := by
  simp only [Config.api, load_nearby nearby]

theorem distinct_controllers {api : Api} {web : Web} (described : config.api rules before web = .ok api) :
    (api.controllers.map (·.name)).Nodup := by
  simp only [Config.api, bind_ok_iff] at described
  obtain ⟨_, _, document, _, made⟩ := described
  cases made
  exact Controllers.nodup_finished rules document

theorem regeneration_repeats (rules : NameRules) (mode : Output.BaseMode) (config : Config)
    (around again : Surroundings) (before after : Disk) (report : Generated) (grounded : before.Grounded)
    (orderly : config.Orderly rules before) (steady : config.Steady mode before after)
    (repeats : config.Repeats rules around again before) (replaces : mode = .regenerate ∨ mode = .keep)
    (ran : (generateClient rules mode config around).run.run before = (.ok report, after)) :
    ∃ final, (generateClient rules mode config again).run.run after = (.ok (report.again mode), final) ∧
      Disk.Congruent after final := by
  obtain ⟨api, library, receipt, prepared, wrote, rfl⟩ := run_ok ran
  obtain ⟨other, loaded, same⟩ := repeats api library prepared
  have leaves : mode ≠ .fresh := by rcases replaces with rfl | rfl <;> nofun
  have described := sources_api prepared
  have plain := orderly.plain api ((api_nearby orderly.nearby).symm.trans described)
  have distinct := distinct_controllers described
  have spared := spared_writeClient grounded.sound orderly.ordinary distinct plain wrote
  -- The sources of the first run are found again, so that its client is written over itself.
  have sources := sources_spared grounded spared (orderly.ordinary.place before) orderly steady prepared loaded
  obtain ⟨final, rewrote, congruent⟩ := Output.writeClient_again plain grounded orderly.ordinary distinct leaves wrote
  refine ⟨final, ?_, congruent⟩
  rw [run_prepared sources, Output.writeClient_congr same, rewrote]
  rfl

-- All that is asked of a first run but for the ways, the search and the templates, and a second run that is another one.
structure Config.Varies (mode : Output.BaseMode) (config : Config) (around again : Surroundings) (before : Disk)
    (report : Generated) (after : Disk) : Prop where
  grounded : before.Grounded
  orderly : config.Orderly .standard before
  ran : (generateClient .standard mode config around).run.run before = (.ok report, after)
  differs : ¬ ∃ final, (generateClient .standard mode config again).run.run after = (.ok (report.again mode), final) ∧
    Disk.Congruent after final

section Runs

open Output (taggedDocument taggedConfig ordinary_out sizeAt?)

variable {disk : Disk} {directory : Path}

theorem apart_of_wanted (wanted : config.templateDirectory? = some directory)
    (apart : ¬ Near (config.root disk) (disk.destination directory)) :
    ∀ other, config.templateDirectory? = some other → ¬ Near (config.root disk) (disk.destination other) := by
  intro other found
  cases wanted.symm.trans found
  exact apart

def rerun (mode : Output.BaseMode) (config : Config) (around : Surroundings) (disk : Disk) : Disk :=
  ((generateClient .standard mode config around).run.run disk).2

theorem ran_of_result {result : Except Failure Generated}
    (evaluated : ((generateClient .standard mode config around).run.run disk).1 = result) :
    (generateClient .standard mode config around).run.run disk = (result, rerun mode config around disk) := by
  rw [rerun, ← evaluated, Prod.eta]

theorem differs_of_size {report : Generated} {spot : Place}
    (changed : sizeAt? (rerun mode config again after) spot ≠ sizeAt? after spot) :
    ¬ ∃ final, (generateClient .standard mode config again).run.run after = (.ok report, final) ∧
      Disk.Congruent after final := by
  rintro ⟨final, ran, congruent⟩
  rw [rerun, ran, sizeAt?, congruent.entryAt] at changed
  exact changed rfl

-- A document, and an output directory with a directory in it that is not generated.
def usedDisk (others : List (Place × Entry)) : Disk :=
  { workingDirectory := ["work"]
    entries := [
      (["work"], .directory),
      (["work", "swagger.json"], .file (taggedDocument "Pet").toUTF8),
      (["work", "out"], .directory),
      (["work", "out", "old"], .directory)] ++ others }

def petReport : Generated :=
  { directory := "out"
    controllers := 1
    models := 0
    enums := 0
    receipt := {
      files := ["out/base/useAxios.ts", "out/model/index.ts", "out/api/PetApi.ts"]
      baseWritten := true } }

def modelSpot : Place := ["work", "out", "model", "index.ts"]

-- A template that is a number of its own at each run.
def lottery : String := "\x7b\x7b get_random(end=1000) \x7d\x7d"

-- The engine of a run in which that number is drawn.
def drawing (number : String) : Template.Engine where
  read? files missing :=
    let (drawn, others) := files.partition fun (_, content) => String.fromUTF8? content = some lottery
    (Template.Engine.standard.read? others missing).map fun write name =>
      if (drawn.map (·.1)).contains name then fun _ => some number else write name

def lucky (number : String) : Surroundings := { Surroundings.alone with engine := drawing number }

def ownDisk : Disk :=
  usedDisk [(["work", "tpl"], .directory), (["work", "tpl", "model.ts.tera"], .file lottery.toUTF8)]

def ownConfig : Config := { taggedConfig with templatePath := some "tpl" }

theorem wanted_own : ownConfig.templateDirectory? = some "tpl" := by decide +kernel

theorem grounded_own : ownDisk.Grounded := ⟨.of_entries (by decide), rfl⟩

theorem orderly_own : ownConfig.Orderly .standard ownDisk := by
  have names : controllerNames? .standard ownConfig .unreachable ownDisk = some ["PetApi"] := by decide +kernel
  have apart : ¬ Near (ownConfig.root ownDisk) (ownDisk.destination "tpl") := by decide +kernel
  exact ⟨ordinary_out, by decide +kernel, by decide +kernel, apart_of_wanted wanted_own apart,
    plain_of_names names (by decide)⟩

theorem regeneration_repeats_keep :
    ownDisk.Grounded ∧ ownConfig.Orderly .standard ownDisk ∧
    ownConfig.Steady .keep ownDisk (rerun .keep ownConfig (lucky "7") ownDisk) ∧
    ownConfig.Repeats .standard (lucky "7") (lucky "7") ownDisk ∧
    (generateClient .standard .keep ownConfig (lucky "7")).run.run ownDisk =
      (.ok petReport, rerun .keep ownConfig (lucky "7") ownDisk) ∧
    ∃ final, (generateClient .standard .keep ownConfig (lucky "7")).run.run
        (rerun .keep ownConfig (lucky "7") ownDisk) = (.ok (petReport.again .keep), final) ∧
      Disk.Congruent (rerun .keep ownConfig (lucky "7") ownDisk) final := by
  have steady : ownConfig.Steady .keep ownDisk (rerun .keep ownConfig (lucky "7") ownDisk) := by
    refine orderly_own.steady .keep _ (by decide +kernel) fun directory found => ?_
    cases wanted_own.symm.trans found
    decide +kernel
  have repeats := Config.repeats_self .standard ownConfig (lucky "7") ownDisk
  have succeeded : ((generateClient .standard .keep ownConfig (lucky "7")).run.run ownDisk).1 = .ok petReport := by
    decide +kernel
  have ran := ran_of_result succeeded
  exact ⟨grounded_own, orderly_own, steady, repeats, ran, regeneration_repeats .standard .keep ownConfig (lucky "7")
    (lucky "7") ownDisk _ petReport grounded_own orderly_own steady repeats (.inr rfl) ran⟩

theorem lottery_varies :
    ownConfig.Varies .regenerate (lucky "7") (lucky "42") ownDisk petReport
      (rerun .regenerate ownConfig (lucky "7") ownDisk) where
  grounded := grounded_own
  orderly := orderly_own
  ran := ran_of_result (by decide +kernel)
  differs := by
    have changed : sizeAt? (rerun .regenerate ownConfig (lucky "42") (rerun .regenerate ownConfig (lucky "7") ownDisk))
        modelSpot ≠ sizeAt? (rerun .regenerate ownConfig (lucky "7") ownDisk) modelSpot := by decide +kernel
    exact differs_of_size changed

-- The way to the document leads through a directory that the run removes.
def detourDisk : Disk := usedDisk []

def detourConfig : Config := { taggedConfig with swaggerUrl := "out/old/../../swagger.json" }

theorem detour_varies :
    detourConfig.Varies .regenerate .alone .alone detourDisk petReport
      (rerun .regenerate detourConfig .alone detourDisk) where
  grounded := ⟨.of_entries (by decide), rfl⟩
  orderly := by
    have names : controllerNames? .standard detourConfig .unreachable detourDisk = some ["PetApi"] := by
      decide +kernel
    exact ⟨ordinary_out, by decide +kernel, by decide +kernel, nofun, plain_of_names names (by decide)⟩
  ran := ran_of_result (by decide +kernel)
  differs := by
    have failed : ((generateClient .standard .regenerate detourConfig .alone).run.run
        (rerun .regenerate detourConfig .alone detourDisk)).1 = .error (.disk .noSuchEntry) := by decide +kernel
    rintro ⟨final, ran, _⟩
    rw [ran] at failed
    cases failed

-- The templates are searched from the part of their path in front of the star, which is the output directory.
def starredDisk : Disk :=
  usedDisk [(["work", "out**"], .directory), (["work", "out", "model.ts.tera"], .file "own".toUTF8)]

def starredConfig : Config := { taggedConfig with templatePath := some "out**" }

theorem starred_varies :
    starredConfig.Varies .regenerate .alone .alone starredDisk petReport
      (rerun .regenerate starredConfig .alone starredDisk) where
  grounded := ⟨.of_entries (by decide), rfl⟩
  orderly := by
    have wanted : starredConfig.templateDirectory? = some "out**" := by decide +kernel
    have names : controllerNames? .standard starredConfig .unreachable starredDisk = some ["PetApi"] := by
      decide +kernel
    have apart : ¬ Near (starredConfig.root starredDisk) (starredDisk.destination "out**") := by decide +kernel
    exact ⟨ordinary_out, by decide +kernel, by decide +kernel, apart_of_wanted wanted apart,
      plain_of_names names (by decide)⟩
  ran := ran_of_result (by decide +kernel)
  differs := by
    have changed : sizeAt? (rerun .regenerate starredConfig .alone (rerun .regenerate starredConfig .alone starredDisk))
        modelSpot ≠ sizeAt? (rerun .regenerate starredConfig .alone starredDisk) modelSpot := by decide +kernel
    exact differs_of_size changed

-- After a detour the document is not found again, with a star a template is used that the first run removes, and
-- with a lottery the same template writes something else.
theorem regeneration_differs :
    detourConfig.Varies .regenerate .alone .alone detourDisk petReport
        (rerun .regenerate detourConfig .alone detourDisk) ∧
      starredConfig.Varies .regenerate .alone .alone starredDisk petReport
        (rerun .regenerate starredConfig .alone starredDisk) ∧
      ownConfig.Varies .regenerate (lucky "7") (lucky "42") ownDisk petReport
        (rerun .regenerate ownConfig (lucky "7") ownDisk) :=
  ⟨detour_varies, starred_varies, lottery_varies⟩

end Runs

end ClientGen
