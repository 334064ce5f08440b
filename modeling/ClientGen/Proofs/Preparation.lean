import ClientGen.Client
import ClientGen.Proofs.Action

namespace ClientGen

variable {rules : NameRules} {mode : Output.BaseMode} {config : Config} {around : Surroundings} {disk : Disk}
  {failure : Failure} {api : Api} {library : Template.Library} {engine : Template.Engine}

section Results

variable {α β ε : Type} {first : Except ε α} {rename : ε → Failure}

theorem bind_error_iff {first : Except Failure α} {next : α → Except Failure β} :
    (first >>= next) = .error failure ↔
      first = .error failure ∨ ∃ a, first = .ok a ∧ next a = .error failure := by
  cases first with
  | error other => simp [bind, Except.bind]
  | ok a => simp [bind, Except.bind]

theorem bind_ok_iff {first : Except Failure α} {next : α → Except Failure β} {b : β} :
    (first >>= next) = .ok b ↔ ∃ a, first = .ok a ∧ next a = .ok b := by
  cases first with
  | error other => simp [bind, Except.bind]
  | ok a => simp [bind, Except.bind]

theorem mapError_error_iff :
    first.mapError rename = .error failure ↔ ∃ fault, first = .error fault ∧ failure = rename fault := by
  cases first with
  | error fault =>
    constructor
    · exact fun same => ⟨fault, rfl, (Except.error.inj same).symm⟩
    · rintro ⟨_, found, rfl⟩
      cases found
      rfl
  | ok a =>
    constructor
    · rintro ⟨⟩
    · rintro ⟨_, ⟨⟩, _⟩

theorem mapError_ok_iff {a : α} : first.mapError rename = .ok a ↔ first = .ok a := by
  cases first with
  | error fault =>
    constructor
    · rintro ⟨⟩
    · rintro ⟨⟩
  | ok other => exact ⟨fun same => congrArg _ (Except.ok.inj same), fun same => congrArg _ (Except.ok.inj same)⟩

end Results

def HoldsObject (disk : Disk) (path : Path) : Prop :=
  ∃ text fields, disk.read path = .ok text ∧ Document.value? text = some (.obj fields)

-- What is wrong with an entry whose document is a file, the earliest thing only.
inductive Obstructed (config : Config) (engine : Template.Engine) (disk : Disk) : Failure → Prop where
  | incomplete (blank : config.missing ≠ []) :
      Obstructed config engine disk (.config (.missingFields config.missing))
  | unreadable {fault : DiskFault} (complete : config.missing = [])
      (refused : disk.read config.swaggerUrl = .error fault) : Obstructed config engine disk (.disk fault)
  | senseless {text : String} (complete : config.missing = [])
      (held : disk.read config.swaggerUrl = .ok text) (nothing : Document.value? text = none) :
      Obstructed config engine disk (.document .file config.swaggerUrl .unreadable)
  | noObject {text : String} {value : Json} (complete : config.missing = [])
      (held : disk.read config.swaggerUrl = .ok text) (parsed : Document.value? text = some value)
      (other : ∀ fields, value ≠ .obj fields) :
      Obstructed config engine disk (.document .file config.swaggerUrl .notAnObject)
  | noDirectory {directory : Path} (complete : config.missing = [])
      (described : HoldsObject disk config.swaggerUrl)
      (wanted : config.templateDirectory? = some directory) (absent : disk.isDirectory directory = false) :
      Obstructed config engine disk (.template (.directoryNotFound directory))
  | brokenTemplates {files : List (String × ByteArray)} (complete : config.missing = [])
      (described : HoldsObject disk config.swaggerUrl)
      (found : Template.Library.files disk config.templateDirectory? = .ok files)
      (refused : engine.read? files (Template.Library.missing files) = none) :
      Obstructed config engine disk .templateText

section Stages

theorem check_nearby (nearby : Url.isWeb config.swaggerUrl = false) :
    config.check = if config.missing = [] then .ok () else .error (.config (.missingFields config.missing)) := by
  rw [Config.check, nearby]
  cases config.missing <;> simp

theorem load_nearby {web : Web} (nearby : Url.isWeb config.swaggerUrl = false) :
    Document.load disk config.swaggerUrl web = Document.ofFile disk config.swaggerUrl := by
  rw [Document.load, nearby, if_neg Bool.false_ne_true]

theorem ofText_error_iff {text : String} {fault : DocumentFault} :
    Document.ofText text = .error fault ↔
      (Document.value? text = none ∧ fault = .unreadable) ∨
        ∃ value, Document.value? text = some value ∧ (∀ fields, value ≠ .obj fields) ∧
          fault = .notAnObject := by
  unfold Document.ofText
  cases Document.value? text with
  | none => simp [eq_comm]
  | some value => cases value <;> simp [eq_comm]

theorem ofText_ok_iff (text : String) :
    (∃ document, Document.ofText text = .ok document) ↔
      ∃ fields, Document.value? text = some (.obj fields) := by
  unfold Document.ofText
  cases Document.value? text with
  | none => simp
  | some value => cases value <;> simp

theorem ofFile_error_iff {path : Path} : Document.ofFile disk path = .error failure ↔
    (∃ fault, disk.read path = .error fault ∧ failure = .disk fault) ∨
      ∃ text, disk.read path = .ok text ∧
        ∃ fault, Document.ofText text = .error fault ∧ failure = .document .file path fault := by
  simp only [Document.ofFile, bind_error_iff, mapError_error_iff, mapError_ok_iff]

theorem ofFile_ok_iff {path : Path} :
    (∃ document, Document.ofFile disk path = .ok document) ↔ HoldsObject disk path := by
  simp only [Document.ofFile, bind_ok_iff, mapError_ok_iff, HoldsObject]
  constructor
  · rintro ⟨document, text, held, parsed⟩
    obtain ⟨fields, object⟩ := (ofText_ok_iff text).mp ⟨document, parsed⟩
    exact ⟨text, fields, held, object⟩
  · rintro ⟨text, fields, held, object⟩
    obtain ⟨document, parsed⟩ := (ofText_ok_iff text).mpr ⟨fields, object⟩
    exact ⟨document, text, held, parsed⟩

theorem files_error_iff {wanted : Option Path} : Template.Library.files disk wanted = .error failure ↔
    ∃ directory, wanted = some directory ∧ disk.isDirectory directory = false ∧
      failure = .template (.directoryNotFound directory) := by
  cases wanted with
  | none => simp [Template.Library.files]
  | some directory =>
    simp only [Template.Library.files, Option.some.injEq, exists_eq_left', Disk.isDirectory]
    cases disk.find directory with
    | error fault => simp [eq_comm]
    | ok there =>
      obtain ⟨spot, entry⟩ := there
      cases entry <;> simp [eq_comm]

theorem ofFiles_error_iff {directory : Option Path} {files : List (String × ByteArray)} :
    Template.Library.ofFiles engine directory files = .error failure ↔
      engine.read? files (Template.Library.missing files) = none ∧ failure = .templateText := by
  rw [Template.Library.ofFiles]
  cases engine.read? files (Template.Library.missing files) <;> simp [eq_comm]

theorem loadTemplates_error_iff {wanted : Option Path} :
    Template.Library.load disk wanted engine = .error failure ↔
      Template.Library.files disk wanted = .error failure ∨
        ∃ files, Template.Library.files disk wanted = .ok files ∧
          engine.read? files (Template.Library.missing files) = none ∧ failure = .templateText := by
  simp only [Template.Library.load, bind_error_iff, ofFiles_error_iff]

end Stages

theorem sources_error_stages : config.sources rules around disk = .error failure ↔
    config.check = .error failure ∨ config.check = .ok () ∧
      (Document.load disk config.swaggerUrl around.web = .error failure ∨
        (∃ document, Document.load disk config.swaggerUrl around.web = .ok document) ∧
          Template.Library.load disk config.templateDirectory? around.engine = .error failure) := by
  simp only [Config.sources, Config.api, bind_error_iff]
  cases config.check with
  | error other => simp [bind, Except.bind]
  | ok =>
    cases Document.load disk config.swaggerUrl around.web with
    | error other => simp [bind, Except.bind, pure, Except.pure]
    | ok document => simp [bind, Except.bind, pure, Except.pure]

theorem prepared_stages {sources : Api × Template.Library}
    (prepared : config.sources rules around disk = .ok sources) :
    config.check = .ok () ∧ (∃ document, Document.load disk config.swaggerUrl around.web = .ok document) ∧
      Template.Library.load disk config.templateDirectory? around.engine = .ok sources.2 := by
  simp only [Config.sources, Config.api, bind_ok_iff] at prepared
  obtain ⟨api, ⟨_, valid, document, described, _⟩, library, loaded, same⟩ := prepared
  cases same
  exact ⟨valid, ⟨document, described⟩, loaded⟩

theorem sources_error_iff (nearby : Url.isWeb config.swaggerUrl = false) :
    config.sources rules around disk = .error failure ↔ Obstructed config around.engine disk failure := by
  rw [sources_error_stages, check_nearby nearby, load_nearby nearby, loadTemplates_error_iff, ofFile_ok_iff]
  -- In both directions the cases are the stages: the entry, its document, its templates.
  by_cases complete : config.missing = []
  · rw [if_pos complete]
    constructor
    · rintro (invalid | ⟨_, noDocument | ⟨described, noFiles | ⟨files, found, refused, rfl⟩⟩⟩)
      · cases invalid
      · obtain ⟨fault, refused, rfl⟩ | ⟨text, held, fault, refused, rfl⟩ := ofFile_error_iff.mp noDocument
        · exact .unreadable complete refused
        · obtain ⟨nothing, rfl⟩ | ⟨value, parsed, other, rfl⟩ := ofText_error_iff.mp refused
          · exact .senseless complete held nothing
          · exact .noObject complete held parsed other
      · obtain ⟨directory, wanted, absent, rfl⟩ := files_error_iff.mp noFiles
        exact .noDirectory complete described wanted absent
      · exact .brokenTemplates complete described found refused
    · intro obstructed
      refine .inr ⟨rfl, ?_⟩
      cases obstructed with
      | incomplete blank => exact absurd complete blank
      | unreadable _ refused => exact .inl (ofFile_error_iff.mpr (.inl ⟨_, refused, rfl⟩))
      | senseless _ held nothing =>
        have refused := ofText_error_iff.mpr (.inl ⟨nothing, rfl⟩)
        exact .inl (ofFile_error_iff.mpr (.inr ⟨_, held, _, refused, rfl⟩))
      | noObject _ held parsed other =>
        have refused := ofText_error_iff.mpr (.inr ⟨_, parsed, other, rfl⟩)
        exact .inl (ofFile_error_iff.mpr (.inr ⟨_, held, _, refused, rfl⟩))
      | noDirectory _ described wanted absent =>
        exact .inr ⟨described, .inl (files_error_iff.mpr ⟨_, wanted, absent, rfl⟩)⟩
      | brokenTemplates _ described found refused => exact .inr ⟨described, .inr ⟨_, found, refused, rfl⟩⟩
  · rw [if_neg complete]
    constructor
    · rintro (invalid | ⟨valid, _⟩)
      · cases invalid
        exact .incomplete complete
      · cases valid
    · intro obstructed
      cases obstructed with
      | incomplete => exact .inl rfl
      | unreadable full | senseless full | noObject full | noDirectory full | brokenTemplates full =>
        exact absurd full complete

section Runs

theorem run_refused (refused : config.sources rules around disk = .error failure) :
    (generateClient rules mode config around).run.run disk = (.error failure, disk) := by
  rw [generateClient, Action.run_bind, Action.run_get]
  simp only [Action.run_bind, Action.run_ofExcept, refused]

def Config.report (config : Config) (api : Api) (receipt : Output.Receipt) : Generated :=
  { directory := config.outPath
    controllers := api.controllers.length
    models := api.models.length
    enums := api.enums.length
    receipt }

theorem run_prepared (prepared : config.sources rules around disk = .ok (api, library)) :
    (generateClient rules mode config around).run.run disk =
      match (Output.writeClient library api (config.setting api) config.outPath mode).run.run disk with
      | (.ok receipt, after) => (.ok (config.report api receipt), after)
      | (.error failure, after) => (.error failure, after) := by
  rw [generateClient, Action.run_bind, Action.run_get]
  simp only [Action.run_bind, Action.run_ofExcept, prepared]
  split
  next ran => rw [ran]; rfl
  next ran => rw [ran]

theorem disk_prepared (prepared : config.sources rules around disk = .ok (api, library)) :
    ((generateClient rules mode config around).run.run disk).2 =
      ((Output.writeClient library api (config.setting api) config.outPath mode).run.run disk).2 := by
  rw [run_prepared prepared]
  split
  next ran => rw [ran]
  next ran => rw [ran]

theorem run_ok {report : Generated} {after : Disk}
    (ran : (generateClient rules mode config around).run.run disk = (.ok report, after)) :
    ∃ api library receipt, config.sources rules around disk = .ok (api, library) ∧
      (Output.writeClient library api (config.setting api) config.outPath mode).run.run disk = (.ok receipt, after) ∧
      report = config.report api receipt := by
  cases prepared : config.sources rules around disk with
  | error failure => cases (run_refused prepared).symm.trans ran
  | ok sources =>
    obtain ⟨api, library⟩ := sources
    rw [run_prepared prepared] at ran
    split at ran
    next receipt _ wrote =>
      cases ran
      exact ⟨api, library, receipt, rfl, wrote, rfl⟩
    next => cases ran

theorem sources_api (prepared : config.sources rules around disk = .ok (api, library)) :
    config.api rules disk around.web = .ok api := by
  simp only [Config.sources, bind_ok_iff] at prepared
  obtain ⟨api, found, library, _, same⟩ := prepared
  cases same
  exact found

def controllerNames? (rules : NameRules) (config : Config) (web : Web) (disk : Disk) : Option (List String) :=
  (config.api rules disk web).toOption.map fun api => api.controllers.map (·.name)

theorem mem_controllerNames {web : Web} {names : List String}
    (evaluated : controllerNames? rules config web disk = some names)
    (found : config.api rules disk web = .ok api) {c : Api.Controller} (member : c ∈ api.controllers) :
    c.name ∈ names := by
  rw [controllerNames?, found] at evaluated
  cases evaluated
  exact List.mem_map_of_mem member

theorem plain_of_names {web : Web} {names : List String}
    (evaluated : controllerNames? rules config web disk = some names) (free : ∀ name ∈ names, '/' ∉ name.toList) :
    ∀ api, config.api rules disk web = .ok api → ∀ c ∈ api.controllers, '/' ∉ c.name.toList :=
  fun _ found _ member => free _ (mem_controllerNames evaluated found member)

end Runs

theorem obstructed_untouched (rules : NameRules) (mode : Output.BaseMode) (config : Config)
    (around : Surroundings) (disk : Disk) (nearby : Url.isWeb config.swaggerUrl = false)
    (stuck : config.check ≠ .ok () ∨ ¬ HoldsObject disk config.swaggerUrl ∨
      ∀ library, Template.Library.load disk config.templateDirectory? around.engine ≠ .ok library) :
    ∃ failure, Obstructed config around.engine disk failure ∧
      (∀ other, Obstructed config around.engine disk other → other = failure) ∧
      (generateClient rules mode config around).run.run disk = (.error failure, disk) := by
  have refused : ∃ failure, config.sources rules around disk = .error failure := by
    cases prepared : config.sources rules around disk with
    | error failure => exact ⟨failure, rfl⟩
    | ok sources =>
      obtain ⟨valid, described, loaded⟩ := prepared_stages prepared
      rw [load_nearby nearby, ofFile_ok_iff] at described
      obtain invalid | undescribed | noLibrary := stuck
      · exact absurd valid invalid
      · exact absurd described undescribed
      · exact absurd loaded (noLibrary _)
  obtain ⟨failure, refused⟩ := refused
  refine ⟨failure, (sources_error_iff nearby).mp refused, ?_, run_refused refused⟩
  intro other obstructed
  have same : config.sources rules around disk = .error other := (sources_error_iff nearby).mpr obstructed
  rw [refused] at same
  cases same
  rfl

-- An output directory from an earlier run, and a directory with a template that is not closed.
def unclosedDisk : Disk :=
  { workingDirectory := ["work"]
    entries := [
      (["work"], .directory),
      (["work", "swagger.json"], .file "\x7b\x7d".toUTF8),
      (["work", "out"], .directory),
      (["work", "out", "base"], .directory),
      (["work", "out", "base", "useAxios.ts"], .file "mine".toUTF8),
      (["work", "own"], .directory),
      (["work", "own", "model.ts.tera"], .file "\x7b\x7b".toUTF8)] }

def unclosedConfig : Config :=
  { swaggerUrl := "swagger.json", apiBase := "/api", outPath := "out", templatePath := some "own" }

theorem obstructed_untouched_unclosed :
    Url.isWeb unclosedConfig.swaggerUrl = false ∧
    (∀ library, Template.Library.load unclosedDisk unclosedConfig.templateDirectory? .standard ≠ .ok library) ∧
    ∃ failure, Obstructed unclosedConfig .standard unclosedDisk failure ∧
      (∀ other, Obstructed unclosedConfig .standard unclosedDisk other → other = failure) ∧
      (generateClient .standard .regenerate unclosedConfig .alone).run.run unclosedDisk =
        (.error failure, unclosedDisk) := by
  have noLibrary : ∀ library,
      Template.Library.load unclosedDisk unclosedConfig.templateDirectory? .standard ≠ .ok library := by
    have refused : (Template.Library.load unclosedDisk unclosedConfig.templateDirectory?
        .standard).toOption.isNone = true := by decide +kernel
    intro library loaded
    rw [loaded] at refused
    cases refused
  have nearby : Url.isWeb unclosedConfig.swaggerUrl = false := by decide +kernel
  exact ⟨nearby, noLibrary, obstructed_untouched .standard .regenerate unclosedConfig .alone unclosedDisk nearby
    (.inr (.inr noLibrary))⟩

end ClientGen
