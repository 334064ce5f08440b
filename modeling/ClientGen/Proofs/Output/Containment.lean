import ClientGen.Proofs.Disk.Frame
import ClientGen.Proofs.Preparation

namespace ClientGen

namespace Path

variable {base child : Path} {name : String}

-- A relative path of names that stand for themselves.
structure Ordinary (path : Path) : Prop where
  written : path ≠ ""
  relative : path.isAbsolute = false
  plain : ∀ name ∈ path.names, name ≠ "." ∧ name ≠ ".."

-- A path that leads down, seen from whatever base.
structure Inward (path : Path) : Prop where
  relative : path.isAbsolute = false
  descends : path.Descends

theorem Ordinary.descends {path : Path} (ordinary : Ordinary path) : path.Descends :=
  Plain.descends ordinary.plain

theorem Ordinary.place {path : Path} (ordinary : Ordinary path) (disk : Disk) :
    disk.place path = disk.workingDirectory ++ path.names := by
  rw [Disk.place_plain ordinary.plain, Disk.start, ordinary.relative]
  rfl

structure Simple (name : String) : Prop where
  alone : Path.names name = [name]
  moves : name ≠ "."
  descends : name ≠ ".."

instance (name : String) : Decidable (Simple name) :=
  decidable_of_iff (Path.names name = [name] ∧ name ≠ "." ∧ name ≠ "..")
    ⟨fun ⟨alone, moves, descends⟩ => ⟨alone, moves, descends⟩,
      fun simple => ⟨simple.alone, simple.moves, simple.descends⟩⟩

theorem Simple.inward (simple : Simple name) : Inward name := by
  have member : name ∈ Path.names name := simple.alone ▸ List.mem_singleton_self name
  have free := (isName_of_mem member).2
  constructor
  · cases same : name.toList with
    | nil => simp [isAbsolute, same]
    | cons c rest =>
      have other : c ≠ '/' := fun slash => free (by simp [same, slash])
      simp [isAbsolute, same, other]
  · rw [Descends, simple.alone, List.mem_singleton]
    exact simple.descends.symm

theorem join_ne_empty (inward : Inward child) (written : base ≠ "") : join base child ≠ "" := by
  intro empty
  have lists := congrArg String.toList empty
  rw [join, inward.relative, if_neg Bool.false_ne_true] at lists
  split at lists <;> simp [written] at lists

theorem descends_join (descends : base.Descends) (inward : Inward child) : (join base child).Descends := by
  rw [Descends, names_join inward.relative, List.mem_append, not_or]
  exact ⟨descends, inward.descends⟩

theorem place_join (written : base ≠ "") (inward : Inward child) (disk : Disk) :
    disk.place (join base child) = disk.place base ++ child.names.filter (· != ".") := by
  rw [Disk.place, Disk.place, Disk.start, Disk.start, isAbsolute_join inward.relative written,
    names_join inward.relative, List.filter_append, List.append_assoc]

end Path

namespace Output

def parts : List String := ["base", "model", "api"]

def InPart (root spot : Place) : Prop :=
  ∃ part ∈ parts, root ++ [part] <+: spot ∧ spot ≠ root ++ [part]

theorem InPart.below {root spot : Place} (within : InPart root spot) : root <+: spot := by
  obtain ⟨part, _, beginning, _⟩ := within
  exact (List.prefix_append _ _).trans beginning

-- From one disk to the other, only files in the parts of the output directory are new or changed, and
-- nothing outside the output directory but missing directories above it.
structure Contained (root : Place) (before after : Disk) : Prop where
  workingDirectory : after.workingDirectory = before.workingDirectory
  files : ∀ spot content, after.entryAt spot = some (.file content) →
    before.entryAt spot = some (.file content) ∨ InPart root spot
  outside : ∀ spot, ¬ root <+: spot → after.entryAt spot = before.entryAt spot ∨
    spot <+: root ∧ before.entryAt spot = none ∧ after.entryAt spot = some .directory

namespace Contained

variable {root top whole spot : Place} {before middle after disk : Disk}

theorem refl (root : Place) (disk : Disk) : Contained root disk disk :=
  ⟨rfl, fun _ _ same => .inl same, fun _ _ => .inl rfl⟩

theorem trans (first : Contained root before middle) (second : Contained root middle after) :
    Contained root before after := by
  refine ⟨second.workingDirectory.trans first.workingDirectory, ?_, ?_⟩
  · intro spot content found
    obtain old | within := second.files spot content found
    · exact first.files spot content old
    · exact .inr within
  · intro spot away
    exact Disk.kept_or_made_trans (first.outside spot away) (second.outside spot away)

theorem of_opened (opened : Disk.Opened top before after) (within : top <+: whole)
    (below : root <+: whole) : Contained root before after := by
  refine ⟨opened.workingDirectory, ?_, ?_⟩
  · exact fun spot content found => .inl ((opened.files spot content).mp found)
  · intro spot away
    obtain same | ⟨above, missing, made⟩ := opened.entryAt spot
    · exact .inl same
    · have comparable := List.prefix_or_prefix_of_prefix (above.trans within) below
      exact .inr ⟨comparable.resolve_right away, missing, made⟩

theorem of_cleared (cleared : Disk.Cleared top before after) (below : root <+: top) :
    Contained root before after := by
  refine ⟨cleared.workingDirectory, ?_, ?_⟩
  · intro spot content found
    obtain same | ⟨_, gone⟩ := cleared.entryAt spot
    · exact .inl (same ▸ found)
    · rw [gone] at found
      cases found
  · intro spot away
    obtain same | ⟨above, _⟩ := cleared.entryAt spot
    · exact .inl same
    · exact absurd (below.trans above) away

theorem of_written (content : ByteArray) (within : InPart root spot) :
    Contained root disk (disk.put spot (.file content)) := by
  have below := within.below
  refine ⟨rfl, ?_, ?_⟩
  · intro other found same
    by_cases here : other = spot
    · exact .inr (here ▸ within)
    · rw [Disk.entryAt_put_ne here] at same
      exact .inl same
  · intro other away
    have different : other ≠ spot := fun same => away (same ▸ below)
    exact .inl (Disk.entryAt_put_ne different)

end Contained

-- A relation that every operation of a run upholds: directories are made on the way to the output directory or
-- in it, and nothing is removed or written anywhere else.
structure Upheld (out : Path) (related : Disk → Disk → Prop) : Prop where
  transmits : Action.Transmits related
  makes : ∀ {path : Path} {disk after : Disk}, path.Descends →
    disk.place path <+: disk.place out ∨ disk.place out <+: disk.place path →
    disk.makeDirectory path = .ok after → related disk after
  removes : ∀ {path : Path} {disk : Disk}, path.Descends → disk.place out <+: disk.place path →
    related disk (disk.removeDirectory path).2
  writes : ∀ {path : Path} {disk after : Disk} {content : ByteArray}, path.Descends →
    InPart (disk.place out) (disk.place path) → disk.write path content = .ok after → related disk after

section Operations

variable {out path : Path} {related : Disk → Disk → Prop} (upheld : Upheld out related)

include upheld

theorem keeps_makeDirectories (descends : path.Descends)
    (along : ∀ disk : Disk, disk.place path <+: disk.place out ∨ disk.place out <+: disk.place path) :
    Action.Keeps related (Action.makeDirectories path) := by
  refine Action.keeps_attempt fun disk => ?_
  refine Disk.related_makeDirectories upheld.transmits ?_ (upheld.makes descends (along _)) disk
  intro front beginning disk after made
  have upper : disk.place (Path.ofSteps path.isAbsolute front) <+: disk.place path := Disk.place_ofSteps beginning
  refine upheld.makes (Disk.descends_ofSteps descends beginning) ?_ made
  obtain above | below := along disk
  · exact .inl (upper.trans above)
  · exact List.prefix_or_prefix_of_prefix upper below

theorem keeps_removeIfThere (descends : path.Descends)
    (below : ∀ disk : Disk, disk.place out <+: disk.place path) :
    Action.Keeps related (Folder.removeIfThere path) := by
  have passes := upheld.transmits
  refine Action.keeps_bind passes (Action.keeps_get passes) fun disk => ?_
  split
  next => exact Action.keeps_attempt fun disk => upheld.removes descends (below disk)
  next => exact Action.keeps_pure passes _

theorem keeps_writeBelow (content : ByteArray) (descends : path.Descends)
    (within : ∀ disk : Disk, InPart (disk.place out) (disk.place path)) :
    Action.Keeps related (Action.writeBelow path content) := by
  have passes := upheld.transmits
  have written : Action.Keeps related (Action.change (·.write path content)) :=
    Action.keeps_change passes fun disk after written => upheld.writes descends (within disk) written
  unfold Action.writeBelow
  split
  next parent above =>
    rw [Path.parent?_steps above]
    have beginning := List.dropLast_prefix path.steps
    refine Action.keeps_bind passes ?_ fun _ => written
    refine keeps_makeDirectories upheld (Disk.descends_ofSteps descends beginning) fun disk => ?_
    exact List.prefix_or_prefix_of_prefix (Disk.place_ofSteps beginning) (within disk).below
  next => exact written

end Operations

section Paths

variable {out part child : Path}

structure Leads (out path : Path) : Prop where
  descends : path.Descends
  within : ∀ disk : Disk, InPart (disk.place out) (disk.place path)

theorem inward_part (listed : part ∈ parts) : Path.Inward part ∧ part.names = [part] ∧ part ≠ "." := by
  simp only [parts, List.mem_cons, List.not_mem_nil, or_false] at listed
  obtain rfl | rfl | rfl := listed <;> exact ⟨⟨by decide, by decide⟩, by decide, by decide⟩

theorem place_part (written : out ≠ "") (listed : part ∈ parts) (disk : Disk) :
    disk.place (Path.join out part) = disk.place out ++ [part] := by
  obtain ⟨inward, names, moves⟩ := inward_part listed
  rw [Path.place_join written inward, names]
  simp [moves]

theorem leads_join (written : out ≠ "") (descends : out.Descends) (listed : part ∈ parts)
    (inward : Path.Inward child) (named : ∃ name ∈ child.names, name ≠ ".") :
    Leads out (Path.join (Path.join out part) child) := by
  have partInward := (inward_part listed).1
  refine ⟨Path.descends_join (Path.descends_join descends partInward) inward, fun disk => ?_⟩
  rw [Path.place_join (Path.join_ne_empty partInward written) inward, place_part written listed]
  refine ⟨part, listed, List.prefix_append _ _, ?_⟩
  obtain ⟨name, member, moves⟩ := named
  have kept : name ∈ child.names.filter (· != ".") := List.mem_filter.mpr ⟨member, by simpa using moves⟩
  intro same
  rw [List.append_right_eq_self.mp same] at kept
  cases kept

-- A controller is named in such a way that its file lies below the part for controllers.
def Confined (controller : String) : Prop := Path.Inward (controller ++ ".ts")

theorem ending_ts (front : List Char) :
    String.ofList (front ++ ['.', 't', 's']) ≠ "." ∧ String.ofList (front ++ ['.', 't', 's']) ≠ ".." := by
  have long : 3 ≤ (String.ofList (front ++ ['.', 't', 's'])).toList.length := by simp
  constructor
  · intro same
    exact absurd (same ▸ long) (by decide)
  · intro same
    exact absurd (same ▸ long) (by decide)

theorem names_ts (controller : String) : ∃ name ∈ Path.names (controller ++ ".ts"), name ≠ "." := by
  have free : '/' ∉ ['.', 't', 's'] := by decide
  obtain ⟨front, member⟩ := Path.mem_splitNames_ending free (by decide) [] controller.toList
  refine ⟨_, ?_, (ending_ts front).1⟩
  simpa [Path.names] using member

theorem simple_ts {controller : String} (free : '/' ∉ controller.toList) : Path.Simple (controller ++ ".ts") where
  alone := by
    have whole : '/' ∉ controller.toList ++ ['.', 't', 's'] := by simp [free]
    have alone := Path.splitNames_free whole []
    have same : String.ofList (controller.toList ++ ['.', 't', 's']) = controller ++ ".ts" := by
      apply String.toList_injective
      simp
    simpa [Path.names, same] using alone
  moves := by simpa using (ending_ts controller.toList).1
  descends := by simpa using (ending_ts controller.toList).2

theorem confined_of_free {controller : String} (free : '/' ∉ controller.toList) : Confined controller :=
  (simple_ts free).inward

theorem leads_base {folder : Folder} (written : folder.root ≠ "") (descends : folder.root.Descends) :
    Leads folder.root folder.basePath :=
  leads_join written descends (by decide) ⟨by decide, by decide⟩ ⟨"useAxios.ts", by decide⟩

theorem leads_page {folder : Folder} {setting : Setting} {api : Api} {withBase : Bool} {page : Page}
    (written : folder.root ≠ "") (descends : folder.root.Descends)
    (confined : ∀ c ∈ api.controllers, Confined c.name)
    (member : page ∈ pages folder setting api withBase) : Leads folder.root page.path := by
  have model : Leads folder.root folder.modelPath :=
    leads_join written descends (by decide) ⟨by decide, by decide⟩ ⟨"index.ts", by decide⟩
  rw [pages, List.mem_append, List.mem_cons, List.mem_map] at member
  obtain wanted | rfl | ⟨c, listed, rfl⟩ := member
  · split at wanted
    next =>
      obtain rfl := List.mem_singleton.mp wanted
      exact leads_base written descends
    next => cases wanted
  · exact model
  · exact leads_join written descends (by decide) (confined c listed) (names_ts c.name)

theorem keeps_writePage {related : Disk → Disk → Prop} (upheld : Upheld out related) (library : Template.Library)
    {page : Page} (leads : Leads out page.path) : Action.Keeps related (writePage library page) :=
  Action.keeps_bind upheld.transmits (Action.keeps_ofExcept upheld.transmits _) fun text =>
    keeps_writeBelow upheld text.toUTF8 leads.descends leads.within

end Paths

section Runs

variable (folder : Folder) (written : folder.root ≠ "") (descends : folder.root.Descends)
  {related : Disk → Disk → Prop} (upheld : Upheld folder.root related)

include written descends upheld

theorem keeps_makeReady (mode : BaseMode) : Action.Keeps related (folder.makeReady mode) := by
  have passes := upheld.transmits
  have parted : ∀ part ∈ parts, Action.Keeps related (Folder.removeIfThere (Path.join folder.root part)) :=
    fun part listed => keeps_removeIfThere upheld (Path.descends_join descends (inward_part listed).1) fun disk =>
      place_part written listed disk ▸ List.prefix_append _ _
  have made : ∀ writeBase : Bool, Action.Keeps related (do Action.makeDirectories folder.root; pure writeBase) :=
    fun writeBase => Action.keeps_bind passes (keeps_makeDirectories upheld descends fun _ => .inl List.prefix_rfl)
      fun _ => Action.keeps_pure passes _
  cases mode with
  | fresh => exact made true
  | regenerate =>
    exact Action.keeps_bind passes (keeps_removeIfThere upheld descends fun _ => List.prefix_rfl) fun _ => made true
  | keep =>
    refine Action.keeps_bind passes (parted "api" (by decide)) fun _ => ?_
    refine Action.keeps_bind passes (parted "model" (by decide)) fun _ => ?_
    exact Action.keeps_bind passes (Action.keeps_get passes) fun _ => made _

theorem keeps_writeClient {api : Api} (confined : ∀ c ∈ api.controllers, Confined c.name)
    (library : Template.Library) (setting : Setting) (mode : BaseMode) :
    Action.Keeps related (writeClient library api setting folder.root mode) := by
  have passes := upheld.transmits
  refine Action.keeps_bind passes (keeps_makeReady folder written descends upheld mode) fun withBase => ?_
  refine Action.keeps_bind passes ?_ fun _ => Action.keeps_pure passes _
  refine Action.keeps_forM passes fun page member => ?_
  exact keeps_writePage upheld library (leads_page written descends confined member)

end Runs

-- The same, with the output directory as a path.
def Within (out : Path) (before after : Disk) : Prop := Contained (before.place out) before after

theorem upheld_within (out : Path) : Upheld out (Within out) where
  transmits := Disk.transmits_place out .refl .trans Contained.workingDirectory
  makes descends along made := by
    obtain ⟨missing, rfl⟩ := Disk.makeDirectory_eq descends made
    obtain above | below := along
    · exact .of_opened (.put List.prefix_rfl missing) above List.prefix_rfl
    · exact .of_opened (.put List.prefix_rfl missing) List.prefix_rfl below
  removes descends below := .of_cleared (Disk.cleared_removeDirectory descends _) below
  writes descends within written := by
    rw [Disk.write_eq descends written]
    exact .of_written _ within

theorem output_contained (rules : NameRules) (mode : BaseMode) (config : Config) (around : Surroundings)
    (disk : Disk) (ordinary : Path.Ordinary config.outPath)
    (confined : ∀ api, config.api rules disk around.web = .ok api → ∀ c ∈ api.controllers, Confined c.name) :
    Contained (disk.workingDirectory ++ config.outPath.names) disk
      ((generateClient rules mode config around).run.run disk).2 := by
  rw [← ordinary.place disk]
  cases prepared : config.sources rules around disk with
  | error failure =>
    rw [run_refused prepared]
    exact .refl _ disk
  | ok sources =>
    obtain ⟨api, library⟩ := sources
    rw [disk_prepared prepared]
    exact keeps_writeClient ⟨config.outPath⟩ ordinary.written ordinary.descends (upheld_within config.outPath)
      (confined api (sources_api prepared)) library (config.setting api) mode disk

-- A document with one operation that has a tag, and beside it a file that is not generated.
def taggedDocument (tag : String) : String :=
  .join ["\x7b\"swagger\":\"2.0\",\"paths\":\x7b\"/x\":\x7b\"get\":\x7b\"tags\":[\"", tag,
    "\"]\x7d\x7d\x7d\x7d"]

def taggedDisk (tag : String) : Disk :=
  { workingDirectory := ["work"]
    entries := [
      (["work"], .directory),
      (["work", "evilApi.ts"], .file "mine".toUTF8),
      (["work", "swagger.json"], .file (taggedDocument tag).toUTF8)] }

def taggedConfig : Config :=
  { swaggerUrl := "swagger.json", apiBase := "/api", outPath := "out", templatePath := none }

theorem ordinary_out : Path.Ordinary taggedConfig.outPath := ⟨by decide, by decide, by decide⟩

-- The same from the web, with surroundings in which every request gets one text.
def fetchedConfig : Config := { taggedConfig with swaggerUrl := "http://[::1]:8088/api-json" }

def serving (text : String) : Surroundings :=
  { Surroundings.alone with web := fun _ => .ok { code := 200, status := "200 OK", text := .ok text } }

theorem output_contained_pet :
    Path.Ordinary fetchedConfig.outPath ∧
    controllerNames? .standard fetchedConfig (serving (taggedDocument "Pet")).web (taggedDisk "Pet") =
      some ["PetApi"] ∧
    (∀ api, fetchedConfig.api .standard (taggedDisk "Pet") (serving (taggedDocument "Pet")).web = .ok api →
      ∀ c ∈ api.controllers, Confined c.name) ∧
    Contained ((taggedDisk "Pet").workingDirectory ++ fetchedConfig.outPath.names) (taggedDisk "Pet")
      ((generateClient .standard .fresh fetchedConfig (serving (taggedDocument "Pet"))).run.run
        (taggedDisk "Pet")).2 := by
  have names : controllerNames? .standard fetchedConfig (serving (taggedDocument "Pet")).web (taggedDisk "Pet") =
      some ["PetApi"] := by decide +kernel
  have confined : ∀ api, fetchedConfig.api .standard (taggedDisk "Pet") (serving (taggedDocument "Pet")).web =
      .ok api → ∀ c ∈ api.controllers, Confined c.name := fun api loaded c member =>
    confined_of_free (plain_of_names names (by decide) api loaded c member)
  exact ⟨ordinary_out, names, confined, output_contained .standard .fresh fetchedConfig
    (serving (taggedDocument "Pet")) (taggedDisk "Pet") ordinary_out confined⟩

def sizeAt? (disk : Disk) (spot : Place) : Option Nat :=
  match disk.entryAt spot with
  | some (.file content) => some content.size
  | _ => none

theorem tag_leads_out :
    Path.Ordinary taggedConfig.outPath ∧
    (taggedDisk "../../evil").entryAt ["work", "evilApi.ts"] = some (.file "mine".toUTF8) ∧
    ((generateClient .standard .fresh taggedConfig).run.run (taggedDisk "../../evil")).2.entryAt
      ["work", "evilApi.ts"] ≠ some (.file "mine".toUTF8) ∧
    ¬ Contained ((taggedDisk "../../evil").workingDirectory ++ taggedConfig.outPath.names)
      (taggedDisk "../../evil")
      ((generateClient .standard .fresh taggedConfig).run.run (taggedDisk "../../evil")).2 := by
  have before : (taggedDisk "../../evil").entryAt ["work", "evilApi.ts"] =
      some (.file "mine".toUTF8) := rfl
  have size : sizeAt? ((generateClient .standard .fresh taggedConfig).run.run
      (taggedDisk "../../evil")).2 ["work", "evilApi.ts"] ≠ some 4 := by decide +kernel
  have outside : ¬ (taggedDisk "../../evil").workingDirectory ++ taggedConfig.outPath.names <+:
      ["work", "evilApi.ts"] := by decide
  have after : ((generateClient .standard .fresh taggedConfig).run.run
      (taggedDisk "../../evil")).2.entryAt ["work", "evilApi.ts"] ≠ some (.file "mine".toUTF8) := by
    intro same
    rw [sizeAt?, same] at size
    exact size rfl
  refine ⟨ordinary_out, before, after, ?_⟩
  intro contained
  obtain same | ⟨_, missing, _⟩ := contained.outside ["work", "evilApi.ts"] outside
  · exact after (same.trans before)
  · rw [before] at missing
    cases missing

end Output

end ClientGen
