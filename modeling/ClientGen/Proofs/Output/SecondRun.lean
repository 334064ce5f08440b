import ClientGen.Proofs.Disk.Congruence
import ClientGen.Proofs.Output.Emptying

namespace ClientGen.Output

open Disk (Under Grounded Congruent Fits)

def BaseMode.rewritesBase (mode : BaseMode) : Bool := mode != .keep

def Receipt.again (mode : BaseMode) (out : Path) (receipt : Receipt) : Receipt :=
  if mode.rewritesBase then receipt
  else { files := receipt.files.filter (· != (Folder.mk out).basePath), baseWritten := false }

variable {library : Template.Library} {api : Api} {setting : Setting} {out path : Path} {mode : BaseMode}
  {before ready start disk after : Disk} {withBase : Bool} {spot : Place}

-- A disk on which the writing can begin: nothing is left at the places that the mode empties.
structure Vacated (out : Path) (mode : BaseMode) (start : Disk) : Prop where
  grounded : start.Grounded
  root : start.entryAt (start.place out) = some .directory
  vacant : ∀ spot, mode.Empties (start.place out) spot → start.entryAt spot = none

-- The base is in place, and the path to it is not too long.
structure Based (out : Path) (start : Disk) : Prop where
  isFile : IsFile start (start.place out ++ baseFile)
  fits : Fits (Folder.mk out).basePath

-- The writing that a second run repeats, with the base in place before if that is kept.
structure Repeated (library : Template.Library) (api : Api) (setting : Setting) (out : Path) (mode : BaseMode)
    (start after : Disk) : Prop where
  vacated : Vacated out mode start
  based : mode = .keep → Based out start
  wrote : ((pages ⟨out⟩ setting api mode.rewritesBase).forM (writePage library)).run.run start = (.ok (), after)

section First

theorem vacated_makeReady (grounded : before.Grounded) (ordinary : Path.Ordinary out) (removable : Removable ⟨out⟩)
    (readied : Readied out mode withBase before ready)
    (prepared : ((Folder.mk out).makeReady mode).run.run before = (.ok withBase, ready)) : Vacated out mode ready := by
  have left := keeps_makeReady ⟨out⟩ ordinary.written ordinary.descends (upheld_grounded ordinary) mode before
  rw [prepared] at left
  constructor <;> try rw [Disk.place_congr readied.workingDirectory]
  case grounded => exact left grounded
  case root => exact readied.root
  case vacant => exact fun spot => vacant_makeReady grounded.sound ordinary removable prepared

theorem based_makeReady (sound : before.Sound) (ordinary : Path.Ordinary out) (removable : Removable ⟨out⟩)
    (readied : Readied out mode false before ready)
    (prepared : ((Folder.mk out).makeReady mode).run.run before = (.ok false, ready)) : Based out ready := by
  constructor
  case isFile =>
    obtain ⟨rfl, content, held⟩ := readied.kept.mp rfl
    refine ⟨content, ?_⟩
    rw [Disk.place_congr readied.workingDirectory, readied.files]
    exact ⟨held, fun top removed under => base_apart top removed under.1⟩
  case fits =>
    obtain ⟨cleared, _, _, keeps, _⟩ := emptied_makeReady sound ordinary removable prepared
    have base := ordinary_base ordinary
    have there := (keeps.mp rfl).2
    rw [Disk.isFile] at there
    split at there
    next found => exact Disk.fits_of_find base.plain base.named found
    next => cases there

-- A base that is written lies at none of the places that are emptied where the base is kept.
theorem Vacated.writeBase (vacated : Vacated out .keep ready) (ordinary : Path.Ordinary out)
    (ran : (writePage library (basePage ⟨out⟩ setting)).run.run ready = (.ok (), start)) :
    Vacated out .keep start ∧ Based out start := by
  have base := ordinary_base ordinary
  obtain ⟨workingDirectory, changed⟩ := changed_writePage base ran
  have drawn := drawn_page base ran
  have same := Disk.place_congr workingDirectory out
  obtain ⟨text, _, found⟩ := drawn.found _ (List.mem_singleton_self _)
  have held := (Disk.entryAt_of_find base.plain base.named found).2
  have leads : Leads out (basePage ⟨out⟩ setting).path := leads_base ordinary.written ordinary.descends
  have left := keeps_writePage (upheld_grounded ordinary) library leads ready
  rw [ran] at left
  refine ⟨⟨left vacated.grounded, ?_, ?_⟩, ⟨text.toUTF8, ?_⟩, Disk.fits_of_find base.plain base.named found⟩
  · rw [same]
    exact drawn.directories _ vacated.root
  · intro spot empties
    rw [same] at empties
    rcases changed spot with kept | ⟨above, _⟩
    · exact kept.trans (vacated.vacant spot empties)
    · obtain ⟨_, top, removed, upper⟩ := empties
      have spelled : ready.place (basePage ⟨out⟩ setting).path = ready.place out ++ baseFile :=
        place_base ordinary ready
      exact absurd (upper.trans (spelled ▸ above)) (base_apart top removed)
  · rw [← place_base ordinary]
    exact held

variable (ordinary : Path.Ordinary out) (plain : ∀ c ∈ api.controllers, '/' ∉ c.name.toList)

include ordinary plain

theorem empties_page (mode : BaseMode) (leaves : mode ≠ .fresh) {page : Page}
    (member : page ∈ pages ⟨out⟩ setting api mode.rewritesBase) (disk : Disk) :
    mode.Empties (disk.place out) (disk.place page.path) := by
  obtain ⟨names, file, path⟩ := file_of_page member
  rw [path, Path.place_below ordinary (simple_of_file plain file)]
  have deeper : disk.place out ++ names ≠ disk.place out := by
    intro same
    rw [List.append_right_eq_self.mp same] at file
    simp [files, baseFile, modelFile, controllerFile] at file
  refine ⟨deeper, ?_⟩
  cases mode with
  | fresh => exact absurd rfl leaves
  | regenerate => exact ⟨disk.place out, List.mem_singleton_self _, List.prefix_append _ _⟩
  | keep =>
    rcases part_of_file file (disk.place out) with ⟨wanted, _⟩ | below | below
    · cases wanted
    · exact ⟨_, List.mem_cons_self, below.1⟩
    · exact ⟨_, List.mem_cons_of_mem _ (List.mem_singleton_self _), below.1⟩

-- The writing of a run is one to repeat, after its base has been written if that is written only this time.
theorem repeated_pages (grounded : before.Grounded) (distinct : (api.controllers.map (·.name)).Nodup)
    (leaves : mode ≠ .fresh) (prepared : ((Folder.mk out).makeReady mode).run.run before = (.ok withBase, ready))
    (wrote : ((pages ⟨out⟩ setting api withBase).forM (writePage library)).run.run ready = (.ok (), after)) :
    (mode.rewritesBase = true → withBase = true) ∧ ∃ start, Repeated library api setting out mode start after := by
  have drawn := drawn_client ordinary plain distinct wrote
  have removable := removable_drawn ordinary plain drawn
  have readied := readied_drawn ordinary plain grounded.sound prepared drawn
  have vacated := vacated_makeReady grounded ordinary removable readied prepared
  cases mode with
  | fresh => exact absurd rfl leaves
  | regenerate =>
    cases withBase with
    | false => cases (readied.kept.mp rfl).1
    | true => exact ⟨fun _ => rfl, ready, vacated, nofun, wrote⟩
  | keep =>
    cases withBase with
    | false =>
      have based := based_makeReady grounded.sound ordinary removable readied prepared
      exact ⟨nofun, ready, vacated, fun _ => based, wrote⟩
    | true =>
      obtain ⟨_, start, first, later⟩ := Action.bind_ok wrote
      obtain ⟨vacated, based⟩ := vacated.writeBase ordinary first
      exact ⟨fun _ => rfl, start, vacated, fun _ => based, later⟩

end First

section Second

-- Nothing is left at some places and below them, and all else is as it was.
structure Without (tops : List Place) (before after : Disk) : Prop where
  grounded : after.Grounded
  workingDirectory : after.workingDirectory = before.workingDirectory
  vacant : ∀ spot, (∃ top ∈ tops, top <+: spot) → after.entryAt spot = none
  away : ∀ spot, (∀ top ∈ tops, ¬ top <+: spot) → after.entryAt spot = before.entryAt spot

theorem Without.trans {middle : Disk} {first second : List Place} (one : Without first before middle)
    (two : Without second middle after) : Without (first ++ second) before after := by
  refine ⟨two.grounded, two.workingDirectory.trans one.workingDirectory, ?_, ?_⟩
  · rintro spot ⟨top, listed, below⟩
    by_cases later : ∃ top ∈ second, top <+: spot
    · exact two.vacant spot later
    · push Not at later
      have earlier := (List.mem_append.mp listed).resolve_right fun member => later top member below
      exact (two.away spot later).trans (one.vacant spot ⟨top, earlier, below⟩)
  · intro spot outside
    rw [List.forall_mem_append] at outside
    exact (two.away spot outside.2).trans (one.away spot outside.1)

theorem without_removeIfThere (grounded : disk.Grounded) (ordinary : Path.Ordinary path) (fits : Fits path)
    (noFile : ∀ content, disk.entryAt (disk.place path) ≠ some (.file content)) :
    ∃ left, (Folder.removeIfThere path).run.run disk = (.ok (), left) ∧ Without [disk.place path] disk left := by
  have looked : (Folder.removeIfThere path).run.run disk =
      (if disk.exists? path then Action.removeDirectory path else pure ()).run.run disk :=
    Action.run_bind_ok Action.run_get _
  cases held : disk.entryAt (disk.place path) with
  | none =>
    have missing : disk.exists? path = false := by
      rw [Disk.exists?]
      cases found : disk.find path with
      | error => rfl
      | ok there => cases held.symm.trans (Disk.entryAt_of_find ordinary.plain ordinary.named found).2
    rw [missing] at looked
    refine ⟨disk, looked, grounded, rfl, ?_, fun _ _ => rfl⟩
    intro spot below
    simp only [List.mem_singleton, exists_eq_left] at below
    cases there : disk.entryAt spot with
    | none => rfl
    | some entry =>
      by_cases here : disk.place path = spot
      · cases held.symm.trans (here ▸ there)
      · cases held.symm.trans (grounded.sound.above there below here)
  | some entry =>
    cases entry with
    | file content => exact absurd held (noFile content)
    | directory =>
      have deep := Disk.deep_place ordinary.plain ordinary.named disk
      rw [Disk.exists?_of_directory grounded.sound ordinary.plain ordinary.named fits held] at looked
      refine ⟨disk.prune (disk.place path), looked.trans (Action.run_attempt_ok ?_), ?_⟩
      · exact Disk.removeDirectory_of_directory grounded.sound ordinary.plain ordinary.named fits held
      · refine ⟨grounded.prune deep (away_ordinary ordinary disk), rfl, fun spot below => ?_, fun spot away => ?_⟩
        · simp only [List.mem_singleton, exists_eq_left] at below
          rw [Disk.entryAt_prune deep, if_pos below]
        · rw [List.forall_mem_singleton] at away
          rw [Disk.entryAt_prune deep, if_neg away]

theorem run_makeDirectories {wanted : Bool} (made : Disk.makeDirectories path disk = (.ok (), after)) :
    (do Action.makeDirectories path; pure wanted : Action Bool).run.run disk = (.ok wanted, after) :=
  Action.run_bind_ok (Action.run_attempt_ok made) _

-- What making ready leaves of a disk on which the output directory is there: all but the places of the mode.
structure Swept (out : Path) (mode : BaseMode) (before after : Disk) : Prop where
  workingDirectory : after.workingDirectory = before.workingDirectory
  vacant : ∀ spot, mode.Empties (before.place out) spot → after.entryAt spot = none
  spared : ∀ spot, ¬ mode.Empties (before.place out) spot → after.entryAt spot = before.entryAt spot

section Sweeping

variable (grounded : disk.Grounded) (ordinary : Path.Ordinary out) (removable : Removable ⟨out⟩)

include grounded ordinary removable

theorem without_parts (noFile : ∀ top ∈ BaseMode.keep.removes (disk.place out), ∀ content,
    disk.entryAt top ≠ some (.file content)) :
    ∃ middle left, (Folder.removeIfThere (Path.join out "api")).run.run disk = (.ok (), middle) ∧
      (Folder.removeIfThere (Path.join out "model")).run.run middle = (.ok (), left) ∧
      Without (BaseMode.keep.removes (disk.place out)) disk left := by
  have api : disk.place (Path.join out "api") = disk.place out ++ ["api"] :=
    place_part ordinary.written (by decide) disk
  obtain ⟨middle, apiGone, one⟩ := without_removeIfThere grounded (ordinary_part ordinary (by decide)) removable.api
    (api ▸ noFile _ List.mem_cons_self)
  have model : middle.place (Path.join out "model") = disk.place out ++ ["model"] := by
    rw [Disk.place_congr one.workingDirectory]
    exact place_part ordinary.written (by decide) disk
  have still : ∀ content, middle.entryAt (middle.place (Path.join out "model")) ≠ some (.file content) := by
    rw [model, one.away]
    · exact noFile _ (List.mem_cons_of_mem _ (List.mem_singleton_self _))
    · rw [api, List.forall_mem_singleton]
      exact fun below => absurd (part_unique below List.prefix_rfl) (by decide)
  obtain ⟨left, modelGone, two⟩ :=
    without_removeIfThere one.grounded (ordinary_part ordinary (by decide)) removable.model still
  have both := one.trans two
  rw [api, model] at both
  exact ⟨middle, left, apiGone, modelGone, both⟩

variable (root : disk.entryAt (disk.place out) = some .directory)

include root

theorem swept_regenerate :
    ∃ left, ((Folder.mk out).makeReady .regenerate).run.run disk = (.ok true, left) ∧
      Swept out .regenerate disk left := by
  have noFile : ∀ content, disk.entryAt (disk.place out) ≠ some (.file content) := by
    intro content held
    cases root.symm.trans held
  obtain ⟨cleared, gone, without⟩ := without_removeIfThere grounded ordinary removable.root noFile
  have deep := Disk.deep_place ordinary.plain ordinary.named disk
  have here : cleared.place out = disk.place out := Disk.place_congr without.workingDirectory out
  -- The directory above is no part of what was removed, so that the output directory can be made again.
  have parent : cleared.entryAt (cleared.place out).dropLast = some .directory := by
    rw [here, without.away, grounded.sound.parent deep root]
    rw [List.forall_mem_singleton]
    intro above
    have shorter := above.length_le
    have longer := List.length_pos_iff.mpr deep
    rw [List.length_dropLast] at shorter
    omega
  have missing : cleared.entryAt (cleared.place out) = none :=
    without.vacant _ ⟨_, List.mem_singleton_self _, here ▸ List.prefix_rfl⟩
  have made := Disk.makeDirectories_of_missing without.grounded.sound ordinary.plain ordinary.named removable.root
    parent missing
  rw [here] at made
  refine ⟨_, (Action.run_bind_ok gone _).trans (run_makeDirectories made), without.workingDirectory, ?_, ?_⟩
  · rintro spot empties
    rw [Disk.entryAt_put_ne empties.1]
    exact without.vacant spot ⟨_, List.mem_singleton_self _, empties.below⟩
  · intro spot outside
    by_cases top : spot = disk.place out
    · rw [top, Disk.entryAt_put_directory, root]
    · rw [Disk.entryAt_put_ne top, without.away]
      rw [List.forall_mem_singleton]
      exact fun below => outside (empties_regenerate.mpr ⟨top, below⟩)

-- The base and the output directory are kept, so that there is nothing to be made.
theorem swept_keep (noFile : ∀ top ∈ BaseMode.keep.removes (disk.place out), ∀ content,
    disk.entryAt top ≠ some (.file content)) (based : Based out disk) :
    ∃ left, ((Folder.mk out).makeReady .keep).run.run disk = (.ok false, left) ∧ Swept out .keep disk left := by
  obtain ⟨middle, left, apiGone, modelGone, without⟩ := without_parts grounded ordinary removable noFile
  have base := ordinary_base ordinary
  have swept : Swept out .keep disk left := by
    refine ⟨without.workingDirectory, fun spot empties => without.vacant spot empties.2, fun spot outside => ?_⟩
    exact without.away spot fun top removed below => outside (empties_of_removes removed below)
  have there : left.entryAt (left.place out) = some .directory := by
    rw [Disk.place_congr swept.workingDirectory, swept.spared _ (root_spared _ _), root]
  have isFile : left.isFile (Folder.mk out).basePath = true := by
    obtain ⟨content, held⟩ := based.isFile
    have noSlash : (Folder.mk out).basePath.endsInSlash = false := Path.endsInSlash_join (by decide) (by decide)
    rw [← swept.spared _ (base_spared _), ← place_base ordinary, ← Disk.place_congr swept.workingDirectory] at held
    exact Disk.isFile_of_file without.grounded.sound base.plain base.named based.fits noSlash held
  have made := Disk.makeDirectories_of_directory without.grounded.sound ordinary.plain ordinary.named removable.root
    there
  have looked : (get : Action Disk).run.run left = (.ok left, left) := Action.run_get
  refine ⟨left, (Action.run_bind_ok apiGone _).trans ?_, swept⟩
  refine (Action.run_bind_ok modelGone _).trans ((Action.run_bind_ok looked _).trans ?_)
  rw [isFile]
  exact run_makeDirectories made

end Sweeping

theorem length_of_file {names : List String} (listed : names ∈ files api withBase) : names.length = 2 := by
  rw [files, List.mem_append, List.mem_cons, List.mem_map] at listed
  rcases listed with wanted | rfl | ⟨c, _, rfl⟩
  · split at wanted
    next => rw [List.mem_singleton.mp wanted]; rfl
    next => cases wanted
  · rfl
  · rfl

namespace Repeated

variable (repeated : Repeated library api setting out mode start after) (ordinary : Path.Ordinary out)
  (plain : ∀ c ∈ api.controllers, '/' ∉ c.name.toList)

include repeated ordinary plain

theorem unchanged (leaves : mode ≠ .fresh) :
    ∀ spot, ¬ mode.Empties (start.place out) spot → after.entryAt spot = start.entryAt spot := by
  refine unchanged_pages (fun page member => ordinary_page ordinary plain member)
    (fun page member => empties_page ordinary plain mode leaves member start) (fun front above => ?_) repeated.wrote
  by_cases here : front = start.place out
  · rw [here]
    exact repeated.vacated.root
  · exact repeated.vacated.grounded.sound.above repeated.vacated.root above here

variable (drawn : Drawn library (pages ⟨out⟩ setting api mode.rewritesBase) start after)

include drawn

theorem noFile (top : Place) (removed : top ∈ mode.removes (after.place out)) (content : ByteArray) :
    after.entryAt top ≠ some (.file content) := by
  rw [Disk.place_congr drawn.workingDirectory] at removed
  rw [Ne, drawn.others]
  · intro there
    by_cases here : top = start.place out
    · rw [here, repeated.vacated.root] at there
      cases there
    · rw [repeated.vacated.vacant top ⟨here, top, removed, List.prefix_rfl⟩] at there
      cases there
  · rintro page member rfl
    obtain ⟨names, file, path⟩ := file_of_page member
    have short := length_of_removes removed
    rw [path, Path.place_below ordinary (simple_of_file plain file), List.length_append, length_of_file file] at short
    omega

theorem makeReady_again (grounded : after.Grounded) (leaves : mode ≠ .fresh) :
    ∃ left, ((Folder.mk out).makeReady mode).run.run after = (.ok mode.rewritesBase, left) ∧ Congruent start left := by
  have removable := removable_drawn ordinary plain drawn
  have same := Disk.place_congr drawn.workingDirectory out
  have root : after.entryAt (after.place out) = some .directory :=
    same ▸ drawn.directories _ repeated.vacated.root
  have unchanged := repeated.unchanged ordinary plain leaves
  have congruent : ∀ {left}, Swept out mode after left → Congruent start left := by
    intro left swept
    refine ⟨swept.workingDirectory.trans drawn.workingDirectory, fun spot => ?_⟩
    by_cases empties : mode.Empties (start.place out) spot
    · rw [repeated.vacated.vacant spot empties]
      exact swept.vacant spot (same ▸ empties)
    · rw [← unchanged spot empties]
      exact swept.spared spot (same ▸ empties)
  cases mode with
  | fresh => exact absurd rfl leaves
  | regenerate =>
    obtain ⟨left, ran, swept⟩ := swept_regenerate grounded ordinary removable root
    exact ⟨left, ran, congruent swept⟩
  | keep =>
    have noFile := repeated.noFile ordinary plain drawn
    obtain ⟨content, held⟩ := (repeated.based rfl).isFile
    have based : Based out after := by
      refine ⟨⟨content, ?_⟩, (repeated.based rfl).fits⟩
      rw [same, unchanged _ (base_spared _)]
      exact held
    obtain ⟨left, ran, swept⟩ := swept_keep grounded ordinary removable root noFile based
    exact ⟨left, ran, congruent swept⟩

end Repeated

theorem writeClient_congr {other : Template.Library}
    (same : ∀ page ∈ pages ⟨out⟩ setting api true,
      other.render page.template page.context = library.render page.template page.context) :
    writeClient other api setting out mode = writeClient library api setting out mode := by
  have among : ∀ withBase, ∀ page ∈ pages ⟨out⟩ setting api withBase, page ∈ pages ⟨out⟩ setting api true := by
    rintro (_ | _) page member
    · exact List.mem_cons_of_mem _ member
    · exact member
  have each : ∀ withBase,
      (pages ⟨out⟩ setting api withBase).forM (writePage other) =
        (pages ⟨out⟩ setting api withBase).forM (writePage library) := by
    intro withBase
    refine Action.forM_congr fun page member => ?_
    rw [writePage, writePage, Template.Library.renderTo, Template.Library.renderTo,
      same page (among withBase page member)]
  simp only [writeClient, each]

section Client

variable (plain : ∀ c ∈ api.controllers, '/' ∉ c.name.toList)

include plain

theorem path_ne_base {page : Page} (member : page ∈ pages ⟨out⟩ setting api false) :
    page.path ≠ (Folder.mk out).basePath := by
  obtain ⟨names, file, path⟩ := file_of_page member
  intro same
  have spelled := congrArg Path.names same
  rw [path, basePath_below, Path.names_below (simple_of_file plain file), Path.names_below (by decide)] at spelled
  rw [List.append_cancel_left spelled] at file
  simp [files, baseFile, modelFile, controllerFile] at file

theorem receipt_again (wanted : mode.rewritesBase = true → withBase = true) :
    Receipt.again mode out { files := (pages ⟨out⟩ setting api withBase).map (·.path), baseWritten := withBase } =
      { files := (pages ⟨out⟩ setting api mode.rewritesBase).map (·.path), baseWritten := mode.rewritesBase } := by
  cases rewrites : mode.rewritesBase with
  | true =>
    rw [Receipt.again, rewrites, wanted rewrites]
    rfl
  | false =>
    rw [Receipt.again, rewrites, if_neg Bool.false_ne_true]
    have others : ((pages ⟨out⟩ setting api false).map (·.path)).filter (· != (Folder.mk out).basePath) =
        (pages ⟨out⟩ setting api false).map (·.path) := by
      rw [List.filter_eq_self, List.forall_mem_map]
      exact fun page member => bne_iff_ne.mpr (path_ne_base plain member)
    cases withBase with
    | false => exact congrArg (Receipt.mk · false) others
    | true =>
      have base : ((pages ⟨out⟩ setting api true).map (·.path)).filter (· != (Folder.mk out).basePath) =
          ((pages ⟨out⟩ setting api false).map (·.path)).filter (· != (Folder.mk out).basePath) :=
        List.filter_cons_of_neg (by simp [basePage])
      exact congrArg (Receipt.mk · false) (base.trans others)

theorem writeClient_again {receipt : Receipt} (grounded : before.Grounded) (ordinary : Path.Ordinary out)
    (distinct : (api.controllers.map (·.name)).Nodup) (leaves : mode ≠ .fresh)
    (ran : (writeClient library api setting out mode).run.run before = (.ok receipt, after)) :
    ∃ final, (writeClient library api setting out mode).run.run after = (.ok (receipt.again mode out), final) ∧
      Congruent after final := by
  have left := keeps_writeClient ⟨out⟩ ordinary.written ordinary.descends (upheld_grounded ordinary)
    (fun c member => confined_of_free (plain c member)) library setting mode before
  rw [ran] at left
  obtain ⟨withBase, ready, prepared, rest⟩ := Action.bind_ok ran
  obtain ⟨_, _, wrote, finished⟩ := Action.bind_ok rest
  obtain ⟨rfl, rfl⟩ := Action.pure_ok finished
  obtain ⟨wanted, start, again⟩ := repeated_pages ordinary plain grounded distinct leaves prepared wrote
  have drawn := drawn_client ordinary plain distinct again.wrote
  obtain ⟨left, remade, congruent⟩ := again.makeReady_again ordinary plain drawn (left grounded) leaves
  have each : Action.Respects ((pages ⟨out⟩ setting api mode.rewritesBase).forM (writePage library)) :=
    Action.respects_forM (respects_writePage library)
  have rewritten := each congruent
  rw [again.wrote] at rewritten
  generalize ran : ((pages ⟨out⟩ setting api mode.rewritesBase).forM (writePage library)).run.run left = outcome
    at rewritten
  cases rewritten with
  | both _ same =>
    refine ⟨_, (Action.run_bind_ok remade _).trans ((Action.run_bind_ok ran _).trans ?_), same⟩
    rw [receipt_again plain wanted]
    rfl

end Client

end Second

end ClientGen.Output
