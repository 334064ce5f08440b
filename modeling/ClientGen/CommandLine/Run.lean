import ClientGen.Client
import ClientGen.CommandLine.Arguments
import ClientGen.CommandLine.Record
import ClientGen.Config.File

namespace ClientGen.CommandLine

open Output

structure Outcome where
  code : Nat
  log : List Record
  failure : Option String
  deriving DecidableEq, Repr, Inhabited

inductive EntryFault where
  | invalid (failure : Failure)
  -- A base is there, no option tells what to do with it, and neither does an answer.
  | unanswered (causes : List String)
  | notGenerated (url : String) (failure : Failure)
  deriving DecidableEq, Repr, Inhabited

def EntryFault.chain : EntryFault → List String
  | .invalid failure => "Invalid configuration" :: failure.chain
  | .unanswered causes => "Failed to read answer" :: causes
  | .notGenerated url failure => ("Failed to generate from " ++ url) :: failure.chain

def question (folder : Folder) : String :=
  folder.root ++ " already has a base directory. Regenerate it?"

-- What happens to an existing base. The options win over the answer.
def baseMode (hasBase yes keepBase : Bool) (answer : Except (List String) Bool) :
    Except (List String) BaseMode :=
  if !hasBase then .ok .fresh
  else if yes then .ok .regenerate
  else if keepBase then .ok .keep
  else answer.map fun regenerate => if regenerate then .regenerate else .keep

-- An entry, and what it meets in its turn.
structure Turn where
  config : Config
  around : Surroundings

namespace Turn

def folder (turn : Turn) : Folder := ⟨turn.config.outPath⟩

def mode (yes keepBase : Bool) (turn : Turn) (disk : Disk) : Except (List String) BaseMode :=
  baseMode (turn.folder.hasBase disk) yes keepBase (turn.around.ask (question turn.folder))

def run (yes keepBase : Bool) (turn : Turn) (disk : Disk) : Except EntryFault Generated × Disk :=
  match turn.config.check with
  | .error failure => (.error (.invalid failure), disk)
  | .ok () =>
    match turn.mode yes keepBase disk with
    | .error causes => (.error (.unanswered causes), disk)
    | .ok mode =>
      let (result, disk) := (generateClient .standard mode turn.config turn.around).run.run disk
      (result.mapError (.notGenerated turn.config.swaggerUrl), disk)

end Turn

def record (position : Nat) (config : Config) : Except EntryFault Generated → Record
  | .ok g =>
    .ofMessage .info ("Generated " ++ toString g.controllers ++ " controllers, " ++
      toString g.models ++ " models and " ++ toString g.enums ++ " enums into " ++ g.directory)
  | .error fault =>
    .ofMessage .error ("Entry " ++ toString position ++ " (" ++ config.swaggerUrl ++ ") failed: " ++
      ": ".intercalate fault.chain)

-- Entries are run one after the other, whatever happens to the earlier ones; each leaves one record.
def runTurns (yes keepBase : Bool) (position : Nat) : List Turn → Disk → List Record × Disk
  | [], disk => ([], disk)
  | turn :: rest, disk =>
    let (result, disk) := turn.run yes keepBase disk
    let (records, disk) := runTurns yes keepBase (position + 1) rest disk
    (record position turn.config result :: records, disk)

def runBatch (yes keepBase : Bool) (turns : List Turn) (disk : Disk) : Outcome × Disk :=
  if turns.isEmpty then
    ({ code := 1, log := [], failure := some "No configuration entries to generate" }, disk)
  else
    let (log, disk) := runTurns yes keepBase 1 turns disk
    let failed := log.countP fun r => r.level = .error
    if failed = 0 then ({ code := 0, log, failure := none }, disk)
    else
      let message := toString failed ++ " of " ++ toString turns.length ++ " entries failed"
      ({ code := 1, log, failure := some message }, disk)

def Options.entries (options : Options) (disk : Disk) : Except Failure (List Config) :=
  match options.value? "config" with
  | none => .ok [options.entry]
  | some path => (Batch.ofFile disk path).map (·.configs)

-- The surroundings are those of the entries by their places in the batch, from 0 on.
def runOptions (options : Options) (disk : Disk) (around : Nat → Surroundings) : Outcome × Disk :=
  match options.entries disk with
  | .ok configs =>
    let turns := configs.mapIdx fun i config => { config, around := around i }
    runBatch (options.has "yes") (options.has "keep-base") turns disk
  | .error _ =>
    let path := (options.value? "config").getD ""
    ({ code := 1, log := [], failure := some ("Failed to load config file " ++ path) }, disk)

def run (arguments : List String) (disk : Disk) (around : Nat → Surroundings := fun _ => .alone) :
    Outcome × Disk :=
  match request? arguments with
  | none => ({ code := 2, log := [], failure := none }, disk)
  | some .information => ({ code := 0, log := [], failure := none }, disk)
  | some (.generate options) => runOptions options disk around

end ClientGen.CommandLine
