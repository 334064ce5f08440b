import ClientGen.Output.Pages
import ClientGen.Proofs.Action
import ClientGen.Proofs.Disk.Frame

namespace ClientGen

namespace Disk

structure Congruent (one other : Disk) : Prop where
  workingDirectory : other.workingDirectory = one.workingDirectory
  entryAt : ∀ spot, other.entryAt spot = one.entryAt spot

-- Two outcomes of an operation that keeps the disk where it fails.
inductive Agree : Except DiskFault Disk → Except DiskFault Disk → Prop where
  | failed (fault : DiskFault) : Agree (.error fault) (.error fault)
  | done {one other : Disk} (congruent : Congruent one other) : Agree (.ok one) (.ok other)

-- Two outcomes of a computation, with the disks that it leaves.
inductive Matches {ε α : Type} : Except ε α × Disk → Except ε α × Disk → Prop where
  | both {one other : Disk} (result : Except ε α) (left : Congruent one other) : Matches (result, one) (result, other)

namespace Congruent

variable {one other : Disk} {path : Path}

theorem put (congruent : Congruent one other) (spot : Place) (entry : Entry) :
    Congruent (one.put spot entry) (other.put spot entry) := by
  refine ⟨congruent.workingDirectory, fun place => ?_⟩
  rw [entryAt_put, entryAt_put, congruent.entryAt]

theorem walk (congruent : Congruent one other) (here : Place) (names : List String) :
    other.walk here names = one.walk here names := by
  induction names generalizing here with
  | nil => rfl
  | cons name rest ih => simp only [Disk.walk, congruent.entryAt, ih]

theorem target (congruent : Congruent one other) (path : Path) : other.target path = one.target path := by
  simp only [Disk.target, congruent.walk, start_congr congruent.workingDirectory]

theorem find (congruent : Congruent one other) (path : Path) : other.find path = one.find path := by
  simp only [Disk.find, congruent.target, congruent.entryAt]

theorem write (congruent : Congruent one other) (path : Path) (content : ByteArray) :
    Agree (one.write path content) (other.write path content) := by
  simp only [Disk.write, congruent.target, congruent.entryAt, bind, Except.bind]
  split
  next => exact .failed _
  next =>
    split
    next =>
      split
      next => exact .failed _
      next =>
        split
        next => exact .failed _
        next => exact .done (congruent.put _ _)
    next => exact .failed _

theorem makeDirectory (congruent : Congruent one other) (path : Path) :
    Agree (one.makeDirectory path) (other.makeDirectory path) := by
  simp only [Disk.makeDirectory, congruent.target, congruent.entryAt, bind, Except.bind]
  split
  next => exact .failed _
  next =>
    split
    next =>
      split
      next => exact .failed _
      next => exact .done (congruent.put _ _)
    next => exact .failed _

end Congruent

section Directories

variable {one other : Disk} {path : Path} {parents : Disk → Except DiskFault Unit × Disk}

theorem Congruent.settle (congruent : Congruent one other) (path : Path) (fault : DiskFault) :
    Matches (if one.isDirectory path then (.ok (), one) else (.error fault, one))
      (if other.isDirectory path then (.ok (), other) else (.error fault, other)) := by
  have same : other.isDirectory path = one.isDirectory path := by rw [isDirectory, isDirectory, congruent.find]
  rw [same]
  split <;> exact .both _ congruent

theorem Congruent.retry (congruent : Congruent one other) (path : Path) :
    Matches
      (match one.makeDirectory path with
        | .ok disk => (.ok (), disk)
        | .error fault => if one.isDirectory path then (.ok (), one) else (.error fault, one))
      (match other.makeDirectory path with
        | .ok disk => (.ok (), disk)
        | .error fault => if other.isDirectory path then (.ok (), other) else (.error fault, other)) := by
  have tried := congruent.makeDirectory path
  generalize one.makeDirectory path = made at tried
  generalize other.makeDirectory path = remade at tried
  cases tried with
  | done left => exact .both _ left
  | failed fault => exact congruent.settle path fault

theorem Congruent.makeAfter (upper : ∀ {one other}, Congruent one other → Matches (parents one) (parents other))
    (congruent : Congruent one other) : Matches (makeAfter parents path one) (makeAfter parents path other) := by
  have first := congruent.makeDirectory path
  simp only [Disk.makeAfter]
  generalize one.makeDirectory path = made at first
  generalize other.makeDirectory path = remade at first
  cases first with
  | done made => exact .both _ made
  | failed fault =>
    cases fault with
    | noSuchEntry =>
      have above := upper congruent
      simp only
      generalize parents one = before at above
      generalize parents other = after at above
      cases above with
      | both result left =>
        cases result with
        | error fault => exact .both _ left
        | ok => exact left.retry path
    | _ => exact congruent.settle path _

theorem Congruent.makeSteps (congruent : Congruent one other) (absolute : Bool) (steps : List String) :
    Matches (makeSteps absolute steps one) (makeSteps absolute steps other) := by
  induction steps generalizing one other with
  | nil => exact .both _ congruent
  | cons step before ih => exact congruent.makeAfter fun between => ih between

theorem Congruent.makeDirectories (congruent : Congruent one other) (path : Path) :
    Matches (makeDirectories path one) (makeDirectories path other) := by
  simp only [Disk.makeDirectories]
  split
  next => exact .both _ congruent
  next => exact congruent.makeAfter fun between => between.makeSteps _ _

end Directories

end Disk

namespace Action

open Disk (Congruent Agree Matches)

variable {α β : Type}

-- A computation that does the same on disks that hold the same.
def Respects (action : Action α) : Prop :=
  ∀ {one other : Disk}, Congruent one other → Matches (action.run.run one) (action.run.run other)

theorem respects_ofExcept (result : Except Failure α) : Respects (ofExcept result) := by
  intro one other congruent
  rw [run_ofExcept, run_ofExcept]
  exact .both _ congruent

theorem respects_bind {action : Action α} {next : α → Action β} (first : Respects action)
    (later : ∀ a, Respects (next a)) : Respects (action >>= next) := by
  intro one other congruent
  have ran := first congruent
  rw [run_bind, run_bind]
  generalize action.run.run one = before at ran
  generalize action.run.run other = after at ran
  cases ran with
  | both result left =>
    cases result with
    | ok a => exact later a left
    | error failure => exact .both _ left

theorem respects_change {step : Disk → Except DiskFault Disk}
    (each : ∀ {one other}, Congruent one other → Agree (step one) (step other)) : Respects (change step) := by
  intro one other congruent
  have stepped := each congruent
  rw [run_change, run_change]
  generalize step one = before at stepped
  generalize step other = after at stepped
  cases stepped with
  | done left => exact .both _ left
  | failed fault => exact .both _ congruent

theorem respects_attempt {step : Disk → Except DiskFault Unit × Disk}
    (each : ∀ {one other}, Congruent one other → Matches (step one) (step other)) : Respects (attempt step) := by
  intro one other congruent
  have stepped := each congruent
  rw [run_attempt, run_attempt]
  generalize step one = before at stepped
  generalize step other = after at stepped
  cases stepped with
  | both result left => exact .both _ left

theorem respects_forM {items : List α} {action : α → Action PUnit} (each : ∀ a, Respects (action a)) :
    Respects (items.forM action) := by
  induction items with
  | nil => exact fun congruent => .both _ congruent
  | cons a rest ih => exact respects_bind (each a) fun _ => ih

theorem respects_writeBelow (path : Path) (content : ByteArray) : Respects (writeBelow path content) := by
  unfold writeBelow
  split
  next parent _ =>
    refine respects_bind (respects_attempt fun congruent => congruent.makeDirectories parent) fun _ => ?_
    exact respects_change fun congruent => congruent.write path content
  next => exact respects_change fun congruent => congruent.write path content

end Action

theorem Output.respects_writePage (library : Template.Library) (page : Page) :
    Action.Respects (writePage library page) :=
  Action.respects_bind (Action.respects_ofExcept _) fun text => Action.respects_writeBelow page.path text.toUTF8

end ClientGen
