import ClientGen.Action

namespace ClientGen.Action

variable {α β : Type} {disk : Disk}

theorem run_bind (action : Action α) (next : α → Action β) :
    (action >>= next).run.run disk =
      match action.run.run disk with
      | (.ok a, after) => (next a).run.run after
      | (.error failure, after) => (.error failure, after) := by
  simp only [ExceptT.run_bind, StateT.run_bind]
  cases action.run.run disk with
  | mk result after => cases result <;> rfl

theorem run_get : (get : Action Disk).run.run disk = (.ok disk, disk) := rfl

theorem run_set (after : Disk) : (set after : Action PUnit).run.run disk = (.ok (), after) := rfl

theorem run_ofExcept (result : Except Failure α) : (ofExcept result).run.run disk = (result, disk) := by
  cases result <;> rfl

theorem run_ask (look : Disk → Except DiskFault α) :
    (ask look).run.run disk = ((look disk).mapError .disk, disk) := by
  rw [ask, run_bind, run_get]
  exact run_ofExcept _

theorem run_change (step : Disk → Except DiskFault Disk) : (change step).run.run disk =
    match step disk with
    | .ok after => (.ok (), after)
    | .error fault => (.error (.disk fault), disk) := by
  rw [change, run_bind, run_ask]
  cases step disk <;> rfl

theorem run_attempt (step : Disk → Except DiskFault Unit × Disk) :
    (attempt step).run.run disk = ((step disk).1.mapError .disk, (step disk).2) := by
  rw [attempt, run_bind, run_get]
  simp only [run_bind, run_set, run_ofExcept]

theorem forM_congr {items : List α} {first second : α → Action PUnit} (same : ∀ a ∈ items, first a = second a) :
    items.forM first = items.forM second := by
  induction items with
  | nil => rfl
  | cons a rest ih =>
    rw [List.forall_mem_cons] at same
    rw [List.forM, List.forM, same.1, ih same.2]

section Successes

variable {a : α} {b : β} {after : Disk}

theorem bind_ok {action : Action α} {next : α → Action β}
    (ran : (action >>= next).run.run disk = (.ok b, after)) :
    ∃ a middle, action.run.run disk = (.ok a, middle) ∧ (next a).run.run middle = (.ok b, after) := by
  rw [run_bind] at ran
  split at ran
  next a middle first => exact ⟨a, middle, first, ran⟩
  next => cases ran

theorem run_bind_ok {action : Action α} {middle : Disk} (first : action.run.run disk = (.ok a, middle))
    (next : α → Action β) : (action >>= next).run.run disk = (next a).run.run middle := by
  rw [run_bind, first]

theorem pure_ok {other : α} (ran : (pure a : Action α).run.run disk = (.ok other, after)) :
    other = a ∧ after = disk := by
  cases ran
  exact ⟨rfl, rfl⟩

theorem ofExcept_ok {result : Except Failure α} (ran : (ofExcept result).run.run disk = (.ok a, after)) :
    result = .ok a ∧ after = disk := by
  rw [run_ofExcept] at ran
  cases ran
  exact ⟨rfl, rfl⟩

theorem change_ok {step : Disk → Except DiskFault Disk} (ran : (change step).run.run disk = (.ok (), after)) :
    step disk = .ok after := by
  rw [run_change] at ran
  split at ran
  next stepped =>
    cases ran
    exact stepped
  next => cases ran

theorem attempt_ok {step : Disk → Except DiskFault Unit × Disk}
    (ran : (attempt step).run.run disk = (.ok (), after)) : step disk = (.ok (), after) := by
  rw [run_attempt] at ran
  cases stepped : step disk with
  | mk result left =>
    rw [stepped] at ran
    cases result with
    | ok =>
      cases ran
      rfl
    | error fault => cases ran

theorem run_attempt_ok {step : Disk → Except DiskFault Unit × Disk} (stepped : step disk = (.ok (), after)) :
    (attempt step).run.run disk = (.ok (), after) := by
  rw [run_attempt, stepped]
  rfl

end Successes

-- A relation between disks that one part of a computation can hand on to the next.
structure Transmits (related : Disk → Disk → Prop) : Prop where
  refl : ∀ disk, related disk disk
  trans : ∀ {before middle after}, related before middle → related middle after → related before after

-- From every disk the computation leads only to disks that are related to it.
def Keeps (related : Disk → Disk → Prop) (action : Action α) : Prop :=
  ∀ disk, related disk (action.run.run disk).2

section Rules

variable {related : Disk → Disk → Prop} (transmits : Transmits related)

include transmits

theorem keeps_pure (a : α) : Keeps related (pure a : Action α) := transmits.refl

theorem keeps_get : Keeps related (get : Action Disk) := transmits.refl

theorem keeps_ofExcept (result : Except Failure α) : Keeps related (ofExcept result) := by
  intro disk
  rw [run_ofExcept]
  exact transmits.refl disk

theorem keeps_bind {action : Action α} {next : α → Action β} (first : Keeps related action)
    (later : ∀ a, Keeps related (next a)) : Keeps related (action >>= next) := by
  intro disk
  have start := first disk
  rw [run_bind]
  split
  next a middle ran =>
    rw [ran] at start
    exact transmits.trans start (later a middle)
  next ran => rwa [ran] at start

theorem keeps_change {step : Disk → Except DiskFault Disk}
    (each : ∀ disk after, step disk = .ok after → related disk after) : Keeps related (change step) := by
  intro disk
  rw [run_change]
  split
  next after stepped => exact each disk after stepped
  next => exact transmits.refl disk

theorem keeps_forM {items : List α} {action : α → Action PUnit}
    (each : ∀ a ∈ items, Keeps related (action a)) : Keeps related (items.forM action) := by
  induction items with
  | nil => exact keeps_pure transmits _
  | cons a rest ih =>
    rw [List.forall_mem_cons] at each
    exact keeps_bind transmits each.1 fun _ => ih each.2

end Rules

theorem keeps_attempt {related : Disk → Disk → Prop} {step : Disk → Except DiskFault Unit × Disk}
    (each : ∀ disk, related disk (step disk).2) : Keeps related (attempt step) := by
  intro disk
  rw [run_attempt]
  exact each disk

-- Nothing but the disk makes the computation fail.
def FailsOnDisk (action : Action α) : Prop :=
  ∀ disk failure, (action.run.run disk).1 = .error failure → ∃ fault, failure = .disk fault

section Failures

theorem failsOnDisk_ok {action : Action α} (succeeds : ∀ disk, ∃ a, (action.run.run disk).1 = .ok a) :
    FailsOnDisk action := by
  intro disk failure failed
  obtain ⟨a, succeeded⟩ := succeeds disk
  rw [succeeded] at failed
  cases failed

theorem failsOnDisk_pure (a : α) : FailsOnDisk (pure a : Action α) := failsOnDisk_ok fun _ => ⟨a, rfl⟩

theorem failsOnDisk_bind {action : Action α} {next : α → Action β} (first : FailsOnDisk action)
    (later : ∀ a, FailsOnDisk (next a)) : FailsOnDisk (action >>= next) := by
  intro disk failure failed
  rw [run_bind] at failed
  split at failed
  next a middle ran => exact later a middle failure failed
  next ran =>
    cases failed
    exact first disk failure (congrArg Prod.fst ran)

theorem failsOnDisk_change (step : Disk → Except DiskFault Disk) : FailsOnDisk (change step) := by
  intro disk failure failed
  rw [run_change] at failed
  split at failed
  next => cases failed
  next fault _ =>
    cases failed
    exact ⟨fault, rfl⟩

theorem failsOnDisk_attempt (step : Disk → Except DiskFault Unit × Disk) : FailsOnDisk (attempt step) := by
  intro disk failure failed
  rw [run_attempt] at failed
  cases stepped : (step disk).1 with
  | ok =>
    rw [stepped] at failed
    cases failed
  | error fault =>
    rw [stepped] at failed
    cases failed
    exact ⟨fault, rfl⟩

theorem failsOnDisk_forM {items : List α} {action : α → Action PUnit}
    (each : ∀ a ∈ items, FailsOnDisk (action a)) : FailsOnDisk (items.forM action) := by
  induction items with
  | nil => exact failsOnDisk_pure _
  | cons a rest ih =>
    rw [List.forall_mem_cons] at each
    exact failsOnDisk_bind each.1 fun _ => ih each.2

end Failures

end ClientGen.Action
