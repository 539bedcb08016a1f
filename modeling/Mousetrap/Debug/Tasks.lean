import Mathlib.Data.List.Forall2
import Mousetrap.Machine.Binary32
import Mousetrap.Machine.CString

/-!
# The task stack monitor

`debug_tasks.h` keeps a table of up to `MAX_TRACKED_TASKS` FreeRTOS tasks in
`g_task_stats`, the first `g_task_count` slots in use, behind `g_task_mutex`.
`debugTasksRegister` fills the next slot; `debugTasksMonitor` reads each registered task's
stack high-water mark and state and updates its usage, its peak and its warning flag;
`debugTasksGetStats` and `debugTasksIsAlive` look a task up by name.  The RTOS answers
(`uxTaskGetStackHighWaterMark`, `eTaskGetState`, `uxTaskPriorityGet`, `millis()`) are
arguments, the usage is the `float` the code computes, NaN and `+∞` included, and a name is
the bytes of its C string.

What the table stands for is the list of registrations made since the last
`debugTasksInit`, each with the readings the monitor took for it.  Every call keeps the
table on that list: it holds the first ten registrations with their names cut to fifteen
bytes, every slot past the count is zero, a task's figures are those of its last reading,
and its peak is the integer part of the largest finite usage computed for it.  Storing a
usage above the peak converts it to `uint32_t`, which C leaves undefined for `+∞` (an empty
stack with a non-zero high-water mark) and for `2 ^ 32` and more (a high-water mark past a
stack under 100 bytes): such a monitor call has no outcome, and the model says exactly
when it happens.  The lookups are `List.find?` on the registrations by the cut name, so a
task registered under a longer name is never found by it.
-/

namespace Mousetrap.Debug

open Mousetrap.Machine

/-- `MAX_TRACKED_TASKS`. -/
def maxTrackedTasks : Nat := 10

/-- `TASK_USAGE_WARNING_THRESHOLD`. -/
def taskUsageWarningThreshold : ℚ := 80

/-- `TASK_USAGE_CRITICAL_THRESHOLD`. -/
def taskUsageCriticalThreshold : ℚ := 95

/-- The size of `TaskStats.name`. -/
def taskNameLen : Nat := 16

/-- `eTaskState`, in the order of its values: `eRunning` is `0`. -/
inductive TaskState where
  | running
  | ready
  | blocked
  | suspended
  | deleted
  | invalid
  deriving DecidableEq, Repr

/-- `TaskStats`, its name as `strncpy` leaves it. -/
structure TaskStats where
  handle : BitVec 32
  name : CString
  stackSize : BitVec 32
  stackHighWaterMark : BitVec 32
  usagePercentage : Binary32
  peakUsagePercentage : BitVec 32
  overflowWarning : Bool
  lastCheckMs : BitVec 32
  priority : BitVec 32
  state : TaskState
  deriving DecidableEq, Repr

/-- A zeroed `TaskStats`: its `state` `0` is `eRunning`. -/
def TaskStats.zero : TaskStats :=
  ⟨0, CString.empty, 0, 0, Binary32.zero, 0, false, 0, 0, .running⟩

/-- `g_task_stats[MAX_TRACKED_TASKS]`, `g_task_count`, and whether `g_task_mutex` is set.
`debugTasksRegister` refuses a task once the table is full, so the `uint8_t` count never
passes `MAX_TRACKED_TASKS`. -/
structure TaskTable where
  stats : List TaskStats
  count : Nat
  mutex : Bool
  length_stats : stats.length = maxTrackedTasks
  count_le : count ≤ maxTrackedTasks
  deriving DecidableEq

/-- The globals as the sketch defines them (`{0}`, `0`, `NULL`), before `debugTasksInit`. -/
def TaskTable.boot : TaskTable where
  stats := List.replicate maxTrackedTasks TaskStats.zero
  count := 0
  mutex := false
  length_stats := List.length_replicate _ _
  count_le := Nat.zero_le _

/-- `debugTasksInit()`, `xSemaphoreCreateMutex` answering `created`. -/
def debugTasksInit (created : Bool) : TaskTable :=
  { TaskTable.boot with mutex := created }

/-- Lines 131–136: `(100.0f * used_bytes) / stack_size` in `float`, with the `uint32_t`
`used_bytes = stack_size - hwm_words * 4`.  The product stays below `2 ^ 39`, far from
overflow; on an empty stack the quotient is NaN or `+∞`. -/
def stackUsage (stackSize hwmWords : BitVec 32) : Binary32 :=
  Binary32.divide (round32 (100 * round32 (stackSize - hwmWords * 4).toNat))
    (round32 stackSize.toNat)

/-- Lines 138–140: `if (usage > peak) peak = usage;`, the `uint32_t` peak converted to
`float` for the comparison and the usage back to `uint32_t` for the store, which C leaves
undefined (`none`) when the usage does not fit. -/
def peakAfter (peak : BitVec 32) (usage : Binary32) : Option (BitVec 32) :=
  if usage.above (round32 peak.toNat) then usage.toUInt32 else some peak

/-- What the monitor reads for a task: `uxTaskGetStackHighWaterMark`, `eTaskGetState` and
`millis()`. -/
structure TaskReading where
  hwmWords : BitVec 32
  state : TaskState
  nowMs : BitVec 32
  deriving DecidableEq, Repr

namespace TaskStats

/-- Lines 82–87: the slot written for a registered task; the rest of it stays. -/
def register (task : TaskStats) (handle : BitVec 32) (name : CString)
    (stackSize priority : BitVec 32) : TaskStats :=
  { task with
    handle
    name := name.cut (taskNameLen - 1)
    stackSize
    overflowWarning := false
    priority }

/-- One pass of the loop of lines 126–165: the task after the reading, and whether it
stayed below the warning threshold; `none` when the peak update is undefined.  The warning
branch sets the flag only when it is clear, so after either branch that warns the flag is
set. -/
def monitor (task : TaskStats) (reading : TaskReading) : Option (TaskStats × Bool) := do
  let usagePercentage := stackUsage task.stackSize reading.hwmWords
  let peakUsagePercentage ← peakAfter task.peakUsagePercentage usagePercentage
  let task := { task with
    stackHighWaterMark := reading.hwmWords * 4
    usagePercentage
    peakUsagePercentage
    state := reading.state
    lastCheckMs := reading.nowMs }
  if usagePercentage.atLeast taskUsageCriticalThreshold then
    some ({ task with overflowWarning := true }, false)
  else if usagePercentage.atLeast taskUsageWarningThreshold then
    some ({ task with overflowWarning := true }, false)
  else some ({ task with overflowWarning := false }, true)

end TaskStats

/-- The loop of lines 126–165 from slot `i` on, slot `k` read as `read k`: every slot
updated with whether it stayed below the warning threshold, or `none` once an update is
undefined. -/
def monitorSlots (read : Nat → TaskReading) : Nat → List TaskStats →
    Option (List (TaskStats × Bool))
  | _, [] => some []
  | i, task :: tasks => do
      let updated ← task.monitor (read i)
      let rest ← monitorSlots read (i + 1) tasks
      pure (updated :: rest)

theorem length_monitorSlots {read : Nat → TaskReading} :
    ∀ {i : Nat} {tasks : List TaskStats} {updated : List (TaskStats × Bool)},
      monitorSlots read i tasks = some updated → updated.length = tasks.length
  | _, [], _, looped => by cases looped; rfl
  | i, task :: tasks, updated, looped => by
      simp only [monitorSlots, Option.bind_eq_bind, Option.bind_eq_some, Option.pure_def,
        Option.some.injEq] at looped
      obtain ⟨_, -, rest, restLooped, rfl⟩ := looped
      simp [length_monitorSlots restLooped]

/-- `debugTasksGetStateName(state)`. -/
def debugTasksGetStateName : TaskState → List Char
  | .running => "Running".toList
  | .ready => "Ready".toList
  | .blocked => "Blocked".toList
  | .suspended => "Suspended".toList
  | .deleted => "Deleted".toList
  | .invalid => "Unknown".toList

/-- The block `debugTasksPrintStats` prints for a task (lines 187–202). -/
structure TaskReport where
  name : CString
  stackSize : BitVec 32
  usedBytes : BitVec 32
  usagePercentage : Binary32
  stackHighWaterMark : BitVec 32
  peakUsagePercentage : BitVec 32
  priority : BitVec 32
  stateName : List Char
  overflowWarning : Bool
  deriving DecidableEq, Repr

def TaskStats.report (task : TaskStats) : TaskReport :=
  ⟨task.name, task.stackSize, task.stackSize - task.stackHighWaterMark, task.usagePercentage,
    task.stackHighWaterMark, task.peakUsagePercentage, task.priority,
    debugTasksGetStateName task.state, task.overflowWarning⟩

namespace TaskTable

/-- `debugTasksRegister(handle, name, stack_size)`, `uxTaskPriorityGet(handle)` answering
`priority`: whether it registered the task, and the table after. -/
def debugTasksRegister (t : TaskTable) (handle : BitVec 32) (name : CString)
    (stackSize priority : BitVec 32) : Bool × TaskTable :=
  if full : !t.mutex || t.count ≥ maxTrackedTasks then (false, t)
  else (true,
    { stats := t.stats.modify (fun task => task.register handle name stackSize priority) t.count
      count := t.count + 1
      mutex := t.mutex
      length_stats := by rw [List.length_modify, t.length_stats]
      count_le := by
        simp only [Bool.or_eq_true, not_or, ge_iff_le, decide_eq_true_eq] at full
        omega })

/-- `debugTasksMonitor()`, reading `read i` for slot `i`: whether every registered task
stayed below the warning threshold, and the table with the registered slots updated; `none`
when the call is undefined. -/
def debugTasksMonitor (t : TaskTable) (read : Nat → TaskReading) : Option (Bool × TaskTable) :=
  if !t.mutex then some (true, t)
  else
    match looped : monitorSlots read 0 (t.stats.take t.count) with
    | none => none
    | some updated => some (updated.all (·.2),
      { t with
        stats := updated.map (·.1) ++ t.stats.drop t.count
        length_stats := by
          have := t.count_le
          simp only [List.length_append, List.length_map, length_monitorSlots looped,
            List.length_take, List.length_drop, t.length_stats]
          omega })

/-- `debugTasksGetStats(name, stats)`: the statistics it copies out of the first registered
task named `name`, none where it returns false (`statsGiven` false is a `NULL` `stats`). -/
def debugTasksGetStats (t : TaskTable) (name : CString) (statsGiven : Bool) :
    Option TaskStats :=
  if !t.mutex || !statsGiven then none
  else (t.stats.take t.count).find? fun task => task.name == name

/-- `debugTasksIsAlive(name)`: whether the first registered task named `name` is in a state
other than `eDeleted`. -/
def debugTasksIsAlive (t : TaskTable) (name : CString) : Bool :=
  if !t.mutex then false
  else
    match (t.stats.take t.count).find? fun task => task.name == name with
    | some task => task.state != .deleted
    | none => false

/-- What `debugTasksPrintStats()` prints: the count, each registered task's block, and
`uxTaskGetNumberOfTasks()` answering `numberOfTasks`. -/
def debugTasksPrintStats (t : TaskTable) (numberOfTasks : BitVec 32) :
    Option (Nat × List TaskReport × BitVec 32) :=
  if !t.mutex then none
  else some (t.count, (t.stats.take t.count).map TaskStats.report, numberOfTasks)

/-- What `debugTasksPrintSummary()` prints: each registered task's name and usage. -/
def debugTasksPrintSummary (t : TaskTable) : Option (List (CString × Binary32)) :=
  if !t.mutex then none
  else some ((t.stats.take t.count).map fun task => (task.name, task.usagePercentage))

end TaskTable

/-- A call that changes the table, with the answers it reads. -/
inductive TaskCall where
  | init (created : Bool)
  | register (handle : BitVec 32) (name : CString) (stackSize priority : BitVec 32)
  | monitor (read : Nat → TaskReading)

/-- The table after a call, `none` when the call is undefined. -/
def TaskTable.step (t : TaskTable) : TaskCall → Option TaskTable
  | .init created => some (debugTasksInit created)
  | .register handle name stackSize priority =>
      some (t.debugTasksRegister handle name stackSize priority).2
  | .monitor read => (t.debugTasksMonitor read).map Prod.snd

/-- The table after a run, `none` once a call is undefined. -/
def TaskTable.run (t : TaskTable) : List TaskCall → Option TaskTable
  | [] => some t
  | call :: calls => (t.step call).bind fun t => t.run calls

/-! ## What the table stands for -/

/-- A task as `debugTasksRegister` was given it. -/
structure TaskRegistration where
  handle : BitVec 32
  name : CString
  stackSize : BitVec 32
  priority : BitVec 32
  deriving DecidableEq, Repr

/-- The registrations made since the last `debugTasksInit` while the mutex was there, in
order; the readings the monitor took for the `i`-th of them; and whether the mutex is
there. -/
structure TaskLog where
  mutex : Bool
  registrations : List TaskRegistration
  readings : Nat → List TaskReading

/-- The log of the globals before `debugTasksInit`. -/
def TaskLog.boot : TaskLog :=
  ⟨false, [], fun _ => []⟩

namespace TaskLog

/-- The registrations a table of `MAX_TRACKED_TASKS` slots keeps: the first ones. -/
def watched (log : TaskLog) : List TaskRegistration :=
  log.registrations.take maxTrackedTasks

/-- The watched registrations, each with the readings taken for it. -/
def view (log : TaskLog) : List (TaskRegistration × List TaskReading) :=
  log.watched.mapIdx fun i reg => (reg, log.readings i)

def step (log : TaskLog) : TaskCall → TaskLog
  | .init created => ⟨created, [], fun _ => []⟩
  | .register handle name stackSize priority =>
      if log.mutex then
        { log with registrations := log.registrations ++ [⟨handle, name, stackSize, priority⟩] }
      else log
  | .monitor read =>
      if log.mutex then
        { log with readings := fun i =>
            if i < log.watched.length then log.readings i ++ [read i] else log.readings i }
      else log

def run (log : TaskLog) (calls : List TaskCall) : TaskLog :=
  calls.foldl step log

/-- A monitor call reading `read` has no outcome: some watched task's usage is `2 ^ 32` or
more, `+∞` included, and so above any peak the `uint32_t` can hold. -/
def Undefined (log : TaskLog) (read : Nat → TaskReading) : Prop :=
  log.mutex = true ∧ ∃ i reg, log.watched[i]? = some reg ∧
    (stackUsage reg.stackSize (read i).hwmWords).atLeast (2 ^ 32) = true

end TaskLog

/-- The largest finite usage computed over `seen` for a stack of `stackSize` bytes, or `0`:
a NaN usage is above no peak. -/
def peakUsage (stackSize : BitVec 32) (seen : List TaskReading) : ℚ :=
  (seen.filterMap fun reading => (stackUsage stackSize reading.hwmWords).finiteValue).foldl max 0

/-- What a slot says about a registration and the readings taken for it since: the
registration's handle, stack size, priority and name cut to fifteen bytes; the figures of
the last reading, or those of a zeroed slot before the first; the warning flag set exactly
at a usage of `TASK_USAGE_WARNING_THRESHOLD` or more; and the peak as the integer part of
the largest finite usage, which stays below `2 ^ 32`. -/
structure TaskStats.Watches (task : TaskStats) (reg : TaskRegistration)
    (seen : List TaskReading) : Prop where
  handle : task.handle = reg.handle
  name : task.name.bytes = reg.name.bytes.take (taskNameLen - 1)
  stackSize : task.stackSize = reg.stackSize
  priority : task.priority = reg.priority
  highWater : task.stackHighWaterMark = (seen.getLast?.map fun r => r.hwmWords * 4).getD 0
  usage : task.usagePercentage =
    (seen.getLast?.map fun r => stackUsage reg.stackSize r.hwmWords).getD Binary32.zero
  state : task.state = (seen.getLast?.map TaskReading.state).getD .running
  lastCheck : task.lastCheckMs = (seen.getLast?.map TaskReading.nowMs).getD 0
  warning : task.overflowWarning = task.usagePercentage.atLeast taskUsageWarningThreshold
  peak : task.peakUsagePercentage.toNat = ⌊peakUsage reg.stackSize seen⌋₊
  fits : peakUsage reg.stackSize seen < 2 ^ 32

/-- What the table says about its log: the mutex, the registered slots watching the
watched registrations one for one, zeroes past them, and no readings yet for a
registration to come. -/
structure TaskTable.Keeps (t : TaskTable) (log : TaskLog) : Prop where
  mutex : t.mutex = log.mutex
  slots : List.Forall₂ (fun task entry => task.Watches entry.1 entry.2)
    (t.stats.take t.count) log.view
  vacant : ∀ task ∈ t.stats.drop t.count, task = TaskStats.zero
  unread : ∀ i, log.watched.length ≤ i → log.readings i = []

/-! ## The usage and its peak -/

theorem le_foldl_max (values : List ℚ) (start : ℚ) : start ≤ values.foldl max start := by
  induction values generalizing start with
  | nil => exact le_refl start
  | cons value values induction =>
      exact le_trans (le_max_left start value) (induction (max start value))

theorem foldl_max_mem (values : List ℚ) (start : ℚ) :
    values.foldl max start = start ∨ values.foldl max start ∈ values := by
  induction values generalizing start with
  | nil => exact .inl rfl
  | cons value values induction =>
      rw [List.foldl_cons]
      rcases induction (max start value) with same | member
      · rcases max_choice start value with left | right
        · exact .inl (same.trans left)
        · exact .inr (by rw [same, right]; exact List.mem_cons_self _ _)
      · exact .inr (List.mem_cons_of_mem _ member)

theorem stackUsage_nonneg {stackSize hwmWords : BitVec 32} {x : ℚ}
    (finite : (stackUsage stackSize hwmWords).finiteValue = some x) : 0 ≤ x :=
  Binary32.divide_nonneg (round32_nonneg (mul_nonneg (by norm_num)
    (round32_nonneg (Nat.cast_nonneg _)))) (round32_nonneg (Nat.cast_nonneg _)) finite

theorem peakUsage_nonneg (stackSize : BitVec 32) (seen : List TaskReading) :
    0 ≤ peakUsage stackSize seen :=
  le_foldl_max _ 0

theorem peakUsage_onGrid (stackSize : BitVec 32) (seen : List TaskReading) :
    OnGrid 24 (-126) (peakUsage stackSize seen) := by
  rcases foldl_max_mem (seen.filterMap fun reading =>
      (stackUsage stackSize reading.hwmWords).finiteValue) 0 with zero | member
  · rw [peakUsage, zero]
    exact onGrid_zero
  · obtain ⟨_, -, found⟩ := List.mem_filterMap.mp member
    exact (Binary32.isFloat_of_finiteValue found).1

theorem peakUsage_snoc (stackSize : BitVec 32) (seen : List TaskReading)
    (reading : TaskReading) :
    peakUsage stackSize (seen ++ [reading]) =
      ((stackUsage stackSize reading.hwmWords).finiteValue.map
        (max (peakUsage stackSize seen))).getD (peakUsage stackSize seen) := by
  simp only [peakUsage, List.filterMap_append, List.foldl_append, List.filterMap_cons,
    List.filterMap_nil]
  cases (stackUsage stackSize reading.hwmWords).finiteValue <;> rfl

/-- The code's peak update keeps the floor of the running maximum: a usage above the stored
floor but below the maximum has the same floor. -/
theorem floor_max_step {peak usage : ℚ} (nonneg : 0 ≤ peak) :
    (if (⌊peak⌋₊ : ℚ) < usage then ⌊usage⌋₊ else ⌊peak⌋₊) =
      ⌊max peak usage⌋₊ := by
  split
  · next above =>
      rcases le_total peak usage with below | beyond
      · rw [max_eq_right below]
      · rw [max_eq_left beyond]
        exact le_antisymm (Nat.floor_mono beyond) (Nat.le_floor above.le)
  · next below =>
      rw [max_eq_left ((not_lt.mp below).trans (Nat.floor_le nonneg))]

/-- The peak update from a peak that is the integer part of a running maximum `M` of
non-negative floats below `2 ^ 32`: undefined exactly for a usage of `2 ^ 32` or more,
`+∞` included, and otherwise the integer part of the maximum with the usage, which stays
below `2 ^ 32`.  The conversion of the peak to `float` is exact, since the integer part of
a float is one. -/
theorem peakAfter_floor {M : ℚ} (grid : OnGrid 24 (-126) M) (nonneg : 0 ≤ M)
    (fits : M < 2 ^ 32) {peak : BitVec 32} (floor : peak.toNat = ⌊M⌋₊) {usage : Binary32}
    (positive : ∀ x, usage.finiteValue = some x → 0 ≤ x) :
    (peakAfter peak usage = none ↔ usage.atLeast (2 ^ 32) = true) ∧
      ∀ after, peakAfter peak usage = some after →
        after.toNat = ⌊(usage.finiteValue.map (max M)).getD M⌋₊ ∧
          (usage.finiteValue.map (max M)).getD M < 2 ^ 32 := by
  have converted : round32 peak.toNat = (⌊M⌋₊ : ℚ) := by
    rw [floor]
    exact round32_of_onGrid (onGrid_floor grid nonneg)
  have below : (⌊M⌋₊ : ℚ) < 2 ^ 32 := (Nat.floor_le nonneg).trans_lt fits
  cases usage with
  | nan =>
      simp only [peakAfter, Binary32.above, Binary32.atLeast, Binary32.finiteValue,
        Bool.false_eq_true, if_false, reduceCtorEq, Option.map_none', Option.getD_none,
        Option.some.injEq, iff_false, not_false_eq_true, true_and]
      exact fun after same => ⟨same ▸ floor, fits⟩
  | infinity => simp [peakAfter, Binary32.above, Binary32.toUInt32, Binary32.atLeast]
  | finite x isFloat =>
      have zeroLe := positive x rfl
      have step := @floor_max_step M x nonneg
      simp only [peakAfter, Binary32.above, converted, Binary32.toUInt32, Binary32.atLeast,
        Binary32.finiteValue, Option.map_some', Option.getD_some, decide_eq_true_eq]
      by_cases higher : (⌊M⌋₊ : ℚ) < x
      · rw [if_pos higher] at step ⊢
        by_cases large : x < 2 ^ 32
        · have floorFits : ⌊x⌋₊ < 2 ^ 32 := (Nat.floor_lt zeroLe).mpr (by exact_mod_cast large)
          rw [if_pos ⟨neg_one_lt_zero.trans_le zeroLe, large⟩]
          refine ⟨iff_of_false (by simp) (not_le.mpr large), fun after same => ?_⟩
          cases same
          rw [BitVec.toNat_ofNat, Nat.mod_eq_of_lt floorFits, ← step]
          exact ⟨rfl, max_lt fits large⟩
        · rw [if_neg fun inside => large inside.2]
          exact ⟨iff_of_true rfl (not_lt.mp large), fun _ none => by cases none⟩
      · rw [if_neg higher] at step ⊢
        have small : x < 2 ^ 32 := (not_lt.mp higher).trans_lt below
        refine ⟨iff_of_false (by simp) (not_le.mpr small), fun after same => ?_⟩
        cases same
        exact ⟨by rw [floor, ← step], max_lt fits small⟩

namespace TaskStats

theorem monitor_eq (task : TaskStats) (reading : TaskReading) :
    task.monitor reading =
      (peakAfter task.peakUsagePercentage (stackUsage task.stackSize reading.hwmWords)).map
        fun peak => ({ task with
          stackHighWaterMark := reading.hwmWords * 4
          usagePercentage := stackUsage task.stackSize reading.hwmWords
          peakUsagePercentage := peak
          overflowWarning :=
            (stackUsage task.stackSize reading.hwmWords).atLeast taskUsageWarningThreshold
          state := reading.state
          lastCheckMs := reading.nowMs },
          !(stackUsage task.stackSize reading.hwmWords).atLeast taskUsageWarningThreshold) := by
  simp only [monitor]
  cases peakAfter task.peakUsagePercentage (stackUsage task.stackSize reading.hwmWords) with
  | none => rfl
  | some peak =>
      by_cases critical :
          (stackUsage task.stackSize reading.hwmWords).atLeast taskUsageCriticalThreshold
      · have warned := Binary32.atLeast_of_le
          (show taskUsageWarningThreshold ≤ taskUsageCriticalThreshold by decide) critical
        simp [critical, warned]
      · by_cases warned :
            (stackUsage task.stackSize reading.hwmWords).atLeast taskUsageWarningThreshold <;>
          simp [critical, warned]

theorem zero_register_watches (handle : BitVec 32) (name : CString)
    (stackSize priority : BitVec 32) :
    (zero.register handle name stackSize priority).Watches ⟨handle, name, stackSize, priority⟩
      [] where
  handle := rfl
  name := rfl
  stackSize := rfl
  priority := rfl
  highWater := rfl
  usage := rfl
  state := rfl
  lastCheck := rfl
  warning := show false = Binary32.zero.atLeast taskUsageWarningThreshold by decide
  peak := rfl
  fits := show (0 : ℚ) < 2 ^ 32 by norm_num

variable {task : TaskStats} {reg : TaskRegistration} {seen : List TaskReading}

theorem Watches.monitor_eq_none (watches : task.Watches reg seen) (reading : TaskReading) :
    task.monitor reading = none ↔
      (stackUsage reg.stackSize reading.hwmWords).atLeast (2 ^ 32) = true := by
  rw [monitor_eq, Option.map_eq_none', watches.stackSize]
  exact (peakAfter_floor (peakUsage_onGrid _ _) (peakUsage_nonneg _ _) watches.fits watches.peak
    fun _ finite => stackUsage_nonneg finite).1

theorem Watches.monitor_eq_some (watches : task.Watches reg seen) {reading : TaskReading}
    {updated : TaskStats × Bool} (monitored : task.monitor reading = some updated) :
    updated.1.Watches reg (seen ++ [reading]) ∧
      updated.2 = !(stackUsage reg.stackSize reading.hwmWords).atLeast
        taskUsageWarningThreshold := by
  rw [monitor_eq, Option.map_eq_some', watches.stackSize] at monitored
  obtain ⟨peak, stepped, rfl⟩ := monitored
  obtain ⟨floor, fits⟩ := (peakAfter_floor (peakUsage_onGrid _ _) (peakUsage_nonneg _ _)
    watches.fits watches.peak fun _ finite => stackUsage_nonneg finite).2 peak stepped
  refine ⟨⟨watches.handle, watches.name, rfl, watches.priority, by simp, by simp, by simp,
    by simp, rfl, ?_, ?_⟩, rfl⟩
  · rw [peakUsage_snoc]
    exact floor
  · rw [peakUsage_snoc]
    exact fits

end TaskStats

/-! ## Every call keeps the table on its log -/

theorem monitorSlots_succ (read : Nat → TaskReading) (tasks : List TaskStats) (i : Nat) :
    monitorSlots read (i + 1) tasks = monitorSlots (fun k => read (k + 1)) i tasks := by
  induction tasks generalizing i with
  | nil => rfl
  | cons task tasks induction => simp only [monitorSlots, induction]

/-- The monitor loop over slots watching `entries`: undefined exactly when a watched usage is
`2 ^ 32` or more, and otherwise every slot watching its entry one reading on, with the
verdict of the warning threshold. -/
theorem monitorSlots_watches {tasks : List TaskStats}
    {entries : List (TaskRegistration × List TaskReading)}
    (related : List.Forall₂ (fun task entry => task.Watches entry.1 entry.2) tasks entries)
    (read : Nat → TaskReading) :
    (monitorSlots read 0 tasks = none ↔ (entries.mapIdx fun k entry =>
        (stackUsage entry.1.stackSize (read k).hwmWords).atLeast (2 ^ 32)).any id) ∧
      ∀ updated, monitorSlots read 0 tasks = some updated →
        List.Forall₂ (fun slot entry => slot.1.Watches entry.1 entry.2) updated
            (entries.mapIdx fun k entry => (entry.1, entry.2 ++ [read k])) ∧
          updated.map (·.2) = entries.mapIdx fun k entry =>
            !(stackUsage entry.1.stackSize (read k).hwmWords).atLeast taskUsageWarningThreshold := by
  induction related generalizing read with
  | nil => simp [monitorSlots]
  | @cons task entry tasks entries watches _ induction =>
      obtain ⟨laterNone, laterSome⟩ := induction fun k => read (k + 1)
      rw [← monitorSlots_succ read tasks 0] at laterNone laterSome
      simp only [List.mapIdx_cons, List.any_cons, id_eq]
      cases monitored : task.monitor (read 0) with
      | none =>
          have undefined := (watches.monitor_eq_none (read 0)).mp monitored
          simp only [monitorSlots, monitored, Option.bind_eq_bind, Option.none_bind, undefined,
            Bool.true_or, reduceCtorEq, false_implies, implies_true, and_true]
      | some updated =>
          have defined : (stackUsage entry.1.stackSize (read 0).hwmWords).atLeast (2 ^ 32) =
              false := by
            rw [← Bool.not_eq_true, ← watches.monitor_eq_none, monitored]
            simp
          obtain ⟨watching, verdict⟩ := watches.monitor_eq_some monitored
          cases looped : monitorSlots read (0 + 1) tasks with
          | none =>
              simp only [monitorSlots, monitored, looped, Option.bind_eq_bind, Option.some_bind,
                Option.none_bind, defined, Bool.false_or, true_iff, reduceCtorEq,
                false_implies, implies_true, and_true]
              exact laterNone.mp looped
          | some rest =>
              obtain ⟨restWatching, restVerdicts⟩ := laterSome rest looped
              simp only [monitorSlots, monitored, looped, Option.bind_eq_bind, Option.some_bind,
                Option.pure_def, reduceCtorEq, defined, Bool.false_or, false_iff,
                Option.some.injEq]
              refine ⟨fun undefined => ?_, fun _ same => ?_⟩
              · rw [← laterNone] at undefined
                cases looped.symm.trans undefined
              · subst same
                refine ⟨.cons watching restWatching, ?_⟩
                rw [List.map_cons, verdict, restVerdicts]

theorem all_mapIdx_iff {α : Type} (l : List α) (verdict : Nat → α → Bool) :
    (l.mapIdx verdict).all id = true ↔ ∀ i a, l[i]? = some a → verdict i a = true := by
  simp only [List.all_eq_true, List.mem_iff_getElem?, List.getElem?_mapIdx, id,
    forall_exists_index, Option.map_eq_some', and_imp]
  exact ⟨fun h i a found => h _ i a found rfl, fun h _ i a found same => same ▸ h i a found⟩

theorem any_mapIdx_iff {α : Type} (l : List α) (verdict : Nat → α → Bool) :
    (l.mapIdx verdict).any id = true ↔ ∃ i a, l[i]? = some a ∧ verdict i a = true := by
  simp only [List.any_eq_true, List.mem_iff_getElem?, List.getElem?_mapIdx, id,
    Option.map_eq_some']
  exact ⟨fun ⟨_, ⟨i, a, found, same⟩, holds⟩ => ⟨i, a, found, same ▸ holds⟩,
    fun ⟨i, a, found, holds⟩ => ⟨_, ⟨i, a, found, rfl⟩, holds⟩⟩

theorem forall₂_mapIdx {α β γ δ : Type} {R : α → β → Prop} {S : γ → δ → Prop}
    {f : Nat → α → γ} {g : Nat → β → δ} {as : List α} {bs : List β}
    (related : List.Forall₂ R as bs) (step : ∀ i a b, R a b → S (f i a) (g i b)) :
    List.Forall₂ S (as.mapIdx f) (bs.mapIdx g) := by
  induction related generalizing f g with
  | nil => exact .nil
  | cons head _ induction =>
      rw [List.mapIdx_cons, List.mapIdx_cons]
      exact .cons (step 0 _ _ head) (induction fun i => step (i + 1))

theorem take_succ_modify {α : Type} {slots : List α} {n : Nat} (inside : n < slots.length)
    (f : α → α) : (slots.modify f n).take (n + 1) = slots.take n ++ [f slots[n]] := by
  rw [List.modify_eq_take_cons_drop inside, List.take_append_eq_append_take]
  simp [Nat.min_eq_left inside.le]

/-- Some monitor call of `calls`, made on the log it reaches from `log`, has no outcome. -/
def TaskLog.Stuck : TaskLog → List TaskCall → Prop
  | _, [] => False
  | log, call :: calls =>
      (∃ read, call = .monitor read ∧ log.Undefined read) ∨ Stuck (log.step call) calls

namespace TaskTable.Keeps

variable {t : TaskTable} {log : TaskLog}

theorem count_eq (keeps : t.Keeps log) : t.count = log.watched.length := by
  have lengths := keeps.slots.length_eq
  rw [List.length_take, t.length_stats, TaskLog.view, List.length_mapIdx] at lengths
  have := t.count_le
  omega

theorem init (created : Bool) : (debugTasksInit created).Keeps ⟨created, [], fun _ => []⟩ where
  mutex := rfl
  slots := .nil
  vacant := fun _ member => List.eq_of_mem_replicate member
  unread := fun _ _ => rfl

theorem boot : TaskTable.boot.Keeps TaskLog.boot :=
  init false

theorem register (keeps : t.Keeps log) (handle : BitVec 32) (name : CString)
    (stackSize priority : BitVec 32) :
    (t.debugTasksRegister handle name stackSize priority).2.Keeps
      (log.step (.register handle name stackSize priority)) := by
  have counted := keeps.count_eq
  have bounded := t.count_le
  rw [TaskLog.watched, List.length_take] at counted
  simp only [debugTasksRegister, TaskLog.step]
  by_cases mutex : t.mutex = true
  · rw [if_pos (keeps.mutex ▸ mutex)]
    by_cases full : maxTrackedTasks ≤ t.count
    · rw [dif_pos (by simp [full])]
      have same : TaskLog.watched { log with
          registrations := log.registrations ++ [⟨handle, name, stackSize, priority⟩] } =
          log.watched :=
        List.take_append_of_le_length (by omega)
      exact ⟨keeps.mutex, by rw [TaskLog.view, same]; exact keeps.slots, keeps.vacant,
        by rw [same]; exact keeps.unread⟩
    · rw [dif_neg (by simp [mutex, full])]
      have room : t.count < t.stats.length := by rw [t.length_stats]; omega
      have zero : t.stats[t.count] = TaskStats.zero :=
        keeps.vacant _ (by rw [List.drop_eq_getElem_cons room]; exact List.mem_cons_self _ _)
      have grown : TaskLog.watched { log with
          registrations := log.registrations ++ [⟨handle, name, stackSize, priority⟩] } =
          log.watched ++ [⟨handle, name, stackSize, priority⟩] := by
        simp only [TaskLog.watched]
        rw [List.take_of_length_le (by simp; omega), List.take_of_length_le (by omega)]
      refine ⟨keeps.mutex, ?_, fun task member => keeps.vacant task ?_, fun i later => ?_⟩
      · rw [take_succ_modify room, zero, TaskLog.view, grown, List.mapIdx_append,
          List.mapIdx_singleton, Nat.zero_add, keeps.unread log.watched.length le_rfl]
        exact List.rel_append keeps.slots (.cons (TaskStats.zero_register_watches ..) .nil)
      · rw [List.drop_modify_of_lt _ _ _ _ (Nat.lt_add_one _), ← List.tail_drop] at member
        exact List.mem_of_mem_tail member
      · rw [grown, List.length_append, List.length_singleton] at later
        exact keeps.unread i (by omega)
  · rw [if_neg (keeps.mutex ▸ mutex), dif_pos (by simp [mutex])]
    exact keeps

/-- A monitor call on a table that keeps its log has no outcome exactly when the log says it
is undefined; otherwise the table after keeps the log with the readings added, and the call
reports health exactly when no watched task reached the warning threshold. -/
theorem monitor (keeps : t.Keeps log) (read : Nat → TaskReading) :
    (t.debugTasksMonitor read = none ↔ log.Undefined read) ∧
      ∀ healthy after, t.debugTasksMonitor read = some (healthy, after) →
        after.Keeps (log.step (.monitor read)) ∧
          (healthy = true ↔ (log.mutex = true → ∀ i reg, log.watched[i]? = some reg →
            (stackUsage reg.stackSize (read i).hwmWords).atLeast taskUsageWarningThreshold =
              false)) := by
  by_cases mutex : log.mutex = true
  · obtain ⟨loopNone, loopSome⟩ := monitorSlots_watches keeps.slots read
    rw [TaskLog.view, List.mapIdx_mapIdx, any_mapIdx_iff] at loopNone
    simp only [Function.comp_apply] at loopNone
    have stepped : log.step (.monitor read) =
        { log with
          readings := fun i =>
            if i < log.watched.length then log.readings i ++ [read i] else log.readings i } := by
      simp only [TaskLog.step, mutex, if_true]
    simp only [debugTasksMonitor, keeps.mutex.trans mutex, Bool.not_true, Bool.false_eq_true,
      if_false]
    split
    · next looped =>
        exact ⟨iff_of_true rfl ⟨mutex, loopNone.mp looped⟩, fun _ _ none => by cases none⟩
    · next updated looped =>
        refine ⟨iff_of_false (by simp) fun undefined => ?_, fun healthy after same => ?_⟩
        · cases looped.symm.trans (loopNone.mpr undefined.2)
        cases same
        obtain ⟨watching, verdicts⟩ := loopSome updated looped
        have length : (updated.map (·.1)).length = t.count := by
          have := t.count_le
          rw [List.length_map, length_monitorSlots looped, List.length_take, t.length_stats]
          omega
        have readings : (TaskLog.view { log with readings := fun i =>
            if i < log.watched.length then log.readings i ++ [read i] else log.readings i }) =
            log.view.mapIdx fun i entry => (entry.1, entry.2 ++ [read i]) := by
          simp only [TaskLog.view, TaskLog.watched, List.mapIdx_mapIdx]
          exact List.mapIdx_eq_mapIdx_iff.mpr fun i inside => by
            simp only [Function.comp_apply, if_pos inside]
        have healthy : updated.all (·.2) = (updated.map (·.2)).all id :=
          Bool.eq_iff_iff.mpr (by simp only [List.all_eq_true, List.forall_mem_map, id])
        rw [TaskLog.view, List.mapIdx_mapIdx] at verdicts
        rw [stepped]
        refine ⟨⟨mutex.symm, ?_, ?_, fun i later => ?_⟩, ?_⟩
        · rw [List.take_left' length, readings, List.forall₂_map_left_iff]
          exact watching
        · rw [List.drop_left' length]
          exact keeps.vacant
        · simp only [TaskLog.watched] at later ⊢
          rw [if_neg (by omega)]
          exact keeps.unread i later
        · rw [healthy, verdicts, all_mapIdx_iff]
          simp only [Function.comp_apply, Bool.not_eq_true', mutex, true_implies]
  · have still : t.mutex = false := by rw [keeps.mutex]; simpa using mutex
    simp only [debugTasksMonitor, still, Bool.not_false, if_true, reduceCtorEq,
      false_iff, Option.some.injEq, Prod.mk.injEq]
    refine ⟨fun undefined => mutex undefined.1, fun healthy after ⟨answer, same⟩ => ?_⟩
    subst answer same
    simp only [TaskLog.step, mutex, if_false, true_iff]
    exact ⟨keeps, fun present => absurd present Bool.false_ne_true⟩

theorem step (keeps : t.Keeps log) (call : TaskCall) :
    (t.step call = none ↔ ∃ read, call = .monitor read ∧ log.Undefined read) ∧
      ∀ after, t.step call = some after → after.Keeps (log.step call) := by
  cases call with
  | init created =>
      exact ⟨iff_of_false (fun none => Option.noConfusion none)
        fun ⟨_, same, _⟩ => TaskCall.noConfusion same,
        fun _ same => by cases same; exact init created⟩
  | register handle name stackSize priority =>
      exact ⟨iff_of_false (fun none => Option.noConfusion none)
        fun ⟨_, same, _⟩ => TaskCall.noConfusion same,
        fun _ same => by cases same; exact keeps.register handle name stackSize priority⟩
  | monitor read =>
      obtain ⟨monitorNone, monitorSome⟩ := keeps.monitor read
      refine ⟨?_, fun after same => ?_⟩
      · rw [TaskTable.step, Option.map_eq_none', monitorNone]
        exact ⟨fun undefined => ⟨read, rfl, undefined⟩, fun ⟨_, same, undefined⟩ => by
          cases same
          exact undefined⟩
      obtain ⟨⟨healthy, _⟩, called, rfl⟩ := Option.map_eq_some'.mp same
      exact (monitorSome healthy _ called).1

/-- A run: undefined exactly when some monitor call on the way is, and otherwise keeping the
log. -/
theorem run (keeps : t.Keeps log) (calls : List TaskCall) :
    (t.run calls = none ↔ log.Stuck calls) ∧
      ∀ after, t.run calls = some after → after.Keeps (log.run calls) := by
  induction calls generalizing t log with
  | nil => exact ⟨by simp [TaskTable.run, TaskLog.Stuck], fun _ same => by cases same; exact keeps⟩
  | cons call calls induction =>
      obtain ⟨stepNone, stepSome⟩ := keeps.step call
      cases stepped : t.step call with
      | none =>
          simp only [TaskTable.run, stepped, Option.none_bind, reduceCtorEq, false_implies,
            implies_true, and_true, true_iff, TaskLog.Stuck]
          exact .inl (stepNone.mp stepped)
      | some next =>
          obtain ⟨runNone, runSome⟩ := induction (stepSome next stepped)
          have defined : ¬∃ read, call = .monitor read ∧ log.Undefined read := by
            rw [← stepNone, stepped]
            simp
          simp only [TaskTable.run, stepped, Option.some_bind, TaskLog.Stuck, defined,
            false_or]
          exact ⟨runNone, runSome⟩

end TaskTable.Keeps

/-! ## Lookups and answers -/

/-- The entry a lookup by `name` should find: the first watched registration whose name cut
to fifteen bytes is `name`, with its readings. -/
def TaskLog.find (log : TaskLog) (name : CString) :
    Option (TaskRegistration × List TaskReading) :=
  log.view.find? fun entry => entry.1.name.bytes.take (taskNameLen - 1) == name.bytes

theorem TaskLog.find_long (log : TaskLog) {name : CString}
    (long : taskNameLen ≤ name.bytes.length) : log.find name = none := by
  rw [TaskLog.find, List.find?_eq_none]
  intro entry _ same
  have lengths := congrArg List.length (beq_iff_eq.mp same)
  rw [List.length_take] at lengths
  simp only [taskNameLen] at long lengths
  omega

theorem find?_rel {α β : Type} {R : α → β → Prop} {p : α → Bool} {q : β → Bool}
    {as : List α} {bs : List β} (related : List.Forall₂ R as bs)
    (agree : ∀ a b, R a b → p a = q b) : Option.Rel R (as.find? p) (bs.find? q) := by
  induction related with
  | nil => exact .none
  | cons head _ induction =>
      rw [List.find?_cons, List.find?_cons, agree _ _ head]
      split
      · exact .some head
      · exact induction

theorem eq_none_of_rel_none {α β : Type} {R : α → β → Prop} {found : Option α}
    (related : Option.Rel R found none) : found = none := by
  cases related
  rfl

namespace TaskTable.Keeps

variable {t : TaskTable} {log : TaskLog}

theorem find (keeps : t.Keeps log) (name : CString) :
    Option.Rel (fun task entry => task.Watches entry.1 entry.2)
      ((t.stats.take t.count).find? fun task => task.name == name) (log.find name) :=
  find?_rel keeps.slots fun _ _ watches => by rw [CString.beq_eq_bytes_beq, watches.name]

theorem getStats (keeps : t.Keeps log) (name : CString) (statsGiven : Bool) :
    Option.Rel (fun task entry => task.Watches entry.1 entry.2)
      (t.debugTasksGetStats name statsGiven)
      (if log.mutex && statsGiven then log.find name else none) := by
  unfold debugTasksGetStats
  rw [← keeps.mutex]
  cases t.mutex <;> cases statsGiven
  exacts [.none, .none, .none, keeps.find name]

theorem isAlive (keeps : t.Keeps log) (name : CString) :
    t.debugTasksIsAlive name = (log.mutex && (log.find name).any fun entry =>
      (entry.2.getLast?.map TaskReading.state).getD .running != .deleted) := by
  have related := keeps.find name
  unfold debugTasksIsAlive
  rw [← keeps.mutex]
  cases t.mutex
  · rfl
  · generalize (t.stats.take t.count).find? (fun task => task.name == name) = found at related ⊢
    generalize log.find name = entry at related ⊢
    cases related with
    | some watches => simp [watches.state]
    | none => rfl

theorem register_answer (keeps : t.Keeps log) (handle : BitVec 32) (name : CString)
    (stackSize priority : BitVec 32) :
    (t.debugTasksRegister handle name stackSize priority).1 =
      (log.mutex && decide (log.registrations.length < maxTrackedTasks)) := by
  have counted := keeps.count_eq
  rw [TaskLog.watched, List.length_take] at counted
  have room : t.count < maxTrackedTasks ↔ log.registrations.length < maxTrackedTasks := by
    omega
  unfold debugTasksRegister
  rw [← keeps.mutex]
  by_cases full : maxTrackedTasks ≤ t.count
  · simp [full, room.not.mp (not_lt.mpr full)]
  · by_cases mutex : t.mutex = true <;> simp [mutex, full, room.mp (not_le.mp full)]

end TaskTable.Keeps

/-! ## The table over whole runs -/

/-- Over every run from the globals the sketch defines, a monitor call has no outcome
exactly when a watched usage reaches `2 ^ 32`, and otherwise each call keeps the table on
the registrations made since the last `debugTasksInit` and the readings the monitor took
for them. -/
theorem tasks_table_law (calls : List TaskCall) :
    (TaskTable.boot.run calls = none ↔ TaskLog.boot.Stuck calls) ∧
      ∀ t, TaskTable.boot.run calls = some t → t.Keeps (TaskLog.boot.run calls) :=
  TaskTable.Keeps.boot.run calls

set_option maxRecDepth 4000 in
/-- A high-water mark past the stack end wraps `used_bytes` to `2 ^ 32 - 208`, a usage of
52428796 % that becomes the peak; past a 100-byte stack it rounds to `2 ^ 32` and the
monitor call has no outcome. -/
example :
    ((TaskTable.boot.run [.init true, .register 1 (.ofString "Sensor") 8192 5,
        .monitor fun _ => ⟨2100, .blocked, 10⟩]).bind fun t =>
      (t.debugTasksGetStats (.ofString "Sensor") true)).map TaskStats.peakUsagePercentage =
        some 52428796 ∧
      TaskTable.boot.run [.init true, .register 1 (.ofString "Sensor") 100 5,
        .monitor fun _ => ⟨26, .blocked, 10⟩] = none :=
  ⟨by with_unfolding_all rfl, by with_unfolding_all rfl⟩

/-- Over every run that has an outcome, `debugTasksGetStats` copies out the slot of the first
watched registration whose name cut to fifteen bytes is the one asked for,
`debugTasksIsAlive` answers from the last state read for it (a task never monitored reads
as `eRunning`), and a name of sixteen bytes or more is never found. -/
theorem tasks_lookup_law (calls : List TaskCall) (t : TaskTable)
    (ran : TaskTable.boot.run calls = some t) (name : CString) (statsGiven : Bool) :
    let log := TaskLog.boot.run calls
    Option.Rel (fun task entry => task.Watches entry.1 entry.2)
        (t.debugTasksGetStats name statsGiven)
        (if log.mutex && statsGiven then log.find name else none) ∧
      t.debugTasksIsAlive name = (log.mutex && (log.find name).any fun entry =>
        (entry.2.getLast?.map TaskReading.state).getD .running != .deleted) ∧
      (taskNameLen ≤ name.bytes.length →
        t.debugTasksGetStats name statsGiven = none ∧ t.debugTasksIsAlive name = false) := by
  intro log
  have keeps : t.Keeps log := (TaskTable.Keeps.boot.run calls).2 t ran
  refine ⟨keeps.getStats name statsGiven, keeps.isAlive name, fun long => ⟨?_, ?_⟩⟩
  · have related := keeps.getStats name statsGiven
    rw [log.find_long long, ite_self] at related
    exact eq_none_of_rel_none related
  · rw [keeps.isAlive name, log.find_long long]
    simp

/-- Eight `é` are sixteen bytes: registered under them, a task is kept under fifteen bytes,
which end in half a character, and neither eight nor seven `é` find it. -/
theorem lookup_of_accented_name :
    let calls := [.init true, .register 1 (.ofString "éééééééé") 4096 5]
    (∃ t, TaskTable.boot.run calls = some t ∧
      let log := TaskLog.boot.run calls
      Option.Rel (fun task entry => task.Watches entry.1 entry.2)
          (t.debugTasksGetStats (.ofString "éééééééé") true)
          (if log.mutex && true then log.find (.ofString "éééééééé") else none) ∧
        t.debugTasksIsAlive (.ofString "éééééééé") = (log.mutex &&
          (log.find (.ofString "éééééééé")).any fun entry =>
            (entry.2.getLast?.map TaskReading.state).getD .running != .deleted) ∧
        (taskNameLen ≤ (CString.ofString "éééééééé").bytes.length →
          t.debugTasksGetStats (.ofString "éééééééé") true = none ∧
            t.debugTasksIsAlive (.ofString "éééééééé") = false)) ∧
      ((TaskTable.boot.run calls).bind fun t =>
        t.debugTasksGetStats (.ofString "ééééééé") true) = none := by
  intro calls
  have ran : (TaskTable.boot.run calls).isSome := by with_unfolding_all rfl
  exact ⟨⟨_, Option.eq_some_of_isSome ran,
    tasks_lookup_law _ _ (Option.eq_some_of_isSome ran) _ _⟩, by with_unfolding_all rfl⟩

/-- Over every run that has an outcome, `debugTasksRegister` succeeds exactly while the
mutex is there and fewer than ten tasks were registered since `debugTasksInit`, and
`debugTasksMonitor` has no outcome exactly when a watched usage reaches `2 ^ 32`, and
otherwise reports health exactly when no watched task's fresh usage reaches the warning
threshold. -/
theorem tasks_calls_answer (calls : List TaskCall) (t : TaskTable)
    (ran : TaskTable.boot.run calls = some t) :
    let log := TaskLog.boot.run calls
    (∀ handle name stackSize priority,
      (t.debugTasksRegister handle name stackSize priority).1 =
        (log.mutex && decide (log.registrations.length < maxTrackedTasks))) ∧
    ∀ read, (t.debugTasksMonitor read = none ↔ log.Undefined read) ∧
      ∀ healthy after, t.debugTasksMonitor read = some (healthy, after) →
        (healthy = true ↔ (log.mutex = true → ∀ i reg, log.watched[i]? = some reg →
          (stackUsage reg.stackSize (read i).hwmWords).atLeast taskUsageWarningThreshold =
            false)) := by
  intro log
  have keeps : t.Keeps log := (TaskTable.Keeps.boot.run calls).2 t ran
  exact ⟨keeps.register_answer, fun read => ⟨(keeps.monitor read).1,
    fun healthy after called => ((keeps.monitor read).2 healthy after called).2⟩⟩

/-- A task registered with an empty stack: a high-water mark of one word makes its usage
`+∞`, and the monitor call has no outcome. -/
theorem monitor_of_empty_stack :
    let calls := [.init true, .register 1 (.ofString "Idle") 0 5]
    (∃ t, TaskTable.boot.run calls = some t ∧
      let log := TaskLog.boot.run calls
      (∀ handle name stackSize priority,
        (t.debugTasksRegister handle name stackSize priority).1 =
          (log.mutex && decide (log.registrations.length < maxTrackedTasks))) ∧
      ∀ read, (t.debugTasksMonitor read = none ↔ log.Undefined read) ∧
        ∀ healthy after, t.debugTasksMonitor read = some (healthy, after) →
          (healthy = true ↔ (log.mutex = true → ∀ i reg, log.watched[i]? = some reg →
            (stackUsage reg.stackSize (read i).hwmWords).atLeast taskUsageWarningThreshold =
              false))) ∧
      stackUsage 0 1 = .infinity ∧
      ((TaskTable.boot.run calls).bind fun t => t.debugTasksMonitor fun _ => ⟨1, .running, 0⟩) =
        none := by
  intro calls
  have ran : (TaskTable.boot.run calls).isSome := by with_unfolding_all rfl
  exact ⟨⟨_, Option.eq_some_of_isSome ran,
    tasks_calls_answer _ _ (Option.eq_some_of_isSome ran)⟩, by with_unfolding_all rfl,
    by with_unfolding_all rfl⟩

end Mousetrap.Debug
