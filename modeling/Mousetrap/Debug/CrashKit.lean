import Mousetrap.Debug.Context

/-!
# The crash kit

`debug_crashkit.h` keeps breadcrumbs, component statuses and the system state in RTC
memory, in the same ring layout as the context snapshots, with twenty slots.  Its init
counts a reboot when the magic is valid and clears the context otherwise.  The task
handle, `millis()` and the heap figures are arguments; `addBreadcrumb` reads `millis()`
twice.

As for the snapshots, every call of a run keeps the breadcrumb ring on the list of calls
that added a breadcrumb since the last clear, and `debugCrashKitPrintLastCrash` lists the
last twenty, oldest first: each with its function name cut to 31 bytes, its `millis()`
reading and the low byte of its task handle.
-/

namespace Mousetrap.Debug

open Mousetrap.Machine

/-- `MAX_BREADCRUMBS`. -/
def maxBreadcrumbs : Nat := 20

/-- `BREADCRUMB_NAME_LEN`. -/
def breadcrumbNameLen : Nat := 32

/-- `CRASH_CONTEXT_MAGIC`. -/
def crashContextMagic : BitVec 32 := 0xDEADBEEF

/-- `COMP_COUNT`. -/
def compCount : Nat := 6

/-- `Breadcrumb`. -/
structure Breadcrumb where
  functionName : CString
  timestampMs : BitVec 32
  taskId : BitVec 8
  deriving DecidableEq, Repr

def Breadcrumb.zero : Breadcrumb :=
  ⟨CString.empty, 0, 0⟩

/-- `ComponentStatus`. -/
inductive ComponentStatus where
  | unknown
  | initializing
  | running
  | error
  | disabled
  deriving DecidableEq, Repr

/-- `ComponentInfo`. -/
structure ComponentInfo where
  status : ComponentStatus
  lastError : CString
  lastUpdateMs : BitVec 32
  deriving DecidableEq, Repr

def ComponentInfo.zero : ComponentInfo :=
  ⟨.unknown, CString.empty, 0⟩

/-- `CrashContext`: `breadcrumbs`, `breadcrumb_index` and `breadcrumb_count` are its ring. -/
structure CrashContext where
  magic : BitVec 32
  ring : Ring Breadcrumb
  components : List ComponentInfo
  freeHeapBytes : BitVec 32
  freePsramBytes : BitVec 32
  lastUpdateMs : BitVec 32
  crashCount : BitVec 8
  lastResetReason : Int
  crashTimestampMs : BitVec 32
  deriving DecidableEq, Repr

/-- A zeroed `CrashContext` with its magic set to `magic`. -/
def CrashContext.cleared (magic : BitVec 32) : CrashContext :=
  ⟨magic, Ring.empty Breadcrumb.zero maxBreadcrumbs, List.replicate compCount ComponentInfo.zero,
    0, 0, 0, 0, 0, 0⟩

/-- `g_crash_ctx` in RTC memory, and `g_crash_mutex` and `g_crash_kit_initialized` in RAM. -/
structure CrashState where
  ctx : CrashContext
  mutex : Bool
  initialized : Bool
  deriving DecidableEq, Repr

namespace CrashState

/-- `debugCrashKitInit()`: `xSemaphoreCreateMutex` answering `created`, `esp_reset_reason()`
`reason` and `millis()` `now`. -/
def debugCrashKitInit (st : CrashState) (created : Bool) (reason : Int) (now : BitVec 32) :
    CrashState where
  ctx := if st.ctx.magic = crashContextMagic then
      { st.ctx with
        crashCount := st.ctx.crashCount + 1
        lastResetReason := reason
        crashTimestampMs := now }
    else CrashContext.cleared crashContextMagic
  mutex := created
  initialized := true

/-- `debugCrashKitAddBreadcrumb(function_name)`, the current task at `taskHandle` and
`millis()` read as `stampMs`, then `updateMs`. -/
def debugCrashKitAddBreadcrumb (st : CrashState) (functionName : CString)
    (taskHandle stampMs freeHeap freePsram updateMs : BitVec 32) : CrashState :=
  if !st.mutex then st
  else
    let crumb : Breadcrumb := ⟨functionName.cut (breadcrumbNameLen - 1), stampMs,
      (taskHandle &&& 0xFF).setWidth 8⟩
    { st with ctx := { st.ctx with
      ring := st.ctx.ring.push maxBreadcrumbs crumb
      freeHeapBytes := freeHeap
      freePsramBytes := freePsram
      lastUpdateMs := updateMs } }

/-- `debugCrashKitSetComponent(component, status, error_msg)` at `millis()` = `now`. -/
def debugCrashKitSetComponent (st : CrashState) (component : Nat) (status : ComponentStatus)
    (errorMsg : Option CString) (now : BitVec 32) : CrashState :=
  if !st.mutex || component ≥ compCount then st
  else
    let info : ComponentInfo := ⟨status, (errorMsg.map (·.cut 31)).getD CString.empty, now⟩
    { st with ctx := { st.ctx with components := st.ctx.components.set component info } }

/-- What `debugCrashKitPrintLastCrash()` prints: the count, the breadcrumbs the loop visits,
the components and the system state. -/
structure CrashReport where
  breadcrumbCount : BitVec 8
  breadcrumbs : List (Option Breadcrumb)
  components : List ComponentInfo
  freeHeapBytes : BitVec 32
  freePsramBytes : BitVec 32
  lastUpdateMs : BitVec 32
  deriving DecidableEq, Repr

/-- `debugCrashKitPrintLastCrash()`. -/
def debugCrashKitPrintLastCrash (st : CrashState) : Option CrashReport :=
  if !st.mutex then none
  else some ⟨st.ctx.ring.count, st.ctx.ring.chronological maxBreadcrumbs, st.ctx.components,
    st.ctx.freeHeapBytes, st.ctx.freePsramBytes, st.ctx.lastUpdateMs⟩

/-- `debugCrashKitClear()`: everything zeroed but the magic. -/
def debugCrashKitClear (st : CrashState) : CrashState :=
  if !st.mutex then st else { st with ctx := CrashContext.cleared st.ctx.magic }

/-- `debugCrashKitGetCrashCount()`. -/
def debugCrashKitGetCrashCount (st : CrashState) : BitVec 8 :=
  st.ctx.crashCount

/-- A reboot: RTC memory stays, the RAM globals start over. -/
def reboot (st : CrashState) : CrashState :=
  { st with mutex := false, initialized := false }

end CrashState

/-- A call on the crash kit, or a reboot followed by `debugCrashKitInit`. -/
inductive CrashCall where
  | addBreadcrumb (functionName : CString) (taskHandle stampMs freeHeap freePsram updateMs :
      BitVec 32)
  | setComponent (component : Nat) (status : ComponentStatus) (errorMsg : Option CString)
      (now : BitVec 32)
  | clear
  | reboot (created : Bool) (reason : Int) (now : BitVec 32)
  deriving DecidableEq, Repr

def CrashState.step (st : CrashState) : CrashCall → CrashState
  | .addBreadcrumb name handle stamp heap psram update =>
      st.debugCrashKitAddBreadcrumb name handle stamp heap psram update
  | .setComponent component status errorMsg now =>
      st.debugCrashKitSetComponent component status errorMsg now
  | .clear => st.debugCrashKitClear
  | .reboot created reason now => st.reboot.debugCrashKitInit created reason now

def CrashState.run (st : CrashState) (calls : List CrashCall) : CrashState :=
  calls.foldl CrashState.step st

/-! ## The breadcrumbs the ring stands for -/

/-- A call of `debugCrashKitAddBreadcrumb`: the name, the task handle and the `millis()`
reading stamped on the breadcrumb. -/
structure BreadcrumbAdd where
  functionName : CString
  taskHandle : BitVec 32
  stampMs : BitVec 32
  deriving DecidableEq, Repr

/-- The calls that added a breadcrumb since the last clear, and whether the mutex is
there. -/
structure CrashLog where
  mutex : Bool
  history : List BreadcrumbAdd

def CrashLog.step (log : CrashLog) : CrashCall → CrashLog
  | .addBreadcrumb name handle stamp _ _ _ =>
      if log.mutex then { log with history := log.history ++ [⟨name, handle, stamp⟩] } else log
  | .setComponent .. => log
  | .clear => if log.mutex then { log with history := [] } else log
  | .reboot created _ _ => { log with mutex := created }

def CrashLog.run (log : CrashLog) (calls : List CrashCall) : CrashLog :=
  calls.foldl CrashLog.step log

/-- The breadcrumb a call wrote. -/
def BreadcrumbAdd.crumb (add : BreadcrumbAdd) : Breadcrumb :=
  ⟨add.functionName.cut (breadcrumbNameLen - 1), add.stampMs, (add.taskHandle &&& 0xFF).setWidth 8⟩

structure CrashState.Keeps (st : CrashState) (log : CrashLog) : Prop where
  mutex : st.mutex = log.mutex
  magic : st.ctx.magic = crashContextMagic
  ring : st.ctx.ring.Holds maxBreadcrumbs (log.history.map BreadcrumbAdd.crumb)

theorem CrashState.Keeps.step {st : CrashState} {log : CrashLog} (keeps : st.Keeps log)
    (call : CrashCall) : (st.step call).Keeps (log.step call) := by
  obtain ⟨mutex, magic, ring⟩ := keeps
  cases call with
  | addBreadcrumb name handle stamp heap psram update =>
      cases held : log.mutex <;>
        simp only [CrashState.step, CrashState.debugCrashKitAddBreadcrumb, CrashLog.step, mutex,
          held, Bool.not_false, Bool.not_true, Bool.false_eq_true, if_true, if_false]
      · exact ⟨mutex, magic, ring⟩
      · refine ⟨rfl, magic, ?_⟩
        rw [List.map_append, List.map_singleton]
        exact ring.push (by decide) (by decide) _
  | setComponent component status errorMsg now =>
      simp only [CrashState.step, CrashState.debugCrashKitSetComponent, CrashLog.step]
      split <;> exact ⟨mutex, magic, ring⟩
  | clear =>
      cases held : log.mutex <;>
        simp only [CrashState.step, CrashState.debugCrashKitClear, CrashLog.step, mutex, held,
          Bool.not_false, Bool.not_true, Bool.false_eq_true, if_true, if_false]
      · exact ⟨mutex, magic, ring⟩
      · exact ⟨rfl, magic, Ring.holds_empty _ _⟩
  | reboot created reason now =>
      simp only [CrashState.step, CrashState.reboot, CrashState.debugCrashKitInit, CrashLog.step,
        magic, if_true]
      exact ⟨rfl, rfl, ring⟩

theorem CrashState.Keeps.run {st : CrashState} {log : CrashLog} (keeps : st.Keeps log)
    (calls : List CrashCall) : (st.run calls).Keeps (log.run calls) := by
  induction calls generalizing st log with
  | nil => exact keeps
  | cons call calls induction => exact induction (keeps.step call)

theorem CrashState.keeps_init {st : CrashState} (invalid : st.ctx.magic ≠ crashContextMagic)
    (created : Bool) (reason : Int) (now : BitVec 32) :
    (st.debugCrashKitInit created reason now).Keeps ⟨created, []⟩ := by
  simp only [CrashState.debugCrashKitInit, invalid, if_false]
  exact ⟨rfl, rfl, Ring.holds_empty _ _⟩

/-- A breadcrumb records a call: the name as `strncpy` cuts it, the stamp, and the low byte
of the task handle. -/
structure Breadcrumb.Records (crumb : Breadcrumb) (add : BreadcrumbAdd) : Prop where
  functionName : crumb.functionName.bytes = add.functionName.bytes.take 31
  timestampMs : crumb.timestampMs = add.stampMs
  taskId : crumb.taskId.toNat = add.taskHandle.toNat % 256

theorem BreadcrumbAdd.crumb_records (add : BreadcrumbAdd) : add.crumb.Records add := by
  refine ⟨rfl, rfl, ?_⟩
  simp only [BreadcrumbAdd.crumb, BitVec.toNat_setWidth, BitVec.toNat_and]
  rw [show (0xFF : BitVec 32).toNat = 2 ^ 8 - 1 from rfl, Nat.and_pow_two_sub_one_eq_mod,
    Nat.mod_mod_of_dvd _ (by decide)]

/-- What the crash report lists from a state that keeps its log, against the calls
`history` that added breadcrumbs since the last clear. -/
structure CrashLaw (st : CrashState) (history : List BreadcrumbAdd) : Prop where
  shape : st.ctx.ring.index.toNat < maxBreadcrumbs ∧
    st.ctx.ring.count.toNat ≤ maxBreadcrumbs ∧
    (st.ctx.ring.count.toNat < maxBreadcrumbs →
      st.ctx.ring.index.toNat = st.ctx.ring.count.toNat)
  printed : st.mutex = true → ∃ report, st.debugCrashKitPrintLastCrash = some report ∧
    report.breadcrumbCount.toNat = min history.length maxBreadcrumbs ∧
    List.Forall₂ (fun slot add => ∃ crumb, slot = some crumb ∧ crumb.Records add)
      report.breadcrumbs (history.drop (history.length - min history.length maxBreadcrumbs))

theorem BreadcrumbAdd.forall₂_records (adds : List BreadcrumbAdd) :
    List.Forall₂ (fun slot add => ∃ crumb, slot = some crumb ∧ crumb.Records add)
      ((adds.map BreadcrumbAdd.crumb).map some) adds := by
  induction adds with
  | nil => exact .nil
  | cons add adds induction => exact .cons ⟨_, rfl, add.crumb_records⟩ induction

theorem CrashState.Keeps.law {st : CrashState} {log : CrashLog} (keeps : st.Keeps log) :
    CrashLaw st log.history := by
  have length : (log.history.map BreadcrumbAdd.crumb).length = log.history.length :=
    List.length_map _ _
  refine ⟨keeps.ring.shape (by decide), fun held =>
    ⟨⟨st.ctx.ring.count, st.ctx.ring.chronological maxBreadcrumbs, st.ctx.components,
      st.ctx.freeHeapBytes, st.ctx.freePsramBytes, st.ctx.lastUpdateMs⟩,
      by simp [CrashState.debugCrashKitPrintLastCrash, held], by rw [keeps.ring.count, length],
      ?_⟩⟩
  rw [keeps.ring.chronological, length, ← List.map_drop]
  exact BreadcrumbAdd.forall₂_records _

/-! ## The crash count -/

/-- The reboots since the context was last cleared or first initialised, and whether the
mutex is there. -/
structure CrashTally where
  mutex : Bool
  reboots : Nat

def CrashTally.step (tally : CrashTally) : CrashCall → CrashTally
  | .clear => if tally.mutex then { tally with reboots := 0 } else tally
  | .reboot created _ _ => ⟨created, tally.reboots + 1⟩
  | _ => tally

def CrashTally.run (tally : CrashTally) (calls : List CrashCall) : CrashTally :=
  calls.foldl CrashTally.step tally

/-- The context counts the tally's reboots in its `uint8_t` `crash_count`: every reboot,
whatever its reset reason. -/
structure CrashState.Counts (st : CrashState) (tally : CrashTally) : Prop where
  mutex : st.mutex = tally.mutex
  magic : st.ctx.magic = crashContextMagic
  crashCount : st.ctx.crashCount.toNat = tally.reboots % 2 ^ 8

theorem CrashState.Counts.step {st : CrashState} {tally : CrashTally} (counts : st.Counts tally)
    (call : CrashCall) : (st.step call).Counts (tally.step call) := by
  obtain ⟨mutex, magic, crashCount⟩ := counts
  cases call with
  | addBreadcrumb name handle stamp heap psram update =>
      simp only [CrashState.step, CrashState.debugCrashKitAddBreadcrumb, CrashTally.step]
      split <;> exact ⟨mutex, magic, crashCount⟩
  | setComponent component status errorMsg now =>
      simp only [CrashState.step, CrashState.debugCrashKitSetComponent, CrashTally.step]
      split <;> exact ⟨mutex, magic, crashCount⟩
  | clear =>
      cases held : tally.mutex <;>
        simp only [CrashState.step, CrashState.debugCrashKitClear, CrashTally.step, mutex, held,
          Bool.not_false, Bool.not_true, Bool.false_eq_true, if_true, if_false]
      · exact ⟨mutex, magic, crashCount⟩
      · exact ⟨rfl, magic, rfl⟩
  | reboot created reason now =>
      simp only [CrashState.step, CrashState.reboot, CrashState.debugCrashKitInit,
        CrashTally.step, magic, if_true]
      refine ⟨rfl, rfl, ?_⟩
      rw [BitVec.toNat_add, crashCount, Nat.mod_add_mod]
      rfl

theorem CrashState.Counts.run {st : CrashState} {tally : CrashTally} (counts : st.Counts tally)
    (calls : List CrashCall) : (st.run calls).Counts (tally.run calls) := by
  induction calls generalizing st tally with
  | nil => exact counts
  | cons call calls induction => exact induction (counts.step call)

/-- From `debugCrashKitInit` on a context without the magic, through any calls and reboots,
`debugCrashKitGetCrashCount` is the number of reboots since the context was last cleared or
first initialised, modulo 256. -/
theorem crashCount_counts_reboots {crash : CrashState}
    (invalid : crash.ctx.magic ≠ crashContextMagic) (created : Bool) (reason : Int)
    (now : BitVec 32) (calls : List CrashCall) :
    ((crash.debugCrashKitInit created reason now).run calls).debugCrashKitGetCrashCount.toNat =
      (CrashTally.run ⟨created, 0⟩ calls).reboots % 2 ^ 8 :=
  have start : (crash.debugCrashKitInit created reason now).Counts ⟨created, 0⟩ := by
    simp only [CrashState.debugCrashKitInit, invalid, if_false]
    exact ⟨rfl, rfl, rfl⟩
  (start.run calls).crashCount

/-- A first boot, a reboot without the mutex, a clear the missing mutex ignores, and a
second reboot. -/
theorem crashCount_after_two_reboots :
    ((CrashState.mk (CrashContext.cleared 0) false false |>.debugCrashKitInit true 1 0).run
        [.reboot false 3 5, .clear, .reboot true 3 9]).debugCrashKitGetCrashCount.toNat =
      (CrashTally.run ⟨true, 0⟩ [.reboot false 3 5, .clear, .reboot true 3 9]).reboots %
        2 ^ 8 :=
  crashCount_counts_reboots (by decide) true 1 0 _

/-- From `debugContextInit` and `debugCrashKitInit` on buffers without their magic, through
any calls and reboots, both rings keep their shape, and every reading function reports the
calls made since the last clear: the print loops the last `min n capacity` oldest first, the
summary the last three newest first, the latest snapshot the last one, each with the label
and readings of its call, and the memory check the heap readings of the last two. -/
theorem rtc_rings_report_recent_entries {context : ContextState}
    (contextInvalid : context.buf.magic ≠ contextBufferMagic) (contextCreated : Bool)
    (contextCalls : List ContextCall) {crash : CrashState}
    (crashInvalid : crash.ctx.magic ≠ crashContextMagic) (crashCreated : Bool) (reason : Int)
    (now : BitVec 32) (crashCalls : List CrashCall) :
    ContextLaw ((context.debugContextInit contextCreated).run contextCalls)
        (ContextLog.run ⟨contextCreated, []⟩ contextCalls).history ∧
      CrashLaw ((crash.debugCrashKitInit crashCreated reason now).run crashCalls)
        (CrashLog.run ⟨crashCreated, []⟩ crashCalls).history :=
  ⟨((ContextState.keeps_init contextInvalid contextCreated).run contextCalls).law,
    ((CrashState.keeps_init crashInvalid crashCreated reason now).run crashCalls).law⟩

/-- Eleven snapshots and two breadcrumbs around a reboot, on fresh buffers. -/
theorem rtc_rings_on_fresh_buffers :
    ContextLaw ((ContextState.mk (ContextBuffer.cleared 0) false false |>.debugContextInit
          true).run ((List.range 11).map fun time =>
        .takeSnapshot (.ofString "a") ⟨.ofString "t", BitVec.ofNat 32 time, 0, 0, 0, 1, 0⟩))
        (ContextLog.run ⟨true, []⟩ ((List.range 11).map fun time =>
          .takeSnapshot (.ofString "a") ⟨.ofString "t", BitVec.ofNat 32 time, 0, 0, 0, 1, 0⟩)).history ∧
      CrashLaw
        ((CrashState.mk (CrashContext.cleared 0) false false |>.debugCrashKitInit true 1 0).run
          [.addBreadcrumb (.ofString "f") 7 1 0 0 1, .reboot true 3 5,
            .addBreadcrumb (.ofString "g") 7 6 0 0 6])
        (CrashLog.run ⟨true, []⟩
          [.addBreadcrumb (.ofString "f") 7 1 0 0 1, .reboot true 3 5,
            .addBreadcrumb (.ofString "g") 7 6 0 0 6]).history :=
  rtc_rings_report_recent_entries (by decide) true _ (by decide) true 1 0 _

end Mousetrap.Debug
