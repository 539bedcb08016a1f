import Mousetrap.Debug.Ring
import Mousetrap.Machine.CString

/-!
# Context snapshots

`debug_context.h` keeps its ring of snapshots in RTC memory, which a reboot keeps, and its
mutex in RAM, which a reboot loses until `debugContextInit` runs again.  Each function
returns at once while the mutex is missing.  The readings a snapshot records (the task,
`millis()`, the heap figures) are arguments.

The snapshots taken since the buffer was last cleared stand for the calls that took them:
`ContextLog` lists each call's label and readings, with the mutex that decides whether a
call takes effect.  Every call of the run keeps the ring on its log, and the printing and
reading functions then report, for the log's last calls, their labels cut to 47 bytes, their
`millis()` and heap readings, and a drop between the heap readings of the last two.
-/

namespace Mousetrap.Debug

open Mousetrap.Machine

/-- `MAX_SNAPSHOTS`. -/
def maxSnapshots : Nat := 10

/-- `SNAPSHOT_LABEL_LEN`. -/
def snapshotLabelLen : Nat := 48

/-- `CONTEXT_BUFFER_MAGIC`. -/
def contextBufferMagic : BitVec 32 := 0xC0FFEE42

/-- `ContextSnapshot`, its label and task name as `strncpy` leaves them. -/
structure ContextSnapshot where
  label : CString
  taskName : CString
  timestampMs : BitVec 32
  freeHeapBytes : BitVec 32
  freePsramBytes : BitVec 32
  minFreeHeapBytes : BitVec 32
  taskCount : BitVec 16
  coreId : BitVec 8
  deriving DecidableEq, Repr

/-- A zeroed `ContextSnapshot`. -/
def ContextSnapshot.zero : ContextSnapshot :=
  ⟨CString.empty, CString.empty, 0, 0, 0, 0, 0, 0⟩

/-- What `debugContextTakeSnapshot` reads from the system. -/
structure ContextReadings where
  taskName : CString
  timestampMs : BitVec 32
  freeHeapBytes : BitVec 32
  freePsramBytes : BitVec 32
  minFreeHeapBytes : BitVec 32
  taskCount : BitVec 16
  coreId : BitVec 8
  deriving DecidableEq, Repr

/-- Lines 110–128: the snapshot written for `label`. -/
def ContextReadings.snapshot (readings : ContextReadings) (label : CString) :
    ContextSnapshot :=
  ⟨label.cut (snapshotLabelLen - 1), readings.taskName.cut 15, readings.timestampMs,
    readings.freeHeapBytes, readings.freePsramBytes, readings.minFreeHeapBytes,
    readings.taskCount, readings.coreId⟩

/-- `ContextBuffer`: `snapshots`, `snapshot_index` and `snapshot_count` are its ring. -/
structure ContextBuffer where
  magic : BitVec 32
  ring : Ring ContextSnapshot
  totalSnapshotsTaken : BitVec 32
  firstSnapshotMs : BitVec 32
  lastSnapshotMs : BitVec 32
  deriving DecidableEq, Repr

/-- A zeroed `ContextBuffer` with its magic set to `magic`. -/
def ContextBuffer.cleared (magic : BitVec 32) : ContextBuffer :=
  ⟨magic, Ring.empty ContextSnapshot.zero maxSnapshots, 0, 0, 0⟩

/-- `g_context_buf` in RTC memory, and `g_context_mutex` and `g_context_initialized` in RAM. -/
structure ContextState where
  buf : ContextBuffer
  mutex : Bool
  initialized : Bool
  deriving DecidableEq, Repr

namespace ContextState

/-- `debugContextInit()`, `xSemaphoreCreateMutex` answering `created`. -/
def debugContextInit (st : ContextState) (created : Bool) : ContextState where
  buf := if st.buf.magic = contextBufferMagic then st.buf
    else ContextBuffer.cleared contextBufferMagic
  mutex := created
  initialized := true

/-- `debugContextTakeSnapshot(label)`. -/
def debugContextTakeSnapshot (st : ContextState) (label : CString)
    (readings : ContextReadings) : ContextState :=
  if !st.mutex then st
  else
    let snap := readings.snapshot label
    let buf := st.buf
    { st with buf := { buf with
      ring := buf.ring.push maxSnapshots snap
      totalSnapshotsTaken := buf.totalSnapshotsTaken + 1
      lastSnapshotMs := snap.timestampMs
      firstSnapshotMs := if buf.firstSnapshotMs = 0 then snap.timestampMs
        else buf.firstSnapshotMs } }

/-- What `debugContextPrintSnapshots()` prints: the lifetime total, the count, and the
snapshots the loop visits. -/
def debugContextPrintSnapshots (st : ContextState) :
    Option (BitVec 32 × BitVec 8 × List (Option ContextSnapshot)) :=
  if !st.mutex then none
  else some (st.buf.totalSnapshotsTaken, st.buf.ring.count,
    st.buf.ring.chronological maxSnapshots)

/-- The snapshots `debugContextPrintSummary()` prints, newest first. -/
def debugContextPrintSummary (st : ContextState) : Option (List (Option ContextSnapshot)) :=
  if !st.mutex then none else some (st.buf.ring.summary maxSnapshots)

/-- `debugContextGetLatest(snap)`: the snapshot it copies out, none where it returns false. -/
def debugContextGetLatest (st : ContextState) (snapGiven : Bool) : Option ContextSnapshot :=
  if !st.mutex || !snapGiven then none else st.buf.ring.latest maxSnapshots

/-- The default `threshold_bytes` of `debugContextDetectMemoryDrop`. -/
def defaultDropThreshold : BitVec 32 := 10240

/-- A drop of at least `threshold` in free heap from `previous` to `latest`. -/
def heapDropped (previous latest : ContextSnapshot) (threshold : BitVec 32) : Bool :=
  decide (previous.freeHeapBytes > latest.freeHeapBytes) &&
    decide (previous.freeHeapBytes - latest.freeHeapBytes ≥ threshold)

/-- `debugContextDetectMemoryDrop(threshold_bytes)`. -/
def debugContextDetectMemoryDrop (st : ContextState) (threshold : BitVec 32) : Bool :=
  if !st.mutex then false
  else if st.buf.ring.count.toNat ≥ 2 then
    match st.buf.ring.behind maxSnapshots 0, st.buf.ring.behind maxSnapshots 1 with
    | some latest, some previous => heapDropped previous latest threshold
    | _, _ => false
  else false

/-- `debugContextClear()`: everything zeroed but the magic and the lifetime total. -/
def debugContextClear (st : ContextState) : ContextState :=
  if !st.mutex then st
  else { st with buf := { ContextBuffer.cleared st.buf.magic with
    totalSnapshotsTaken := st.buf.totalSnapshotsTaken } }

/-- A reboot: RTC memory stays, the RAM globals start over. -/
def reboot (st : ContextState) : ContextState :=
  { st with mutex := false, initialized := false }

end ContextState

/-- A call on the snapshot system, or a reboot followed by `debugContextInit`. -/
inductive ContextCall where
  | takeSnapshot (label : CString) (readings : ContextReadings)
  | clear
  | reboot (created : Bool)
  deriving DecidableEq, Repr

def ContextState.step (st : ContextState) : ContextCall → ContextState
  | .takeSnapshot label readings => st.debugContextTakeSnapshot label readings
  | .clear => st.debugContextClear
  | .reboot created => st.reboot.debugContextInit created

def ContextState.run (st : ContextState) (calls : List ContextCall) : ContextState :=
  calls.foldl ContextState.step st

/-! ## The log the ring stands for -/

/-- A call of `debugContextTakeSnapshot`: its label and what it read. -/
structure ContextTake where
  label : CString
  readings : ContextReadings
  deriving DecidableEq, Repr

/-- The calls that took a snapshot since the last clear, and whether the mutex is there. -/
structure ContextLog where
  mutex : Bool
  history : List ContextTake

def ContextLog.step (log : ContextLog) : ContextCall → ContextLog
  | .takeSnapshot label readings =>
      if log.mutex then { log with history := log.history ++ [⟨label, readings⟩] } else log
  | .clear => if log.mutex then { log with history := [] } else log
  | .reboot created => { log with mutex := created }

def ContextLog.run (log : ContextLog) (calls : List ContextCall) : ContextLog :=
  calls.foldl ContextLog.step log

/-- The snapshot a call wrote. -/
def ContextTake.snapshot (take : ContextTake) : ContextSnapshot :=
  take.readings.snapshot take.label

/-- The state keeps its log: the same mutex, a valid magic, and the ring on the snapshots of
the log's calls. -/
structure ContextState.Keeps (st : ContextState) (log : ContextLog) : Prop where
  mutex : st.mutex = log.mutex
  magic : st.buf.magic = contextBufferMagic
  ring : st.buf.ring.Holds maxSnapshots (log.history.map ContextTake.snapshot)

theorem ContextState.Keeps.step {st : ContextState} {log : ContextLog} (keeps : st.Keeps log)
    (call : ContextCall) : (st.step call).Keeps (log.step call) := by
  obtain ⟨mutex, magic, ring⟩ := keeps
  cases call with
  | takeSnapshot label readings =>
      cases held : log.mutex <;>
        simp only [ContextState.step, ContextState.debugContextTakeSnapshot, ContextLog.step,
          mutex, held, Bool.not_false, Bool.not_true, Bool.false_eq_true, if_true, if_false]
      · exact ⟨mutex, magic, ring⟩
      · refine ⟨rfl, magic, ?_⟩
        rw [List.map_append, List.map_singleton]
        exact ring.push (by decide) (by decide) _
  | clear =>
      cases held : log.mutex <;>
        simp only [ContextState.step, ContextState.debugContextClear, ContextLog.step, mutex,
          held, Bool.not_false, Bool.not_true, Bool.false_eq_true, if_true, if_false]
      · exact ⟨mutex, magic, ring⟩
      · exact ⟨rfl, magic, Ring.holds_empty _ _⟩
  | reboot created =>
      simp only [ContextState.step, ContextState.reboot, ContextState.debugContextInit,
        ContextLog.step, magic, if_true]
      exact ⟨rfl, magic, ring⟩

theorem ContextState.Keeps.run {st : ContextState} {log : ContextLog} (keeps : st.Keeps log)
    (calls : List ContextCall) : (st.run calls).Keeps (log.run calls) := by
  induction calls generalizing st log with
  | nil => exact keeps
  | cons call calls induction => exact induction (keeps.step call)

theorem ContextState.keeps_init {st : ContextState} (invalid : st.buf.magic ≠ contextBufferMagic)
    (created : Bool) : (st.debugContextInit created).Keeps ⟨created, []⟩ := by
  simp only [ContextState.debugContextInit, invalid, if_false]
  exact ⟨rfl, rfl, Ring.holds_empty _ _⟩

/-- A snapshot records a call: its label and the task's name as `strncpy` cuts them, and
the readings as they were taken. -/
structure ContextSnapshot.Records (snap : ContextSnapshot) (take : ContextTake) : Prop where
  label : snap.label.bytes = take.label.bytes.take 47
  taskName : snap.taskName.bytes = take.readings.taskName.bytes.take 15
  timestampMs : snap.timestampMs = take.readings.timestampMs
  freeHeapBytes : snap.freeHeapBytes = take.readings.freeHeapBytes
  freePsramBytes : snap.freePsramBytes = take.readings.freePsramBytes
  minFreeHeapBytes : snap.minFreeHeapBytes = take.readings.minFreeHeapBytes
  taskCount : snap.taskCount = take.readings.taskCount
  coreId : snap.coreId = take.readings.coreId

theorem ContextTake.snapshot_records (take : ContextTake) : take.snapshot.Records take :=
  ⟨rfl, rfl, rfl, rfl, rfl, rfl, rfl, rfl⟩

theorem ContextTake.forall₂_records (takes : List ContextTake) :
    List.Forall₂ (fun slot take => ∃ snap, slot = some snap ∧ snap.Records take)
      ((takes.map ContextTake.snapshot).map some) takes := by
  induction takes with
  | nil => exact .nil
  | cons take takes induction => exact .cons ⟨_, rfl, take.snapshot_records⟩ induction

/-- What the reading functions report from a state that keeps its log, against the calls
`history` that took the snapshots since the last clear. -/
structure ContextLaw (st : ContextState) (history : List ContextTake) : Prop where
  shape : st.buf.ring.index.toNat < maxSnapshots ∧ st.buf.ring.count.toNat ≤ maxSnapshots ∧
    (st.buf.ring.count.toNat < maxSnapshots → st.buf.ring.index.toNat = st.buf.ring.count.toNat)
  printed : st.mutex = true → ∃ total shown, st.debugContextPrintSnapshots =
      some (total, BitVec.ofNat 8 (min history.length maxSnapshots), shown) ∧
    List.Forall₂ (fun slot take => ∃ snap, slot = some snap ∧ snap.Records take) shown
      (history.drop (history.length - min history.length maxSnapshots))
  summary : st.mutex = true → ∃ shown, st.debugContextPrintSummary = some shown ∧
    List.Forall₂ (fun slot take => ∃ snap, slot = some snap ∧ snap.Records take) shown
      (history.reverse.take 3)
  latest : st.mutex = true →
    Option.Rel ContextSnapshot.Records (st.debugContextGetLatest true) history.getLast?
  memoryDrop : ∀ threshold, st.mutex = true →
    st.debugContextDetectMemoryDrop threshold =
      match history.reverse with
      | latest :: previous :: _ =>
          decide (latest.readings.freeHeapBytes.toNat < previous.readings.freeHeapBytes.toNat ∧
            threshold.toNat + latest.readings.freeHeapBytes.toNat ≤
              previous.readings.freeHeapBytes.toNat)
      | _ => false

theorem heapDropped_snapshot (previous latest : ContextTake) (threshold : BitVec 32) :
    ContextState.heapDropped previous.snapshot latest.snapshot threshold =
      decide (latest.readings.freeHeapBytes.toNat < previous.readings.freeHeapBytes.toNat ∧
        threshold.toNat + latest.readings.freeHeapBytes.toNat ≤
          previous.readings.freeHeapBytes.toNat) := by
  simp only [ContextState.heapDropped, ContextTake.snapshot, ContextReadings.snapshot,
    Bool.decide_and, BitVec.lt_def, BitVec.le_def]
  by_cases lower : latest.readings.freeHeapBytes.toNat < previous.readings.freeHeapBytes.toNat
  · rw [BitVec.toNat_sub_of_le (BitVec.le_def.mpr lower.le)]
    simp only [gt_iff_lt, lower, decide_True, Bool.true_and, ge_iff_le, true_and, decide_eq_decide]
    omega
  · simp [lower]

theorem ContextState.Keeps.law {st : ContextState} {log : ContextLog} (keeps : st.Keeps log) :
    ContextLaw st log.history := by
  obtain ⟨-, -, ring⟩ := keeps
  have positive : 0 < maxSnapshots := by decide
  have length : (log.history.map ContextTake.snapshot).length = log.history.length :=
    List.length_map _ _
  refine ⟨ring.shape positive, fun held => ⟨st.buf.totalSnapshotsTaken, _, ?_,
      ContextTake.forall₂_records _⟩,
    fun held => ⟨_, ?_, ContextTake.forall₂_records _⟩, fun held => ?_,
    fun threshold held => ?_⟩
  · have count : st.buf.ring.count = BitVec.ofNat 8 (min log.history.length maxSnapshots) := by
      rw [← length, ← ring.count, BitVec.ofNat_toNat, BitVec.setWidth_eq]
    simp [debugContextPrintSnapshots, held, ring.chronological, count, List.map_drop]
  · simp [debugContextPrintSummary, held, ring.summary (by decide), List.map_reverse,
      List.map_take]
  · simp only [debugContextGetLatest, held, Bool.not_true, Bool.not_false, Bool.or_self,
      Bool.false_eq_true, if_false, ring.latest positive, List.getLast?_map]
    cases log.history.getLast? with
    | none => exact .none
    | some take => exact .some take.snapshot_records
  · unfold debugContextDetectMemoryDrop
    rw [ring.count, length]
    match reversed : log.history.reverse with
    | [] | [_] =>
        have short : log.history.length < 2 := by
          rw [← List.length_reverse, reversed]
          simp
        simp [held, show ¬ 2 ≤ min log.history.length maxSnapshots by omega]
    | latest :: previous :: older =>
        have enough : 2 ≤ min log.history.length maxSnapshots := by
          rw [← List.length_reverse, reversed, maxSnapshots]
          simp only [List.length_cons]
          omega
        have mapped : (log.history.map ContextTake.snapshot).reverse =
            latest.snapshot :: previous.snapshot :: older.map ContextTake.snapshot := by
          rw [← List.map_reverse, reversed]
          rfl
        simp only [held, Bool.not_true, Bool.false_eq_true, if_false, enough, if_true,
          ring.behind (by rw [length]; omega : 0 < min _ maxSnapshots),
          ring.behind (by rw [length]; omega : 1 < min _ maxSnapshots), mapped,
          List.getElem?_cons_zero, List.getElem?_cons_succ]
        exact heapDropped_snapshot previous latest threshold

end Mousetrap.Debug
