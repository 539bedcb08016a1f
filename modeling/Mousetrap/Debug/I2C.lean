import Mousetrap.Debug.Framebuffer
import Mousetrap.Machine.Binary32

/-!
# The I2C health monitor

`debug_i2c.h` keeps, for each of the three sensor types, the counters of the transactions
bracketed by `debugI2CTransactionStart` and `debugI2CTransactionEnd`, the current and the
longest failure streak, and a health flag, in `g_i2c_sensors` behind `g_i2c_mutex`.  Every
call but `debugI2CSetSensorAddress` returns at once while the mutex is missing.  The
`micros()` and `millis()` readings are arguments; the success rate is the `float` the code
computes, each operation rounded with `round32`.

What the counters stand for is a proof-only log: the starts and the outcomes recorded for
each sensor since its statistics were last cleared.  Every call keeps each entry on its
log: the counters are the numbers of starts, successes, failures and failures of each error
type, modulo `2 ^ 32`; the streak is the number of failures since the last success, never
above the recorded maximum; and a streak of five or more has cleared the health flag.
-/

namespace Mousetrap.Debug

open Mousetrap.Machine

/-- `I2C_SENSOR_COUNT`: `I2C_SENSOR_VL6180X`, `I2C_SENSOR_VL53L0X` and `I2C_SENSOR_UNKNOWN`
are `0`, `1` and `2`. -/
def i2cSensorCount : Nat := 3

/-- `I2C_HANG_THRESHOLD_MS`. -/
def i2cHangThresholdMs : Nat := 5000

/-- `I2C_FAILURE_STREAK_WARN`. -/
def i2cFailureStreakWarn : Nat := 5

/-- `I2CStats`. -/
structure I2CStats where
  totalTransactions : BitVec 32
  successfulTransactions : BitVec 32
  failedTransactions : BitVec 32
  timeoutErrors : BitVec 32
  nackErrors : BitVec 32
  busErrors : BitVec 32
  successRatePercentage : ℚ
  lastSuccessMs : BitVec 32
  lastFailureMs : BitVec 32
  longestTransactionUs : BitVec 32
  totalTransactionTimeUs : BitVec 32
  consecutiveFailures : BitVec 32
  maxConsecutiveFailures : BitVec 32
  busHealthy : Bool
  deriving DecidableEq, Repr

/-- Zeroed statistics with `bus_healthy = true`: what `debugI2CInit` and `debugI2CReset`
leave. -/
def I2CStats.healthy : I2CStats :=
  ⟨0, 0, 0, 0, 0, 0, 0, 0, 0, 0, 0, 0, 0, true⟩

/-- `I2CSensorStats`. -/
structure I2CSensorStats where
  stats : I2CStats
  address : BitVec 8
  name : List Char
  transactionStartUs : BitVec 32
  deriving DecidableEq, Repr

/-- `g_i2c_sensors[I2C_SENSOR_COUNT]`, and whether `g_i2c_mutex` is set. -/
structure I2CMonitor where
  sensors : List I2CSensorStats
  mutex : Bool
  length_sensors : sensors.length = i2cSensorCount
  deriving DecidableEq

/-- `debugI2CInit()`, `xSemaphoreCreateMutex` answering `created`. -/
def debugI2CInit (created : Bool) : I2CMonitor where
  sensors := ["VL6180X".toList, "VL53L0X".toList, "Unknown".toList].map fun name =>
    ⟨I2CStats.healthy, 0, name, 0⟩
  mutex := created
  length_sensors := rfl

namespace I2CSensorStats

/-- Lines 122–123: the start time, and one more transaction. -/
def transactionStart (entry : I2CSensorStats) (nowUs : BitVec 32) : I2CSensorStats :=
  { entry with
    stats := { entry.stats with totalTransactions := entry.stats.totalTransactions + 1 }
    transactionStartUs := nowUs }

/-- Lines 151–178 at `millis()` = `nowMs`: a success, or a failure with its streak, its
error type and the warning from `I2C_FAILURE_STREAK_WARN` failures on.  The cases of the
`switch` are exclusive, so each counter is raised by its own case. -/
def recordOutcome (stats : I2CStats) (success : Bool) (errorType : BitVec 8)
    (nowMs : BitVec 32) : I2CStats :=
  if success then
    { stats with
      successfulTransactions := stats.successfulTransactions + 1
      lastSuccessMs := nowMs
      consecutiveFailures := 0
      busHealthy := true }
  else
    let consecutiveFailures := stats.consecutiveFailures + 1
    { stats with
      failedTransactions := stats.failedTransactions + 1
      lastFailureMs := nowMs
      consecutiveFailures
      maxConsecutiveFailures := if consecutiveFailures > stats.maxConsecutiveFailures then
          consecutiveFailures
        else stats.maxConsecutiveFailures
      timeoutErrors := if errorType = 1 then stats.timeoutErrors + 1 else stats.timeoutErrors
      nackErrors := if errorType = 2 then stats.nackErrors + 1 else stats.nackErrors
      busErrors := if errorType = 3 then stats.busErrors + 1 else stats.busErrors
      busHealthy := if consecutiveFailures.toNat ≥ i2cFailureStreakWarn then false
        else stats.busHealthy }

/-- Lines 144–184, at `micros()` = `nowUs` and then `millis()` = `nowMs`: the transaction
time, the outcome, and the success rate over the transactions started, as the `float`
`(100.0f * successful_transactions) / total_transactions`. -/
def transactionEnd (entry : I2CSensorStats) (success : Bool) (errorType : BitVec 8)
    (nowUs nowMs : BitVec 32) : I2CSensorStats :=
  let elapsed := nowUs - entry.transactionStartUs
  let stats := recordOutcome
    { entry.stats with
      totalTransactionTimeUs := entry.stats.totalTransactionTimeUs + elapsed
      longestTransactionUs := if elapsed > entry.stats.longestTransactionUs then elapsed
        else entry.stats.longestTransactionUs }
    success errorType nowMs
  { entry with stats := { stats with
    successRatePercentage := if stats.totalTransactions > 0 then
        round32 (round32 (100 * round32 stats.successfulTransactions.toNat) /
          round32 stats.totalTransactions.toNat)
      else stats.successRatePercentage } }

/-- One pass of the loop of lines 201–226, at `millis()` = `nowMs`: a used sensor fails
when `I2C_HANG_THRESHOLD_MS` passed since a recorded success, or when more than ten
transactions succeeded less than half the time; a failing sensor loses its flag. -/
def checkHealth (entry : I2CSensorStats) (nowMs : BitVec 32) : I2CSensorStats × Bool :=
  let stats := entry.stats
  let hung := decide (0 < stats.lastSuccessMs.toNat) &&
    decide (i2cHangThresholdMs < (nowMs - stats.lastSuccessMs).toNat)
  let failing := decide (stats.successRatePercentage < 50) &&
    decide (10 < stats.totalTransactions.toNat)
  if stats.totalTransactions = 0 then (entry, true)
  else if hung || failing then ({ entry with stats := { stats with busHealthy := false } }, false)
  else (entry, true)

/-- Lines 295–303 and 308–316: the entry zeroed but for its address and its name, with a
healthy bus. -/
def cleared (entry : I2CSensorStats) : I2CSensorStats :=
  ⟨I2CStats.healthy, entry.address, entry.name, 0⟩

end I2CSensorStats

namespace I2CMonitor

/-- The monitor with `f` applied to the entry of `sensor`. -/
def modifySensor (m : I2CMonitor) (sensor : Nat) (f : I2CSensorStats → I2CSensorStats) :
    I2CMonitor where
  sensors := m.sensors.modify f sensor
  mutex := m.mutex
  length_sensors := by rw [List.length_modify, m.length_sensors]

/-- `debugI2CSetSensorAddress(sensor, address)`, which goes on without the mutex. -/
def debugI2CSetSensorAddress (m : I2CMonitor) (sensor : Nat) (address : BitVec 8) :
    I2CMonitor :=
  if sensor < i2cSensorCount then m.modifySensor sensor fun entry => { entry with address }
  else m

/-- `debugI2CTransactionStart(sensor)` at `micros()` = `nowUs`. -/
def debugI2CTransactionStart (m : I2CMonitor) (sensor : Nat) (nowUs : BitVec 32) :
    I2CMonitor :=
  if sensor < i2cSensorCount ∧ m.mutex then
    m.modifySensor sensor fun entry => entry.transactionStart nowUs
  else m

/-- `debugI2CTransactionEnd(sensor, success, error_type)`. -/
def debugI2CTransactionEnd (m : I2CMonitor) (sensor : Nat) (success : Bool)
    (errorType : BitVec 8) (nowUs nowMs : BitVec 32) : I2CMonitor :=
  if sensor < i2cSensorCount ∧ m.mutex then
    m.modifySensor sensor fun entry => entry.transactionEnd success errorType nowUs nowMs
  else m

/-- `debugI2CCheckHealth()`, reading `millis()` as `clock i` at sensor `i`: whether every
used sensor passed, and the monitor with the flags of the failing ones cleared. -/
def debugI2CCheckHealth (m : I2CMonitor) (clock : Nat → BitVec 32) : Bool × I2CMonitor :=
  if m.mutex then
    ((m.sensors.mapIdx fun i entry => (entry.checkHealth (clock i)).2).all id,
      { m with
        sensors := m.sensors.mapIdx fun i entry => (entry.checkHealth (clock i)).1
        length_sensors := by rw [List.length_mapIdx, m.length_sensors] })
  else (true, m)

/-- `debugI2CReset(sensor)`: `I2C_SENSOR_COUNT` clears every sensor. -/
def debugI2CReset (m : I2CMonitor) (sensor : Nat) : I2CMonitor :=
  if !m.mutex then m
  else if sensor = i2cSensorCount then
    { m with
      sensors := m.sensors.map I2CSensorStats.cleared
      length_sensors := by rw [List.length_map, m.length_sensors] }
  else if sensor < i2cSensorCount then m.modifySensor sensor I2CSensorStats.cleared
  else m

end I2CMonitor

/-- A call on the monitor, with the readings it takes. -/
inductive I2CCall where
  | setSensorAddress (sensor : Nat) (address : BitVec 8)
  | transactionStart (sensor : Nat) (nowUs : BitVec 32)
  | transactionEnd (sensor : Nat) (success : Bool) (errorType : BitVec 8)
      (nowUs nowMs : BitVec 32)
  | checkHealth (clock : Nat → BitVec 32)
  | reset (sensor : Nat)

def I2CMonitor.step (m : I2CMonitor) : I2CCall → I2CMonitor
  | .setSensorAddress sensor address => m.debugI2CSetSensorAddress sensor address
  | .transactionStart sensor nowUs => m.debugI2CTransactionStart sensor nowUs
  | .transactionEnd sensor success errorType nowUs nowMs =>
      m.debugI2CTransactionEnd sensor success errorType nowUs nowMs
  | .checkHealth clock => (m.debugI2CCheckHealth clock).2
  | .reset sensor => m.debugI2CReset sensor

def I2CMonitor.run (m : I2CMonitor) (calls : List I2CCall) : I2CMonitor :=
  calls.foldl I2CMonitor.step m

/-! ## What the counters record -/

/-- An event a sensor's counters record: a transaction started, or one ended with its
outcome and error type. -/
inductive I2CEvent where
  | started
  | ended (success : Bool) (errorType : BitVec 8)
  deriving DecidableEq, Repr

def I2CEvent.succeeded : I2CEvent → Bool
  | .ended success _ => success
  | .started => false

def I2CEvent.failed : I2CEvent → Bool
  | .ended success _ => !success
  | .started => false

/-- The failures since the last success. -/
def failureStreak (events : List I2CEvent) : Nat :=
  events.foldl (fun streak event =>
    match event with
    | .started => streak
    | .ended true _ => 0
    | .ended false _ => streak + 1) 0

theorem failureStreak_snoc (events : List I2CEvent) (event : I2CEvent) :
    failureStreak (events ++ [event]) =
      match event with
      | .started => failureStreak events
      | .ended true _ => 0
      | .ended false _ => failureStreak events + 1 := by
  simp only [failureStreak, List.foldl_append, List.foldl_cons, List.foldl_nil]

/-- The events recorded for each sensor since its statistics were last cleared, and whether
the mutex is there. -/
structure I2CLog where
  mutex : Bool
  events : Nat → List I2CEvent

/-- A start or an end on `sensor`, recorded when the monitor takes it. -/
def I2CLog.record (log : I2CLog) (sensor : Nat) (event : I2CEvent) : I2CLog :=
  if sensor < i2cSensorCount ∧ log.mutex then
    { log with events := Function.update log.events sensor (log.events sensor ++ [event]) }
  else log

def I2CLog.step (log : I2CLog) : I2CCall → I2CLog
  | .transactionStart sensor _ => log.record sensor .started
  | .transactionEnd sensor success errorType _ _ => log.record sensor (.ended success errorType)
  | .reset sensor =>
      if !log.mutex then log
      else if sensor = i2cSensorCount then { log with events := fun _ => [] }
      else if sensor < i2cSensorCount then
        { log with events := Function.update log.events sensor [] }
      else log
  | .setSensorAddress .. => log
  | .checkHealth _ => log

def I2CLog.run (log : I2CLog) (calls : List I2CCall) : I2CLog :=
  calls.foldl I2CLog.step log

/-- What a sensor's statistics say about the events recorded for it: the counters count
them modulo `2 ^ 32`, the streak is the failures since the last success and stays within
its maximum, and a streak of `I2C_FAILURE_STREAK_WARN` or more has cleared the flag. -/
structure I2CStats.Records (stats : I2CStats) (events : List I2CEvent) : Prop where
  total : stats.totalTransactions.toNat = events.count .started % 2 ^ 32
  successful : stats.successfulTransactions.toNat = events.countP I2CEvent.succeeded % 2 ^ 32
  failed : stats.failedTransactions.toNat = events.countP I2CEvent.failed % 2 ^ 32
  timeouts : stats.timeoutErrors.toNat = events.count (.ended false 1) % 2 ^ 32
  nacks : stats.nackErrors.toNat = events.count (.ended false 2) % 2 ^ 32
  busErrors : stats.busErrors.toNat = events.count (.ended false 3) % 2 ^ 32
  streak : stats.consecutiveFailures.toNat = failureStreak events % 2 ^ 32
  streak_le_max : stats.consecutiveFailures.toNat ≤ stats.maxConsecutiveFailures.toNat
  unhealthy : i2cFailureStreakWarn ≤ stats.consecutiveFailures.toNat → stats.busHealthy = false

theorem toNat_add_one_of_mod {counter : BitVec 32} {count : Nat}
    (counts : counter.toNat = count % 2 ^ 32) : (counter + 1).toNat = (count + 1) % 2 ^ 32 := by
  rw [toNat_add_one, counts, Nat.mod_add_mod]

namespace I2CStats.Records

variable {stats : I2CStats} {events : List I2CEvent}

theorem healthy : I2CStats.healthy.Records [] :=
  ⟨rfl, rfl, rfl, rfl, rfl, rfl, rfl, le_refl _, fun streak => absurd streak (by decide)⟩

theorem transactionStart (records : stats.Records events) :
    { stats with totalTransactions := stats.totalTransactions + 1 }.Records
      (events ++ [I2CEvent.started]) where
  total := by
    rw [List.count_append, List.count_singleton_self]
    exact toNat_add_one_of_mod records.total
  successful := by simpa [List.countP_append, I2CEvent.succeeded] using records.successful
  failed := by simpa [List.countP_append, I2CEvent.failed] using records.failed
  timeouts := by simpa [List.count_append] using records.timeouts
  nacks := by simpa [List.count_append] using records.nacks
  busErrors := by simpa [List.count_append] using records.busErrors
  streak := by simpa [failureStreak_snoc] using records.streak
  streak_le_max := records.streak_le_max
  unhealthy := records.unhealthy

theorem recordOutcome_success (records : stats.Records events) (errorType : BitVec 8)
    (nowMs : BitVec 32) :
    (I2CSensorStats.recordOutcome stats true errorType nowMs).Records
      (events ++ [I2CEvent.ended true errorType]) where
  total := by simpa [List.count_append] using records.total
  successful := by
    simp only [List.countP_append, List.countP_singleton, I2CEvent.succeeded, if_true]
    exact toNat_add_one_of_mod records.successful
  failed := by simpa [List.countP_append, I2CEvent.failed] using records.failed
  timeouts := by simpa [List.count_append] using records.timeouts
  nacks := by simpa [List.count_append] using records.nacks
  busErrors := by simpa [List.count_append] using records.busErrors
  streak := by simp [I2CSensorStats.recordOutcome, failureStreak_snoc]
  streak_le_max := by simp [I2CSensorStats.recordOutcome]
  unhealthy := by simp [I2CSensorStats.recordOutcome, i2cFailureStreakWarn]

theorem recordOutcome_failure (records : stats.Records events) (errorType : BitVec 8)
    (nowMs : BitVec 32) :
    (I2CSensorStats.recordOutcome stats false errorType nowMs).Records
      (events ++ [I2CEvent.ended false errorType]) := by
  have typed : ∀ (kind : BitVec 8) (counter : BitVec 32),
      counter.toNat = events.count (.ended false kind) % 2 ^ 32 →
        (if errorType = kind then counter + 1 else counter).toNat =
          (events ++ [I2CEvent.ended false errorType]).count (.ended false kind) % 2 ^ 32 := by
    intro kind counter counts
    by_cases same : errorType = kind
    · subst same
      rw [if_pos rfl, List.count_append, List.count_singleton_self]
      exact toNat_add_one_of_mod counts
    · simpa [same, List.count_append, List.count_singleton] using counts
  have streak := toNat_add_one_of_mod records.streak
  simp only [I2CSensorStats.recordOutcome, Bool.false_eq_true, if_false]
  exact {
    total := by simpa [List.count_append] using records.total
    successful := by simpa [List.countP_append, I2CEvent.succeeded] using records.successful
    failed := by
      simp only [List.countP_append, List.countP_singleton, I2CEvent.failed, Bool.not_false,
        if_true]
      exact toNat_add_one_of_mod records.failed
    timeouts := typed 1 _ records.timeouts
    nacks := typed 2 _ records.nacks
    busErrors := typed 3 _ records.busErrors
    streak := by rw [streak, failureStreak_snoc]
    streak_le_max := by
      dsimp only
      split
      · exact le_refl _
      · next below => exact Nat.le_of_not_lt below
    unhealthy := fun warned => by
      dsimp only at warned ⊢
      rw [if_pos warned] }

theorem retime (records : stats.Records events) (time longest : BitVec 32) :
    { stats with totalTransactionTimeUs := time, longestTransactionUs := longest }.Records
      events :=
  ⟨records.total, records.successful, records.failed, records.timeouts, records.nacks,
    records.busErrors, records.streak, records.streak_le_max, records.unhealthy⟩

theorem rerate (records : stats.Records events) (rate : ℚ) :
    { stats with successRatePercentage := rate }.Records events :=
  ⟨records.total, records.successful, records.failed, records.timeouts, records.nacks,
    records.busErrors, records.streak, records.streak_le_max, records.unhealthy⟩

theorem unflag (records : stats.Records events) :
    { stats with busHealthy := false }.Records events :=
  ⟨records.total, records.successful, records.failed, records.timeouts, records.nacks,
    records.busErrors, records.streak, records.streak_le_max, fun _ => rfl⟩

end I2CStats.Records

namespace I2CStats.Records

variable {entry : I2CSensorStats} {events : List I2CEvent}

theorem transactionEnd (records : entry.stats.Records events) (success : Bool)
    (errorType : BitVec 8) (nowUs nowMs : BitVec 32) :
    (entry.transactionEnd success errorType nowUs nowMs).stats.Records
      (events ++ [I2CEvent.ended success errorType]) := by
  unfold I2CSensorStats.transactionEnd
  cases success
  · exact (recordOutcome_failure (records.retime _ _) errorType nowMs).rerate _
  · exact (recordOutcome_success (records.retime _ _) errorType nowMs).rerate _

theorem checkHealth (records : entry.stats.Records events) (nowMs : BitVec 32) :
    (entry.checkHealth nowMs).1.stats.Records events := by
  unfold I2CSensorStats.checkHealth
  dsimp only
  split
  · exact records
  · split
    · exact records.unflag
    · exact records

end I2CStats.Records

/-! ## Runs of the monitor -/

theorem I2CMonitor.modifySensor_holds {α : Type} (holds : I2CSensorStats → α → Prop)
    {m : I2CMonitor} {histories : Nat → α}
    (all : ∀ sensor entry, m.sensors[sensor]? = some entry → holds entry (histories sensor))
    (sensor : Nat) (f : I2CSensorStats → I2CSensorStats) (history : α)
    (updated : ∀ entry, m.sensors[sensor]? = some entry → holds (f entry) history) :
    ∀ other entry, (m.modifySensor sensor f).sensors[other]? = some entry →
      holds entry (Function.update histories sensor history other) := by
  intro other entry found
  simp only [I2CMonitor.modifySensor, List.getElem?_modify] at found
  obtain ⟨before, stored, rfl⟩ := Option.map_eq_some'.mp found
  by_cases same : sensor = other
  · subst same
    simp only [if_true, Function.update_same]
    exact updated before stored
  · simp only [same, if_false, Function.update_noteq (Ne.symm same)]
    exact all _ _ stored

/-- Every entry's statistics record the events of its sensor, and the log knows whether
the mutex is there. -/
structure I2CMonitor.Keeps (m : I2CMonitor) (log : I2CLog) : Prop where
  mutex : m.mutex = log.mutex
  records : ∀ (sensor : Nat) (entry : I2CSensorStats), m.sensors[sensor]? = some entry →
    entry.stats.Records (log.events sensor)

namespace I2CMonitor.Keeps

variable {m : I2CMonitor} {log : I2CLog}

theorem modifySensor (keeps : m.Keeps log) (sensor : Nat) (f : I2CSensorStats → I2CSensorStats)
    (events : List I2CEvent)
    (updated : ∀ entry, entry.stats.Records (log.events sensor) →
      (f entry).stats.Records events) :
    (m.modifySensor sensor f).Keeps
      { log with events := Function.update log.events sensor events } where
  mutex := keeps.mutex
  records := I2CMonitor.modifySensor_holds (fun entry events => entry.stats.Records events)
    keeps.records sensor f events fun entry stored => updated entry (keeps.records _ _ stored)

theorem step (keeps : m.Keeps log) (call : I2CCall) : (m.step call).Keeps (log.step call) := by
  cases call with
  | setSensorAddress sensor address =>
      simp only [I2CMonitor.step, I2CLog.step, I2CMonitor.debugI2CSetSensorAddress]
      split
      · have kept := keeps.modifySensor sensor (fun entry => { entry with address })
          (log.events sensor) fun _ records => records
        rwa [Function.update_eq_self] at kept
      · exact keeps
  | transactionStart sensor nowUs =>
      simp only [I2CMonitor.step, I2CLog.step, I2CMonitor.debugI2CTransactionStart,
        I2CLog.record, keeps.mutex]
      by_cases taken : sensor < i2cSensorCount ∧ log.mutex = true
      · rw [if_pos taken, if_pos taken]
        exact keeps.modifySensor sensor _ _ fun _ records => records.transactionStart
      · rw [if_neg taken, if_neg taken]
        exact keeps
  | transactionEnd sensor success errorType nowUs nowMs =>
      simp only [I2CMonitor.step, I2CLog.step, I2CMonitor.debugI2CTransactionEnd,
        I2CLog.record, keeps.mutex]
      by_cases taken : sensor < i2cSensorCount ∧ log.mutex = true
      · rw [if_pos taken, if_pos taken]
        exact keeps.modifySensor sensor _ _ fun _ records =>
          records.transactionEnd success errorType nowUs nowMs
      · rw [if_neg taken, if_neg taken]
        exact keeps
  | checkHealth clock =>
      simp only [I2CMonitor.step, I2CLog.step, I2CMonitor.debugI2CCheckHealth]
      split
      · refine ⟨keeps.mutex, fun sensor entry found => ?_⟩
        simp only [List.getElem?_mapIdx] at found
        obtain ⟨before, stored, rfl⟩ := Option.map_eq_some'.mp found
        exact (keeps.records _ _ stored).checkHealth _
      · exact keeps
  | reset sensor =>
      simp only [I2CMonitor.step, I2CLog.step, I2CMonitor.debugI2CReset, keeps.mutex]
      split
      · exact keeps
      · split
        · refine ⟨rfl, fun other entry found => ?_⟩
          simp only [List.getElem?_map] at found
          obtain ⟨before, -, rfl⟩ := Option.map_eq_some'.mp found
          exact I2CStats.Records.healthy
        · split
          · exact keeps.modifySensor sensor _ _ fun _ _ => I2CStats.Records.healthy
          · exact keeps

theorem run (keeps : m.Keeps log) (calls : List I2CCall) :
    (m.run calls).Keeps (log.run calls) := by
  induction calls generalizing m log with
  | nil => exact keeps
  | cons call calls induction => exact induction (keeps.step call)

theorem init (created : Bool) : (debugI2CInit created).Keeps ⟨created, fun _ => []⟩ where
  mutex := rfl
  records sensor entry found := by
    simp only [debugI2CInit, List.getElem?_map] at found
    obtain ⟨name, -, rfl⟩ := Option.map_eq_some'.mp found
    exact I2CStats.Records.healthy

end I2CMonitor.Keeps

/-- From `debugI2CInit`, through any calls, every sensor's statistics record the events of
that sensor since they were last cleared: each counter is the number of its events modulo
`2 ^ 32`, the streak is the number of failures since the last success and never exceeds the
recorded maximum, and a streak of `I2C_FAILURE_STREAK_WARN` or more has cleared the flag. -/
theorem i2c_counters_record_events (created : Bool) (calls : List I2CCall) :
    ((debugI2CInit created).run calls).Keeps (I2CLog.run ⟨created, fun _ => []⟩ calls) :=
  (I2CMonitor.Keeps.init created).run calls

set_option maxRecDepth 4000 in
/-- The health check does not read the flag: after five failures and no success the flag
is cleared, yet `debugI2CCheckHealth` reports a healthy bus, since a sensor that never
succeeded is not checked for a hang and five transactions are too few for the rate. -/
example :
    let failures := (List.range 5).flatMap fun time =>
      [I2CCall.transactionStart 0 (BitVec.ofNat 32 (10 * time)),
        .transactionEnd 0 false 1 (BitVec.ofNat 32 (10 * time + 5)) 1000]
    ((debugI2CInit true).run failures).sensors[0]?.map (·.stats.busHealthy) = some false ∧
      (((debugI2CInit true).run failures).debugI2CCheckHealth fun _ => 100000).1 = true :=
  ⟨by with_unfolding_all rfl, by with_unfolding_all rfl⟩

/-! ## The success rate

`debugI2CTransactionEnd` recomputes the rate from the counters of successes and of starts.
When every end closes a start of its own and the start counter has not wrapped, the two
counters differ only by the transaction still open, so the rate is the share of completed
transactions that succeeded. -/

/-- The transaction state after `event`, one being open before it when `isOpen`: `none` for
an end with none open, or a start with one open. -/
def I2CEvent.bracket (isOpen : Bool) : I2CEvent → Option Bool
  | .started => if isOpen then none else some true
  | .ended _ _ => if isOpen then some false else none

/-- Whether a transaction is open after `events`, `none` once the events stop alternating
between starts and ends. -/
def openTransaction (events : List I2CEvent) : Option Bool :=
  events.foldl (fun state event => state.bind fun isOpen => event.bracket isOpen) (some false)

theorem openTransaction_snoc (events : List I2CEvent) (event : I2CEvent) :
    openTransaction (events ++ [event]) =
      (openTransaction events).bind fun isOpen => event.bracket isOpen := by
  simp only [openTransaction, List.foldl_append, List.foldl_cons, List.foldl_nil]

/-- Alternating events have one start per end, and one more while a transaction is open. -/
theorem count_started_of_open {events : List I2CEvent} {isOpen : Bool}
    (alternating : openTransaction events = some isOpen) :
    events.count .started =
      events.countP I2CEvent.succeeded + events.countP I2CEvent.failed + isOpen.toNat := by
  induction events using List.reverseRecOn generalizing isOpen with
  | nil => cases alternating; rfl
  | append_singleton events event induction =>
      rw [openTransaction_snoc] at alternating
      obtain ⟨before, opened, bracketed⟩ := Option.bind_eq_some.mp alternating
      have counted := induction opened
      cases event with
      | started =>
          cases before <;> simp [I2CEvent.bracket] at bracketed
          subst bracketed
          simp [List.count_append, List.countP_append, I2CEvent.succeeded, I2CEvent.failed,
            counted]
      | ended success errorType =>
          cases before <;> simp [I2CEvent.bracket] at bracketed
          subst bracketed
          cases success <;>
            simp [List.count_append, List.countP_append, I2CEvent.succeeded, I2CEvent.failed,
              counted] <;> omega

/-- The share of completed transactions that succeeded, in percent, as the code's `float`
computes it, or `0` before any completed. -/
def completedRate (events : List I2CEvent) : ℚ :=
  if events.countP I2CEvent.succeeded + events.countP I2CEvent.failed = 0 then 0
  else round32 (round32 (100 * round32 (events.countP I2CEvent.succeeded)) /
    round32 (events.countP I2CEvent.succeeded + events.countP I2CEvent.failed : ℕ))

/-- The rate shows the share of completed transactions that succeeded, as long as the events
alternate and the start counter has not wrapped. -/
def I2CStats.Rates (stats : I2CStats) (events : List I2CEvent) : Prop :=
  (openTransaction events).isSome → events.count .started < 2 ^ 32 →
    stats.successRatePercentage = completedRate events

namespace I2CStats.Rates

variable {stats : I2CStats} {events : List I2CEvent}

theorem healthy : I2CStats.healthy.Rates [] :=
  fun _ _ => rfl

theorem of_rate {other : I2CStats} (rates : stats.Rates events)
    (same : other.successRatePercentage = stats.successRatePercentage) : other.Rates events :=
  fun alternating fits => same.trans (rates alternating fits)

theorem transactionStart (rates : stats.Rates events) :
    { stats with totalTransactions := stats.totalTransactions + 1 }.Rates
      (events ++ [I2CEvent.started]) := by
  intro alternating fits
  rw [openTransaction_snoc] at alternating
  have before : (openTransaction events).isSome := by
    cases opened : openTransaction events <;> simp_all
  rw [List.count_append, List.count_singleton_self] at fits
  simpa [completedRate, List.countP_append, I2CEvent.succeeded, I2CEvent.failed] using
    rates before (by omega)

end I2CStats.Rates

theorem I2CSensorStats.transactionEnd_rate (entry : I2CSensorStats) (success : Bool)
    (errorType : BitVec 8) (nowUs nowMs : BitVec 32) :
    (entry.transactionEnd success errorType nowUs nowMs).stats.successRatePercentage =
      if (entry.transactionEnd success errorType nowUs nowMs).stats.totalTransactions > 0 then
        round32 (round32 (100 * round32
            (entry.transactionEnd success errorType nowUs nowMs).stats.successfulTransactions.toNat) /
          round32 (entry.transactionEnd success errorType nowUs nowMs).stats.totalTransactions.toNat)
      else entry.stats.successRatePercentage := by
  cases success <;> rfl

namespace I2CStats.Rates

variable {entry : I2CSensorStats} {events : List I2CEvent}

theorem transactionEnd (records : entry.stats.Records events) (success : Bool)
    (errorType : BitVec 8) (nowUs nowMs : BitVec 32) :
    (entry.transactionEnd success errorType nowUs nowMs).stats.Rates
      (events ++ [I2CEvent.ended success errorType]) := by
  intro alternating fits
  obtain ⟨isOpen, closed⟩ := Option.isSome_iff_exists.mp alternating
  have shut : isOpen = false := by
    rw [openTransaction_snoc] at closed
    obtain ⟨before, -, bracketed⟩ := Option.bind_eq_some.mp closed
    cases before <;> simp [I2CEvent.bracket] at bracketed
    exact bracketed
  have balanced := count_started_of_open closed
  rw [shut, Bool.toNat_false, Nat.add_zero] at balanced
  have completed : 0 < (events ++ [I2CEvent.ended success errorType]).countP I2CEvent.succeeded +
      (events ++ [I2CEvent.ended success errorType]).countP I2CEvent.failed := by
    cases success <;> simp [List.countP_append, I2CEvent.succeeded, I2CEvent.failed]
  have ended := records.transactionEnd success errorType nowUs nowMs
  have total := ended.total
  rw [balanced] at fits
  rw [balanced, Nat.mod_eq_of_lt fits] at total
  rw [I2CSensorStats.transactionEnd_rate,
    if_pos (BitVec.lt_def.mpr (by rw [total]; exact completed)), total, ended.successful,
    Nat.mod_eq_of_lt (by omega), completedRate, if_neg (by omega)]

theorem checkHealth (rates : entry.stats.Rates events) (nowMs : BitVec 32) :
    (entry.checkHealth nowMs).1.stats.Rates events := by
  refine rates.of_rate ?_
  unfold I2CSensorStats.checkHealth
  dsimp only
  split
  · rfl
  · split <;> rfl

end I2CStats.Rates

/-- Every entry's rate stands for the events of its sensor. -/
def I2CMonitor.KeepsRates (m : I2CMonitor) (log : I2CLog) : Prop :=
  ∀ (sensor : Nat) (entry : I2CSensorStats), m.sensors[sensor]? = some entry →
    entry.stats.Rates (log.events sensor)

namespace I2CMonitor.KeepsRates

variable {m : I2CMonitor} {log : I2CLog}

theorem step (rates : m.KeepsRates log) (keeps : m.Keeps log) (call : I2CCall) :
    (m.step call).KeepsRates (log.step call) := by
  have holds := I2CMonitor.modifySensor_holds (fun entry events => entry.stats.Rates events)
    rates
  cases call with
  | setSensorAddress sensor address =>
      simp only [I2CMonitor.step, I2CLog.step, I2CMonitor.debugI2CSetSensorAddress]
      split
      · have kept := holds sensor (fun entry => { entry with address }) (log.events sensor)
          fun entry stored => rates sensor entry stored
        rwa [Function.update_eq_self] at kept
      · exact rates
  | transactionStart sensor nowUs =>
      simp only [I2CMonitor.step, I2CLog.step, I2CMonitor.debugI2CTransactionStart,
        I2CLog.record, keeps.mutex]
      by_cases taken : sensor < i2cSensorCount ∧ log.mutex = true
      · rw [if_pos taken, if_pos taken]
        exact holds sensor _ _ fun entry stored => (rates sensor entry stored).transactionStart
      · rw [if_neg taken, if_neg taken]
        exact rates
  | transactionEnd sensor success errorType nowUs nowMs =>
      simp only [I2CMonitor.step, I2CLog.step, I2CMonitor.debugI2CTransactionEnd,
        I2CLog.record, keeps.mutex]
      by_cases taken : sensor < i2cSensorCount ∧ log.mutex = true
      · rw [if_pos taken, if_pos taken]
        exact holds sensor _ _ fun entry stored =>
          I2CStats.Rates.transactionEnd (keeps.records sensor entry stored) success errorType
            nowUs nowMs
      · rw [if_neg taken, if_neg taken]
        exact rates
  | checkHealth clock =>
      simp only [I2CMonitor.step, I2CLog.step, I2CMonitor.debugI2CCheckHealth]
      split
      · intro sensor entry found
        simp only [List.getElem?_mapIdx] at found
        obtain ⟨before, stored, rfl⟩ := Option.map_eq_some'.mp found
        exact (rates _ _ stored).checkHealth _
      · exact rates
  | reset sensor =>
      simp only [I2CMonitor.step, I2CLog.step, I2CMonitor.debugI2CReset, keeps.mutex]
      split
      · exact rates
      · split
        · intro other entry found
          simp only [List.getElem?_map] at found
          obtain ⟨before, -, rfl⟩ := Option.map_eq_some'.mp found
          exact I2CStats.Rates.healthy
        · split
          · exact holds sensor _ _ fun _ _ => I2CStats.Rates.healthy
          · exact rates

theorem run (rates : m.KeepsRates log) (keeps : m.Keeps log) (calls : List I2CCall) :
    (m.run calls).KeepsRates (log.run calls) := by
  induction calls generalizing m log with
  | nil => exact rates
  | cons call calls induction => exact induction (rates.step keeps call) (keeps.step call)

theorem init (created : Bool) : (debugI2CInit created).KeepsRates ⟨created, fun _ => []⟩ := by
  intro sensor entry found
  simp only [debugI2CInit, List.getElem?_map] at found
  obtain ⟨name, -, rfl⟩ := Option.map_eq_some'.mp found
  exact I2CStats.Rates.healthy

end I2CMonitor.KeepsRates

/-- From `debugI2CInit`, through any calls, a sensor whose starts and ends since its
statistics were last cleared alternate, with fewer than `2 ^ 32` starts, shows as its
success rate the `float` share of its completed transactions that succeeded. -/
theorem i2c_success_rate_law (created : Bool) (calls : List I2CCall) {sensor : Nat}
    {entry : I2CSensorStats}
    (found : ((debugI2CInit created).run calls).sensors[sensor]? = some entry)
    (alternating :
      (openTransaction ((I2CLog.run ⟨created, fun _ => []⟩ calls).events sensor)).isSome)
    (fits : ((I2CLog.run ⟨created, fun _ => []⟩ calls).events sensor).count .started < 2 ^ 32) :
    entry.stats.successRatePercentage =
      completedRate ((I2CLog.run ⟨created, fun _ => []⟩ calls).events sensor) :=
  (I2CMonitor.KeepsRates.init created).run (I2CMonitor.Keeps.init created) calls sensor entry
    found alternating fits

/-- A success and a failure, and a third transaction under way. -/
def bracketedCalls : List I2CCall :=
  [.transactionStart 0 0, .transactionEnd 0 true 0 40 1, .transactionStart 0 100,
    .transactionEnd 0 false 1 190 2, .transactionStart 0 300]

theorem bracketedCalls_success_rate :
    ∃ entry, ((debugI2CInit true).run bracketedCalls).sensors[0]? = some entry ∧
      (openTransaction ((I2CLog.run ⟨true, fun _ => []⟩ bracketedCalls).events 0)).isSome ∧
      ((I2CLog.run ⟨true, fun _ => []⟩ bracketedCalls).events 0).count .started < 2 ^ 32 ∧
      entry.stats.successRatePercentage =
        completedRate ((I2CLog.run ⟨true, fun _ => []⟩ bracketedCalls).events 0) := by
  obtain ⟨entry, found⟩ : ∃ entry,
      ((debugI2CInit true).run bracketedCalls).sensors[0]? = some entry := ⟨_, rfl⟩
  have alternating :
      (openTransaction ((I2CLog.run ⟨true, fun _ => []⟩ bracketedCalls).events 0)).isSome := by
    with_unfolding_all decide
  have fits : ((I2CLog.run ⟨true, fun _ => []⟩ bracketedCalls).events 0).count .started <
      2 ^ 32 := by
    with_unfolding_all decide
  exact ⟨entry, found, alternating, fits,
    i2c_success_rate_law true bracketedCalls found alternating fits⟩

/-! ## A rate past 100 % -/

/-- `n` transactions on the first sensor, each started and then ended with a success. -/
def successfulCalls : Nat → List I2CCall
  | 0 => []
  | n + 1 => successfulCalls n ++ [.transactionStart 0 0, .transactionEnd 0 true 0 0 0]

/-- The events `successfulCalls n` records for the first sensor. -/
def successfulEvents : Nat → List I2CEvent
  | 0 => []
  | n + 1 => successfulEvents n ++ [.started, .ended true 0]

theorem run_successfulCalls (n : Nat) :
    (I2CLog.run ⟨true, fun _ => []⟩ (successfulCalls n)).mutex = true ∧
      (I2CLog.run ⟨true, fun _ => []⟩ (successfulCalls n)).events 0 = successfulEvents n := by
  induction n with
  | zero => exact ⟨rfl, rfl⟩
  | succ n induction =>
      obtain ⟨mutex, events⟩ := induction
      simp only [I2CLog.run, successfulCalls, List.foldl_append] at mutex events ⊢
      simp [I2CLog.step, I2CLog.record, i2cSensorCount, mutex, events, successfulEvents]

theorem successfulEvents_counts (n : Nat) :
    openTransaction (successfulEvents n) = some false ∧
      (successfulEvents n).count .started = n ∧
      (successfulEvents n).countP I2CEvent.succeeded = n ∧
      (successfulEvents n).countP I2CEvent.failed = 0 := by
  induction n with
  | zero => exact ⟨rfl, rfl, rfl, rfl⟩
  | succ n induction =>
      obtain ⟨alternating, started, succeeded, failed⟩ := induction
      have appended : successfulEvents (n + 1) = successfulEvents n ++ [.started] ++
          [.ended true 0] := by
        rw [List.append_assoc]
        rfl
      rw [appended, openTransaction_snoc, openTransaction_snoc, alternating]
      simp [I2CEvent.bracket, List.count_append, List.countP_append, started, succeeded,
        failed, I2CEvent.succeeded, I2CEvent.failed]

theorem successfulCalls_rate {n : Nat} (positive : 0 < n) (fits : n < 2 ^ 32) :
    ((debugI2CInit true).run (successfulCalls n)).sensors[0]?.map
        (·.stats.successRatePercentage) =
      some (round32 (round32 (100 * round32 n) / round32 n)) := by
  obtain ⟨mutex, events⟩ := run_successfulCalls n
  obtain ⟨alternating, started, succeeded, failed⟩ := successfulEvents_counts n
  have inside : 0 < ((debugI2CInit true).run (successfulCalls n)).sensors.length := by
    rw [I2CMonitor.length_sensors]
    decide
  have rates := (I2CMonitor.KeepsRates.init true).run (I2CMonitor.Keeps.init true)
    (successfulCalls n) 0 _ (List.getElem?_eq_getElem inside)
  rw [events] at rates
  rw [List.getElem?_eq_getElem inside, Option.map_some',
    rates (by rw [alternating]; rfl) (by rw [started]; exact fits), completedRate,
    succeeded, failed, if_neg (by omega), Nat.add_zero]

/-- The `float` rate passes 100 % even when every transaction alternates and succeeds:
after 671091 of them it reads `100 + 2 ^ -17`. -/
theorem success_rate_passes_hundred :
    ∃ rate, ((debugI2CInit true).run (successfulCalls 671091)).sensors[0]?.map
        (·.stats.successRatePercentage) = some rate ∧ 100 < rate :=
  ⟨_, successfulCalls_rate (by decide) (by decide), by with_unfolding_all decide⟩

set_option maxRecDepth 4000 in
/-- Without the alternation the rate passes 100 % by far: two successful ends after one
start read 200 %. -/
theorem success_rate_without_alternation :
    ((debugI2CInit true).run [.transactionStart 0 0, .transactionEnd 0 true 0 10 1,
      .transactionEnd 0 true 0 20 2]).sensors[0]?.map (·.stats.successRatePercentage) =
      some 200 := by
  with_unfolding_all rfl

end Mousetrap.Debug
