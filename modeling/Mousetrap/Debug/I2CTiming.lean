import Mousetrap.Debug.I2C

/-!
# The transaction times and the printed statistics

`debugI2CTransactionEnd` adds to a sensor's `total_transaction_time_us` the `micros()`
difference from the start time `debugI2CTransactionStart` stored, keeps the longest such
difference in `longest_transaction_us`, and stamps `last_success_ms` or `last_failure_ms`
with `millis()`.  For each sensor with a transaction counted, `debugI2CPrintStats` prints the
counters and an average transaction time: the total time over `total_transactions`.

What the time fields stand for is the log of the counters with the readings each call took.
Every call keeps each entry on it: the start time is the reading of the last start (`0`
before any), the total and the longest are the sum modulo `2 ^ 32` and the largest of the
times of the ends, each measured from the start in effect before it, and the two stamps are
the `millis()` readings of the last success and of the last failure.

The printed average therefore divides the time of the completed transactions by the number
of starts: a transaction still open counts as one that took no time.
-/

namespace Mousetrap.Debug

/-- An event with the readings its call took: a start at `micros()` = `nowUs`, or an end at
`micros()` = `nowUs` and then `millis()` = `nowMs`. -/
inductive I2CStamp where
  | started (nowUs : BitVec 32)
  | ended (success : Bool) (errorType : BitVec 8) (nowUs nowMs : BitVec 32)
  deriving DecidableEq, Repr

namespace I2CStamp

/-- The event a stamp records. -/
def event : I2CStamp → I2CEvent
  | .started _ => .started
  | .ended success errorType _ _ => .ended success errorType

/-- The start time in effect after `stamp`, `startUs` before it. -/
def startAfter (startUs : BitVec 32) : I2CStamp → BitVec 32
  | .started nowUs => nowUs
  | .ended .. => startUs

/-- The stamp of the last end with outcome `success` after `stamp`, `ms` before it. -/
def endAfter (success : Bool) (ms : BitVec 32) : I2CStamp → BitVec 32
  | .started _ => ms
  | .ended outcome _ _ nowMs => if outcome = success then nowMs else ms

end I2CStamp

/-- The stamps recorded for each sensor since its statistics were last cleared, and whether
the mutex is there. -/
structure I2CStampLog where
  mutex : Bool
  stamps : Nat → List I2CStamp

namespace I2CStampLog

/-- A stamp on `sensor`, recorded when the monitor takes it. -/
def record (log : I2CStampLog) (sensor : Nat) (stamp : I2CStamp) : I2CStampLog :=
  if sensor < i2cSensorCount ∧ log.mutex then
    { log with stamps := Function.update log.stamps sensor (log.stamps sensor ++ [stamp]) }
  else log

def step (log : I2CStampLog) : I2CCall → I2CStampLog
  | .transactionStart sensor nowUs => log.record sensor (.started nowUs)
  | .transactionEnd sensor success errorType nowUs nowMs =>
      log.record sensor (.ended success errorType nowUs nowMs)
  | .reset sensor =>
      if !log.mutex then log
      else if sensor = i2cSensorCount then { log with stamps := fun _ => [] }
      else if sensor < i2cSensorCount then
        { log with stamps := Function.update log.stamps sensor [] }
      else log
  | .setSensorAddress .. => log
  | .checkHealth _ => log

def run (log : I2CStampLog) (calls : List I2CCall) : I2CStampLog :=
  calls.foldl step log

/-- The events of the stamps: the log the counters are read against. -/
def events (log : I2CStampLog) : I2CLog :=
  ⟨log.mutex, fun sensor => (log.stamps sensor).map I2CStamp.event⟩

theorem events_update (stamps : Nat → List I2CStamp) (sensor : Nat) (value : List I2CStamp) :
    (fun other => (Function.update stamps sensor value other).map I2CStamp.event) =
      Function.update (fun other => (stamps other).map I2CStamp.event) sensor
        (value.map I2CStamp.event) :=
  funext (Function.apply_update (fun _ => List.map I2CStamp.event) stamps sensor value)

@[simp]
theorem events_mutex (log : I2CStampLog) : log.events.mutex = log.mutex :=
  rfl

theorem events_record (log : I2CStampLog) (sensor : Nat) (stamp : I2CStamp) :
    (log.record sensor stamp).events = log.events.record sensor stamp.event := by
  unfold record I2CLog.record
  rw [events_mutex]
  by_cases taken : sensor < i2cSensorCount ∧ log.mutex = true
  · rw [if_pos taken, if_pos taken]
    simp only [events, events_update, List.map_append, List.map_singleton]
  · rw [if_neg taken, if_neg taken]

theorem events_step (log : I2CStampLog) (call : I2CCall) :
    (log.step call).events = log.events.step call := by
  cases call with
  | transactionStart sensor nowUs => exact events_record log sensor _
  | transactionEnd sensor success errorType nowUs nowMs => exact events_record log sensor _
  | reset sensor =>
      simp only [step, I2CLog.step, events_mutex]
      split_ifs <;> simp [events, events_update]
  | setSensorAddress sensor address => rfl
  | checkHealth clock => rfl

theorem events_run (log : I2CStampLog) (calls : List I2CCall) :
    (log.run calls).events = log.events.run calls := by
  induction calls generalizing log with
  | nil => rfl
  | cons call calls induction =>
      exact (induction (log.step call)).trans (congrArg (I2CLog.run · calls) (events_step ..))

end I2CStampLog

/-! ## What the time fields stand for -/

/-- The `micros()` reading of the last start, `0` before any. -/
def startedAt (stamps : List I2CStamp) : BitVec 32 :=
  stamps.foldl I2CStamp.startAfter 0

/-- The `millis()` reading of the last end with outcome `success`, `0` before any. -/
def lastEndMs (success : Bool) (stamps : List I2CStamp) : BitVec 32 :=
  stamps.foldl (I2CStamp.endAfter success) 0

/-- The time each end took: its `micros()` reading less that of the start in effect before
it, modulo `2 ^ 32`, with `startUs` in effect before the first start. -/
def elapsedFrom (startUs : BitVec 32) : List I2CStamp → List (BitVec 32)
  | [] => []
  | .started nowUs :: stamps => elapsedFrom nowUs stamps
  | .ended _ _ nowUs _ :: stamps => (nowUs - startUs) :: elapsedFrom startUs stamps

/-- The times of the ends, measured from the starts (from `0` before the first). -/
def elapsedTimes (stamps : List I2CStamp) : List (BitVec 32) :=
  elapsedFrom 0 stamps

theorem elapsedFrom_append (startUs : BitVec 32) (stamps more : List I2CStamp) :
    elapsedFrom startUs (stamps ++ more) =
      elapsedFrom startUs stamps ++
        elapsedFrom (stamps.foldl I2CStamp.startAfter startUs) more := by
  induction stamps generalizing startUs with
  | nil => rfl
  | cons stamp stamps induction =>
      cases stamp <;> simp [elapsedFrom, induction, I2CStamp.startAfter]

@[simp]
theorem startedAt_snoc (stamps : List I2CStamp) (stamp : I2CStamp) :
    startedAt (stamps ++ [stamp]) = stamp.startAfter (startedAt stamps) := by
  simp [startedAt]

@[simp]
theorem lastEndMs_snoc (success : Bool) (stamps : List I2CStamp) (stamp : I2CStamp) :
    lastEndMs success (stamps ++ [stamp]) = stamp.endAfter success (lastEndMs success stamps) := by
  simp [lastEndMs]

@[simp]
theorem elapsedTimes_snoc_started (stamps : List I2CStamp) (nowUs : BitVec 32) :
    elapsedTimes (stamps ++ [.started nowUs]) = elapsedTimes stamps := by
  simp [elapsedTimes, elapsedFrom_append, elapsedFrom]

@[simp]
theorem elapsedTimes_snoc_ended (stamps : List I2CStamp) (success : Bool)
    (errorType : BitVec 8) (nowUs nowMs : BitVec 32) :
    elapsedTimes (stamps ++ [.ended success errorType nowUs nowMs]) =
      elapsedTimes stamps ++ [nowUs - startedAt stamps] := by
  simp [elapsedTimes, elapsedFrom_append, elapsedFrom, startedAt]

/-- The total of the times, in `micros()`. -/
def elapsedTotal (stamps : List I2CStamp) : Nat :=
  ((elapsedTimes stamps).map BitVec.toNat).sum

/-- The longest of the times, `0` before any end. -/
def elapsedLongest (stamps : List I2CStamp) : Nat :=
  ((elapsedTimes stamps).map BitVec.toNat).foldl max 0

/-- What an entry's time fields say about the stamps recorded for it: the start time is the
reading of the last start, the total and the longest are those of the times of the ends
(the total modulo `2 ^ 32`), and the two stamps are the readings of the last success and of
the last failure. -/
structure I2CSensorStats.Times (entry : I2CSensorStats) (stamps : List I2CStamp) : Prop where
  started : entry.transactionStartUs = startedAt stamps
  total : entry.stats.totalTransactionTimeUs.toNat = elapsedTotal stamps % 2 ^ 32
  longest : entry.stats.longestTransactionUs.toNat = elapsedLongest stamps
  lastSuccess : entry.stats.lastSuccessMs = lastEndMs true stamps
  lastFailure : entry.stats.lastFailureMs = lastEndMs false stamps

theorem I2CSensorStats.transactionEnd_times (entry : I2CSensorStats) (success : Bool)
    (errorType : BitVec 8) (nowUs nowMs : BitVec 32) :
    (entry.transactionEnd success errorType nowUs nowMs).transactionStartUs =
        entry.transactionStartUs ∧
      (entry.transactionEnd success errorType nowUs nowMs).stats.totalTransactionTimeUs =
        entry.stats.totalTransactionTimeUs + (nowUs - entry.transactionStartUs) ∧
      (entry.transactionEnd success errorType nowUs nowMs).stats.longestTransactionUs =
        (if nowUs - entry.transactionStartUs > entry.stats.longestTransactionUs then
          nowUs - entry.transactionStartUs else entry.stats.longestTransactionUs) ∧
      (entry.transactionEnd success errorType nowUs nowMs).stats.lastSuccessMs =
        (if success then nowMs else entry.stats.lastSuccessMs) ∧
      (entry.transactionEnd success errorType nowUs nowMs).stats.lastFailureMs =
        (if success then entry.stats.lastFailureMs else nowMs) := by
  cases success <;> exact ⟨rfl, rfl, rfl, rfl, rfl⟩

theorem toNat_keep_longer (longest elapsed : BitVec 32) :
    (if elapsed > longest then elapsed else longest).toNat = max longest.toNat elapsed.toNat := by
  split
  · next longer => exact (max_eq_right (BitVec.lt_def.mp longer).le).symm
  · next shorter => exact (max_eq_left (not_lt.mp (shorter ∘ BitVec.lt_def.mpr))).symm

namespace I2CSensorStats.Times

variable {entry : I2CSensorStats} {stamps : List I2CStamp}

theorem healthy (address : BitVec 8) (name : List Char) :
    (⟨I2CStats.healthy, address, name, 0⟩ : I2CSensorStats).Times [] :=
  ⟨rfl, rfl, rfl, rfl, rfl⟩

theorem readdress (times : entry.Times stamps) (address : BitVec 8) :
    { entry with address }.Times stamps :=
  ⟨times.started, times.total, times.longest, times.lastSuccess, times.lastFailure⟩

theorem unflag (times : entry.Times stamps) :
    { entry with stats := { entry.stats with busHealthy := false } }.Times stamps :=
  ⟨times.started, times.total, times.longest, times.lastSuccess, times.lastFailure⟩

theorem transactionStart (times : entry.Times stamps) (nowUs : BitVec 32) :
    (entry.transactionStart nowUs).Times (stamps ++ [.started nowUs]) where
  started := by rw [startedAt_snoc]; rfl
  total := by rw [elapsedTotal, elapsedTimes_snoc_started]; exact times.total
  longest := by rw [elapsedLongest, elapsedTimes_snoc_started]; exact times.longest
  lastSuccess := by rw [lastEndMs_snoc]; exact times.lastSuccess
  lastFailure := by rw [lastEndMs_snoc]; exact times.lastFailure

theorem transactionEnd (times : entry.Times stamps) (success : Bool) (errorType : BitVec 8)
    (nowUs nowMs : BitVec 32) :
    (entry.transactionEnd success errorType nowUs nowMs).Times
      (stamps ++ [.ended success errorType nowUs nowMs]) := by
  obtain ⟨started, total, longest, lastSuccess, lastFailure⟩ :=
    entry.transactionEnd_times success errorType nowUs nowMs
  refine ⟨?_, ?_, ?_, ?_, ?_⟩
  · rw [started, times.started, startedAt_snoc]
    rfl
  · rw [total, elapsedTotal, elapsedTimes_snoc_ended, List.map_append, List.sum_append,
      BitVec.toNat_add, times.total, ← times.started, List.map_singleton, List.sum_singleton,
      Nat.mod_add_mod]
    rfl
  · rw [longest, toNat_keep_longer, times.longest]
    unfold elapsedLongest
    rw [elapsedTimes_snoc_ended, List.map_append, List.foldl_append, ← times.started]
    rfl
  · rw [lastSuccess, lastEndMs_snoc, ← times.lastSuccess]
    cases success <;> rfl
  · rw [lastFailure, lastEndMs_snoc, ← times.lastFailure]
    cases success <;> rfl

theorem checkHealth (times : entry.Times stamps) (nowMs : BitVec 32) :
    (entry.checkHealth nowMs).1.Times stamps := by
  unfold I2CSensorStats.checkHealth
  dsimp only
  split
  · exact times
  · split
    · exact times.unflag
    · exact times

end I2CSensorStats.Times

/-- Every entry's time fields stand for the stamps of its sensor, and the log knows whether
the mutex is there. -/
structure I2CMonitor.KeepsTimes (m : I2CMonitor) (log : I2CStampLog) : Prop where
  mutex : m.mutex = log.mutex
  times : ∀ (sensor : Nat) (entry : I2CSensorStats), m.sensors[sensor]? = some entry →
    entry.Times (log.stamps sensor)

namespace I2CMonitor.KeepsTimes

variable {m : I2CMonitor} {log : I2CStampLog}

theorem modifySensor (keeps : m.KeepsTimes log) (sensor : Nat)
    (f : I2CSensorStats → I2CSensorStats) (stamps : List I2CStamp)
    (updated : ∀ entry, entry.Times (log.stamps sensor) → (f entry).Times stamps) :
    (m.modifySensor sensor f).KeepsTimes
      { log with stamps := Function.update log.stamps sensor stamps } where
  mutex := keeps.mutex
  times := I2CMonitor.modifySensor_holds I2CSensorStats.Times keeps.times sensor f stamps
    fun entry stored => updated entry (keeps.times _ _ stored)

theorem step (keeps : m.KeepsTimes log) (call : I2CCall) :
    (m.step call).KeepsTimes (log.step call) := by
  cases call with
  | setSensorAddress sensor address =>
      simp only [I2CMonitor.step, I2CStampLog.step, I2CMonitor.debugI2CSetSensorAddress]
      split
      · have kept := keeps.modifySensor sensor (fun entry => { entry with address })
          (log.stamps sensor) fun _ times => times.readdress address
        rwa [Function.update_eq_self] at kept
      · exact keeps
  | transactionStart sensor nowUs =>
      simp only [I2CMonitor.step, I2CStampLog.step, I2CMonitor.debugI2CTransactionStart,
        I2CStampLog.record, keeps.mutex]
      by_cases taken : sensor < i2cSensorCount ∧ log.mutex = true
      · rw [if_pos taken, if_pos taken]
        exact keeps.modifySensor sensor _ _ fun _ times => times.transactionStart nowUs
      · rw [if_neg taken, if_neg taken]
        exact keeps
  | transactionEnd sensor success errorType nowUs nowMs =>
      simp only [I2CMonitor.step, I2CStampLog.step, I2CMonitor.debugI2CTransactionEnd,
        I2CStampLog.record, keeps.mutex]
      by_cases taken : sensor < i2cSensorCount ∧ log.mutex = true
      · rw [if_pos taken, if_pos taken]
        exact keeps.modifySensor sensor _ _ fun _ times =>
          times.transactionEnd success errorType nowUs nowMs
      · rw [if_neg taken, if_neg taken]
        exact keeps
  | checkHealth clock =>
      simp only [I2CMonitor.step, I2CStampLog.step, I2CMonitor.debugI2CCheckHealth]
      split
      · refine ⟨keeps.mutex, fun sensor entry found => ?_⟩
        simp only [List.getElem?_mapIdx] at found
        obtain ⟨before, stored, rfl⟩ := Option.map_eq_some'.mp found
        exact (keeps.times _ _ stored).checkHealth _
      · exact keeps
  | reset sensor =>
      simp only [I2CMonitor.step, I2CStampLog.step, I2CMonitor.debugI2CReset, keeps.mutex]
      split
      · exact keeps
      · split
        · refine ⟨rfl, fun other entry found => ?_⟩
          simp only [List.getElem?_map] at found
          obtain ⟨before, -, rfl⟩ := Option.map_eq_some'.mp found
          exact I2CSensorStats.Times.healthy _ _
        · split
          · exact keeps.modifySensor sensor _ _ fun _ _ => I2CSensorStats.Times.healthy _ _
          · exact keeps

theorem run (keeps : m.KeepsTimes log) (calls : List I2CCall) :
    (m.run calls).KeepsTimes (log.run calls) := by
  induction calls generalizing m log with
  | nil => exact keeps
  | cons call calls induction => exact induction (keeps.step call)

theorem init (created : Bool) :
    (debugI2CInit created).KeepsTimes ⟨created, fun _ => []⟩ where
  mutex := rfl
  times sensor entry found := by
    simp only [debugI2CInit, List.getElem?_map] at found
    obtain ⟨name, -, rfl⟩ := Option.map_eq_some'.mp found
    exact I2CSensorStats.Times.healthy _ _

end I2CMonitor.KeepsTimes

/-- From `debugI2CInit`, through any calls, the stamps record the events the counters are
read against, and every sensor's time fields stand for its stamps since its statistics were
last cleared: the start time is the `micros()` reading of the last start, the total and the
longest are the sum modulo `2 ^ 32` and the largest of the times of the ends, each the
`uint32_t` difference from the start in effect before it, and `last_success_ms` and
`last_failure_ms` are the `millis()` readings of the last success and the last failure, each
`0` before the first. -/
theorem i2c_times_record_stamps (created : Bool) (calls : List I2CCall) :
    (I2CStampLog.run ⟨created, fun _ => []⟩ calls).events =
        I2CLog.run ⟨created, fun _ => []⟩ calls ∧
      ((debugI2CInit created).run calls).KeepsTimes
        (I2CStampLog.run ⟨created, fun _ => []⟩ calls) :=
  ⟨I2CStampLog.events_run _ calls, (I2CMonitor.KeepsTimes.init created).run calls⟩

/-! ## What `debugI2CPrintStats` prints -/

/-- The block `debugI2CPrintStats` prints for a sensor (lines 250–274), at `millis()` =
`nowMs`: its name and address, its counters, rate and streaks, the average and the longest
transaction time, the time since the last success when one is stamped, and the flag. -/
structure I2CSensorReport where
  name : List Char
  address : BitVec 8
  totalTransactions : BitVec 32
  successfulTransactions : BitVec 32
  failedTransactions : BitVec 32
  timeoutErrors : BitVec 32
  nackErrors : BitVec 32
  busErrors : BitVec 32
  successRatePercentage : ℚ
  consecutiveFailures : BitVec 32
  maxConsecutiveFailures : BitVec 32
  timing : Option (ℚ × BitVec 32)
  sinceSuccessMs : Option (BitVec 32)
  busHealthy : Bool
  deriving DecidableEq, Repr

/-- One pass of the loop of lines 244–275: nothing for an unused sensor, else its block. -/
def I2CSensorStats.report (entry : I2CSensorStats) (nowMs : BitVec 32) :
    Option I2CSensorReport :=
  let stats := entry.stats
  if stats.totalTransactions = 0 then none
  else some
    { name := entry.name
      address := entry.address
      totalTransactions := stats.totalTransactions
      successfulTransactions := stats.successfulTransactions
      failedTransactions := stats.failedTransactions
      timeoutErrors := stats.timeoutErrors
      nackErrors := stats.nackErrors
      busErrors := stats.busErrors
      successRatePercentage := stats.successRatePercentage
      consecutiveFailures := stats.consecutiveFailures
      maxConsecutiveFailures := stats.maxConsecutiveFailures
      timing := if stats.totalTransactions > 0 then
          some ((stats.totalTransactionTimeUs.toNat : ℚ) / stats.totalTransactions.toNat,
            stats.longestTransactionUs)
        else none
      sinceSuccessMs := if stats.lastSuccessMs > 0 then some (nowMs - stats.lastSuccessMs)
        else none
      busHealthy := stats.busHealthy }

/-- `debugI2CPrintStats()`, reading `millis()` as `clock i` at sensor `i`: the blocks of the
used sensors, in order; nothing without the mutex. -/
def I2CMonitor.debugI2CPrintStats (m : I2CMonitor) (clock : Nat → BitVec 32) :
    Option (List I2CSensorReport) :=
  if !m.mutex then none
  else some ((m.sensors.mapIdx fun i entry => entry.report (clock i)).filterMap id)

theorem records_times_of_run (created : Bool) (calls : List I2CCall) {sensor : Nat}
    {entry : I2CSensorStats}
    (found : ((debugI2CInit created).run calls).sensors[sensor]? = some entry) :
    entry.stats.Records
        (((I2CStampLog.run ⟨created, fun _ => []⟩ calls).stamps sensor).map I2CStamp.event) ∧
      entry.stats.Rates
        (((I2CStampLog.run ⟨created, fun _ => []⟩ calls).stamps sensor).map I2CStamp.event) ∧
      entry.Times ((I2CStampLog.run ⟨created, fun _ => []⟩ calls).stamps sensor) := by
  have events : (I2CStampLog.run ⟨created, fun _ => []⟩ calls).events.events sensor =
      (I2CLog.run ⟨created, fun _ => []⟩ calls).events sensor := by
    rw [I2CStampLog.events_run]
    rfl
  have keeps := (I2CMonitor.Keeps.init created).run calls
  have records := keeps.records sensor entry found
  have rates := ((I2CMonitor.KeepsRates.init created).run (I2CMonitor.Keeps.init created)
    calls) sensor entry found
  rw [← events] at records rates
  exact ⟨records, rates,
    ((I2CMonitor.KeepsTimes.init created).run calls).times sensor entry found⟩

/-- One transaction of 100 µs, and a second under way. -/
def timedCalls : List I2CCall :=
  [.transactionStart 0 0, .transactionEnd 0 true 0 100 5, .transactionStart 0 200]

/-- The one completed transaction took 100 µs, yet the average printed is 50 µs. -/
example :
    (((debugI2CInit true).run timedCalls).debugI2CPrintStats fun _ => 300).map
      (·.map I2CSensorReport.timing) = some [some (50, 100)] := by
  with_unfolding_all rfl

/-! ## What `debugI2CCheckHealth` answers -/

/-- What the check should find of a sensor by its stamps, at `millis()` = `nowMs`: no start
since its last clear, or neither hung, its last success stamped at a nonzero reading more
than `I2C_HANG_THRESHOLD_MS` earlier, nor failing, more than ten starts with a `float`
success rate below 50 %. -/
def passesCheck (stamps : List I2CStamp) (nowMs : BitVec 32) : Bool :=
  let events := stamps.map I2CStamp.event
  decide (events.count .started = 0 ∨
    ¬((lastEndMs true stamps ≠ 0 ∧
        i2cHangThresholdMs < (nowMs - lastEndMs true stamps).toNat) ∨
      (completedRate events < 50 ∧ 10 < events.count .started)))

/-- The verdict of one pass of the check, from what the entry stands for. -/
theorem I2CSensorStats.checkHealth_verdict {entry : I2CSensorStats} {stamps : List I2CStamp}
    (records : entry.stats.Records (stamps.map I2CStamp.event))
    (rates : entry.stats.Rates (stamps.map I2CStamp.event)) (times : entry.Times stamps)
    (alternating : (openTransaction (stamps.map I2CStamp.event)).isSome)
    (fits : (stamps.map I2CStamp.event).count .started < 2 ^ 32) (nowMs : BitVec 32) :
    (entry.checkHealth nowMs).2 = passesCheck stamps nowMs := by
  have counted : entry.stats.totalTransactions.toNat =
      (stamps.map I2CStamp.event).count .started := by
    rw [records.total, Nat.mod_eq_of_lt fits]
  have stamped : 0 < entry.stats.lastSuccessMs.toNat ↔ entry.stats.lastSuccessMs ≠ 0 := by
    rw [Nat.pos_iff_ne_zero, Ne, Ne, BitVec.toNat_eq]
    rfl
  unfold checkHealth passesCheck
  dsimp only
  rw [rates alternating fits, counted, ← times.lastSuccess]
  by_cases zero : (stamps.map I2CStamp.event).count .started = 0
  · have unused : entry.stats.totalTransactions = 0 := BitVec.eq_of_toNat_eq (counted.trans zero)
    simp [unused, zero]
  · have used : entry.stats.totalTransactions ≠ 0 := fun unused =>
      zero (counted.symm.trans (congrArg BitVec.toNat unused))
    rw [if_neg used]
    split <;> simp_all

/-- The check reads the `float` rate, not the share: 5368728 successes of 10737457
completed transactions, fewer than half, read as `50.0f`, which is not below 50. -/
theorem completedRate_below_half_reads_fifty :
    let events := List.replicate 5368728 (I2CEvent.ended true 0) ++
      List.replicate 5368729 (I2CEvent.ended false 0)
    2 * events.countP I2CEvent.succeeded <
        events.countP I2CEvent.succeeded + events.countP I2CEvent.failed ∧
      completedRate events = 50 := by
  intro events
  have succeeded : events.countP I2CEvent.succeeded = 5368728 := by
    simp only [events, List.countP_append, List.countP_replicate, I2CEvent.succeeded,
      Bool.not_true, Bool.false_eq_true, if_true, if_false, Nat.add_zero]
  have failed : events.countP I2CEvent.failed = 5368729 := by
    simp only [events, List.countP_append, List.countP_replicate, I2CEvent.failed,
      Bool.not_true, Bool.not_false, Bool.false_eq_true, if_true, if_false, Nat.zero_add]
  rw [completedRate, succeeded, failed]
  exact ⟨by decide, by with_unfolding_all rfl⟩

/-- Over every run from `debugI2CInit` in which each sensor's starts and ends since its
statistics were last cleared alternate and number fewer than `2 ^ 32` starts,
`debugI2CCheckHealth` reports a healthy bus exactly when the mutex is missing or every
sensor passes: it has no start since its last clear, or neither a success stamped at a
nonzero `millis()` reading more than `I2C_HANG_THRESHOLD_MS` before the check, nor more than
ten starts with a `float` success rate over its completed transactions below 50 %. -/
theorem i2c_health_check_law (created : Bool) (calls : List I2CCall) (clock : Nat → BitVec 32)
    (alternating : ∀ sensor < i2cSensorCount, (openTransaction
      (((I2CStampLog.run ⟨created, fun _ => []⟩ calls).stamps sensor).map
        I2CStamp.event)).isSome)
    (fits : ∀ sensor < i2cSensorCount,
      (((I2CStampLog.run ⟨created, fun _ => []⟩ calls).stamps sensor).map
        I2CStamp.event).count .started < 2 ^ 32) :
    (((debugI2CInit created).run calls).debugI2CCheckHealth clock).1 =
      (!(I2CStampLog.run ⟨created, fun _ => []⟩ calls).mutex ||
        (List.range i2cSensorCount).all fun sensor =>
          passesCheck ((I2CStampLog.run ⟨created, fun _ => []⟩ calls).stamps sensor)
            (clock sensor)) := by
  have keeps := (I2CMonitor.KeepsTimes.init created).run calls
  have length := ((debugI2CInit created).run calls).length_sensors
  have verdicts : (((debugI2CInit created).run calls).sensors.mapIdx fun i entry =>
      (entry.checkHealth (clock i)).2) = (List.range i2cSensorCount).map fun sensor =>
        passesCheck ((I2CStampLog.run ⟨created, fun _ => []⟩ calls).stamps sensor)
          (clock sensor) := by
    refine List.ext_getElem? fun sensor => ?_
    rw [List.getElem?_mapIdx, List.getElem?_map]
    cases found : ((debugI2CInit created).run calls).sensors[sensor]? with
    | none =>
        rw [List.getElem?_eq_none_iff, length] at found
        rw [List.getElem?_eq_none (by rw [List.length_range]; exact found)]
        rfl
    | some entry =>
        have inside : sensor < i2cSensorCount := by
          rw [← length]
          exact (List.getElem?_eq_some_iff.mp found).1
        obtain ⟨records, rates, times⟩ := records_times_of_run created calls found
        rw [List.getElem?_range inside, Option.map_some', Option.map_some',
          entry.checkHealth_verdict records rates times (alternating sensor inside)
            (fits sensor inside)]
  unfold I2CMonitor.debugI2CCheckHealth
  rw [keeps.mutex]
  cases (I2CStampLog.run ⟨created, fun _ => []⟩ calls).mutex
  · rfl
  · rw [if_pos rfl, verdicts]
    simp only [Bool.not_true, Bool.false_or, List.all_map]
    rfl

theorem timedCalls_health_check :
    (∀ sensor < i2cSensorCount, (openTransaction
      (((I2CStampLog.run ⟨true, fun _ => []⟩ timedCalls).stamps sensor).map
        I2CStamp.event)).isSome) ∧
    (∀ sensor < i2cSensorCount,
      (((I2CStampLog.run ⟨true, fun _ => []⟩ timedCalls).stamps sensor).map
        I2CStamp.event).count .started < 2 ^ 32) ∧
    (((debugI2CInit true).run timedCalls).debugI2CCheckHealth fun _ => 6000).1 =
      (!(I2CStampLog.run ⟨true, fun _ => []⟩ timedCalls).mutex ||
        (List.range i2cSensorCount).all fun sensor =>
          passesCheck ((I2CStampLog.run ⟨true, fun _ => []⟩ timedCalls).stamps sensor)
            6000) := by
  have alternating : ∀ sensor < i2cSensorCount, (openTransaction
      (((I2CStampLog.run ⟨true, fun _ => []⟩ timedCalls).stamps sensor).map
        I2CStamp.event)).isSome := by
    decide
  have fits : ∀ sensor < i2cSensorCount,
      (((I2CStampLog.run ⟨true, fun _ => []⟩ timedCalls).stamps sensor).map
        I2CStamp.event).count .started < 2 ^ 32 := by
    decide
  exact ⟨alternating, fits,
    i2c_health_check_law true timedCalls (fun _ => 6000) alternating fits⟩

set_option maxRecDepth 4000 in
/-- The success stamped at 5 ms is more than five seconds old at 6000 ms, so the check fails
and clears the flag; at 300 ms it passes. -/
example :
    (((debugI2CInit true).run timedCalls).debugI2CCheckHealth fun _ => 6000).1 = false ∧
      (((debugI2CInit true).run timedCalls).debugI2CCheckHealth fun _ => 300).1 = true :=
  ⟨by with_unfolding_all rfl, by with_unfolding_all rfl⟩

end Mousetrap.Debug
