import Mathlib.Data.Finset.Card
import Mathlib.Data.Finset.Image

/-!
# The framebuffer tracker

`debug_framebuffer.h` counts the framebuffers the camera driver hands out and takes
back, in `g_fb_stats`, behind the mutex `g_fb_mutex`; every call returns at once while
the mutex is missing.  Times are `millis()` readings and the PSRAM figures are the heap's
answers, both arguments here.  A framebuffer is its 32-bit address, `0` being `NULL`.

The counters do not keep the balance a reader of `debugFramebufferPrintStats` expects.
A `NULL` that `esp_camera_fb_get()` returned counts as an allocation that nothing will
release, so the report shows a leak with nothing outstanding.  `debugFramebufferReset`
clears every counter but `current_outstanding`, as its comment intends: from then on the
totals count the traffic since the reset.  What the counters keep is measured by a
proof-only ledger of the run: the buffers outstanding, the `NULL`s reported and the buffers
outstanding at the last reset.
-/

namespace Mousetrap.Debug

/-- `FramebufferStats`. -/
structure FramebufferStats where
  totalAllocations : BitVec 32
  totalReleases : BitVec 32
  currentOutstanding : BitVec 32
  peakOutstanding : BitVec 32
  leakWarnings : BitVec 32
  psramUsedBytes : BitVec 32
  psramPeakBytes : BitVec 32
  lastAllocMs : BitVec 32
  lastReleaseMs : BitVec 32
  deriving DecidableEq, Repr

/-- The all-zero statistics of `memset(&g_fb_stats, 0, sizeof(g_fb_stats))`. -/
def FramebufferStats.zero : FramebufferStats :=
  ⟨0, 0, 0, 0, 0, 0, 0, 0, 0⟩

/-- `g_fb_stats`, and whether `g_fb_mutex` is set. -/
structure FbTracker where
  stats : FramebufferStats
  mutex : Bool
  deriving DecidableEq, Repr

/-- `FB_LEAK_THRESHOLD`. -/
def fbLeakThreshold : Nat := 3

/-- `FB_STALE_TIMEOUT_MS`. -/
def fbStaleTimeoutMs : Nat := 10000

/-- `debugFramebufferInit()`, `xSemaphoreCreateMutex` answering `created`. -/
def debugFramebufferInit (created : Bool) : FbTracker :=
  ⟨FramebufferStats.zero, created⟩

namespace FbTracker

/-- Lines 74–94: a non-null framebuffer raises the outstanding count, its peak, the PSRAM
figures and, past the threshold, the leak warnings. -/
def recordOutstanding (stats : FramebufferStats) (psramUsed : BitVec 32) : FramebufferStats :=
  let stats := { stats with currentOutstanding := stats.currentOutstanding + 1 }
  let stats := if stats.currentOutstanding > stats.peakOutstanding then
      { stats with peakOutstanding := stats.currentOutstanding } else stats
  let stats := { stats with psramUsedBytes := psramUsed }
  let stats := if stats.psramUsedBytes > stats.psramPeakBytes then
      { stats with psramPeakBytes := stats.psramUsedBytes } else stats
  if stats.currentOutstanding.toNat > fbLeakThreshold then
    { stats with leakWarnings := stats.leakWarnings + 1 } else stats

/-- `debugFramebufferAllocated(fb)` at `millis()` = `now`. -/
def debugFramebufferAllocated (t : FbTracker) (fb now psramUsed : BitVec 32) : FbTracker :=
  if !t.mutex then t
  else
    let stats := { t.stats with
      totalAllocations := t.stats.totalAllocations + 1
      lastAllocMs := now }
    { t with stats := if fb ≠ 0 then recordOutstanding stats psramUsed else stats }

/-- `debugFramebufferReleased(fb)` at `millis()` = `now`. -/
def debugFramebufferReleased (t : FbTracker) (fb now psramUsed : BitVec 32) : FbTracker :=
  if !t.mutex || fb == 0 then t
  else
    let stats := { t.stats with
      totalReleases := t.stats.totalReleases + 1
      lastReleaseMs := now }
    let stats := if stats.currentOutstanding > 0 then
        { stats with currentOutstanding := stats.currentOutstanding - 1 } else stats
    { t with stats := { stats with psramUsedBytes := psramUsed } }

/-- `debugFramebufferCheckStale()` at `millis()` = `now`. -/
def debugFramebufferCheckStale (t : FbTracker) (now : BitVec 32) : Bool :=
  t.mutex && decide (t.stats.currentOutstanding > 0) &&
    decide ((now - t.stats.lastAllocMs).toNat > fbStaleTimeoutMs)

/-- What `debugFramebufferPrintStats()` prints: the counters, the PSRAM figures in KB, and
the leak line with its `%d` count, or none on "No leaks detected". -/
structure FramebufferReport where
  totalAllocations : BitVec 32
  totalReleases : BitVec 32
  currentOutstanding : BitVec 32
  peakOutstanding : BitVec 32
  leakWarnings : BitVec 32
  psramUsedKb : BitVec 32
  psramPeakKb : BitVec 32
  leaked : Option Int
  deriving DecidableEq, Repr

/-- `debugFramebufferPrintStats()`; nothing without the mutex. -/
def debugFramebufferPrintStats (t : FbTracker) : Option FramebufferReport :=
  if !t.mutex then none
  else
    let stats := t.stats
    some ⟨stats.totalAllocations, stats.totalReleases, stats.currentOutstanding,
      stats.peakOutstanding, stats.leakWarnings, stats.psramUsedBytes / 1024,
      stats.psramPeakBytes / 1024,
      if stats.totalAllocations ≠ stats.totalReleases then
        some (stats.totalAllocations - stats.totalReleases).toInt
      else none⟩

/-- `debugFramebufferReset()`: every counter cleared but `current_outstanding`. -/
def debugFramebufferReset (t : FbTracker) : FbTracker :=
  if !t.mutex then t
  else { t with stats := { FramebufferStats.zero with
    currentOutstanding := t.stats.currentOutstanding } }

end FbTracker

/-- A call on the tracker, with the readings it takes. -/
inductive FbCall where
  | allocated (fb now psramUsed : BitVec 32)
  | released (fb now psramUsed : BitVec 32)
  | checkStale (now : BitVec 32)
  | printStats
  | reset
  deriving DecidableEq, Repr

/-- The tracker after a call. -/
def FbTracker.step (t : FbTracker) : FbCall → FbTracker
  | .allocated fb now psramUsed => t.debugFramebufferAllocated fb now psramUsed
  | .released fb now psramUsed => t.debugFramebufferReleased fb now psramUsed
  | .checkStale _ => t
  | .printStats => t
  | .reset => t.debugFramebufferReset

/-- The tracker after a sequence of calls. -/
def FbTracker.run (t : FbTracker) (calls : List FbCall) : FbTracker :=
  calls.foldl FbTracker.step t

/-! ## The ledger of a run -/

/-- The proof-only ledger: the non-null framebuffers reported allocated and not yet
released, the `NULL`s reported since the last reset, and the count of buffers outstanding
at the last reset. -/
structure FbLedger where
  outstanding : Finset (BitVec 32)
  nulls : Nat
  atReset : Nat

def FbLedger.empty : FbLedger :=
  ⟨∅, 0, 0⟩

/-- The ledger after a call. -/
def FbLedger.step (ledger : FbLedger) : FbCall → FbLedger
  | .allocated fb _ _ =>
      if fb = 0 then { ledger with nulls := ledger.nulls + 1 }
      else { ledger with outstanding := insert fb ledger.outstanding }
  | .released fb _ _ =>
      if fb = 0 then ledger else { ledger with outstanding := ledger.outstanding.erase fb }
  | .checkStale _ => ledger
  | .printStats => ledger
  | .reset => ⟨ledger.outstanding, 0, ledger.outstanding.card⟩

def FbLedger.run (ledger : FbLedger) (calls : List FbCall) : FbLedger :=
  calls.foldl FbLedger.step ledger

/-- The driver's side of the contract: a buffer is reported allocated only while it is not
outstanding, and released only while it is. -/
def FbCall.WellReported (ledger : FbLedger) : FbCall → Prop
  | .allocated fb _ _ => fb ≠ 0 → fb ∉ ledger.outstanding
  | .released fb _ _ => fb ≠ 0 → fb ∈ ledger.outstanding
  | _ => True

/-- Every call of a run is well reported against the ledger before it. -/
def WellReported (ledger : FbLedger) : List FbCall → Prop
  | [] => True
  | call :: calls => call.WellReported ledger ∧ WellReported (ledger.step call) calls

/-- What the counters keep: the outstanding count is the number of buffers outstanding;
allocations exceed releases, modulo `2 ^ 32`, by the `NULL`s and the buffers outstanding
now beyond those at the last reset; and the count never exceeded both the peak and the
count at the reset.  `NULL` is never outstanding. -/
structure FbAccounts (t : FbTracker) (ledger : FbLedger) : Prop where
  mutex : t.mutex = true
  nonNull : (0 : BitVec 32) ∉ ledger.outstanding
  current : t.stats.currentOutstanding.toNat = ledger.outstanding.card
  balance : (t.stats.totalAllocations.toNat + ledger.atReset) % 2 ^ 32 =
    (t.stats.totalReleases.toNat + ledger.nulls + ledger.outstanding.card) % 2 ^ 32
  peak : t.stats.currentOutstanding.toNat ≤ max t.stats.peakOutstanding.toNat ledger.atReset
  atReset_lt : ledger.atReset < 2 ^ 32

/-! ## One call keeps the accounts -/

theorem toNat_add_one (x : BitVec 32) : (x + 1).toNat = (x.toNat + 1) % 2 ^ 32 := by
  simp [BitVec.toNat_add]

theorem toNat_sub_one {x : BitVec 32} (positive : 0 < x.toNat) : (x - 1).toNat = x.toNat - 1 := by
  simp [BitVec.toNat_sub]
  omega

theorem card_lt_of_nonNull {buffers : Finset (BitVec 32)} (nonNull : (0 : BitVec 32) ∉ buffers) :
    buffers.card < 2 ^ 32 := by
  have inside : buffers.image BitVec.toNat ⊆ (Finset.range (2 ^ 32)).erase 0 := by
    intro index member
    obtain ⟨fb, found, rfl⟩ := Finset.mem_image.mp member
    refine Finset.mem_erase.mpr ⟨fun zero => ?_, Finset.mem_range.mpr fb.isLt⟩
    have isNull : fb = 0 := BitVec.eq_of_toNat_eq (by simpa using zero)
    exact nonNull (isNull ▸ found)
  have bound := Finset.card_le_card inside
  rw [Finset.card_image_of_injective _ fun _ _ same => BitVec.eq_of_toNat_eq same,
    Finset.card_erase_of_mem (Finset.mem_range.mpr (Nat.two_pow_pos 32)),
    Finset.card_range] at bound
  omega

theorem recordOutstanding_counts (stats : FramebufferStats) (psramUsed : BitVec 32) :
    let after := FbTracker.recordOutstanding stats psramUsed
    after.totalAllocations = stats.totalAllocations ∧
      after.totalReleases = stats.totalReleases ∧
      after.currentOutstanding = stats.currentOutstanding + 1 ∧
      (after.peakOutstanding = stats.currentOutstanding + 1 ∨
        after.peakOutstanding = stats.peakOutstanding ∧
          (stats.currentOutstanding + 1).toNat ≤ stats.peakOutstanding.toNat) := by
  simp only [FbTracker.recordOutstanding]
  by_cases higher : stats.currentOutstanding + 1 > stats.peakOutstanding
  · simp only [higher, if_true]
    split <;> split <;> exact ⟨rfl, rfl, rfl, .inl rfl⟩
  · have lower : (stats.currentOutstanding + 1).toNat ≤ stats.peakOutstanding.toNat := by
      simpa [BitVec.lt_def] using higher
    simp only [higher, if_false]
    split <;> split <;> exact ⟨rfl, rfl, rfl, .inr ⟨rfl, lower⟩⟩

theorem balance_allocated {allocations : BitVec 32} {left right : Nat}
    (balance : (allocations.toNat + left) % 2 ^ 32 = right % 2 ^ 32) :
    ((allocations + 1).toNat + left) % 2 ^ 32 = (right + 1) % 2 ^ 32 := by
  rw [toNat_add_one, Nat.mod_add_mod, Nat.add_right_comm, Nat.add_mod (_ + left), balance,
    ← Nat.add_mod]

theorem balance_released {releases : BitVec 32} {left others out : Nat}
    (balance : left % 2 ^ 32 = (releases.toNat + others + (out + 1)) % 2 ^ 32) :
    left % 2 ^ 32 = ((releases + 1).toNat + others + out) % 2 ^ 32 := by
  rw [balance, toNat_add_one, Nat.add_assoc (_ % _), Nat.mod_add_mod, ← Nat.add_assoc,
    Nat.add_right_comm _ 1, Nat.add_assoc _ others]

section Step

variable {t : FbTracker} {ledger : FbLedger}

theorem FbAccounts.allocated (accounts : FbAccounts t ledger) {fb now psramUsed : BitVec 32}
    (fresh : fb ≠ 0 → fb ∉ ledger.outstanding) :
    FbAccounts (t.debugFramebufferAllocated fb now psramUsed)
      (ledger.step (.allocated fb now psramUsed)) := by
  obtain ⟨mutex, nonNull, current, balance, peak, atReset_lt⟩ := accounts
  have allocations := balance_allocated balance
  by_cases null : fb = 0
  · simp only [FbTracker.debugFramebufferAllocated, mutex, FbLedger.step, null, ne_eq,
      not_true_eq_false, if_false, if_true, Bool.not_true, Bool.false_eq_true]
    refine ⟨rfl, nonNull, current, ?_, peak, atReset_lt⟩
    dsimp only
    rwa [← Nat.add_assoc, Nat.add_right_comm _ 1]
  · have notHeld := fresh null
    have stillNonNull : (0 : BitVec 32) ∉ insert fb ledger.outstanding := by
      simp only [Finset.mem_insert, not_or]
      exact ⟨Ne.symm null, nonNull⟩
    have room := card_lt_of_nonNull stillNonNull
    rw [Finset.card_insert_of_not_mem notHeld] at room
    obtain ⟨sameAllocations, sameReleases, raised, peaked⟩ :=
      recordOutstanding_counts { t.stats with
        totalAllocations := t.stats.totalAllocations + 1
        lastAllocMs := now } psramUsed
    have up : (t.stats.currentOutstanding + 1).toNat = t.stats.currentOutstanding.toNat + 1 := by
      rw [toNat_add_one, current, Nat.mod_eq_of_lt room]
    simp only [FbTracker.debugFramebufferAllocated, mutex, FbLedger.step, null, ne_eq,
      not_false_eq_true, if_true, if_false, Bool.not_true, Bool.false_eq_true]
    refine ⟨rfl, stillNonNull, ?_, ?_, ?_, atReset_lt⟩
    · rw [raised, Finset.card_insert_of_not_mem notHeld, up, current]
    · rwa [sameAllocations, sameReleases, Finset.card_insert_of_not_mem notHeld]
    · rw [raised]
      rcases peaked with higher | ⟨same, below⟩
      · rw [higher]
        exact le_max_left _ _
      · rw [same]
        exact le_max_of_le_left below

theorem FbAccounts.released (accounts : FbAccounts t ledger) {fb now psramUsed : BitVec 32}
    (held : fb ≠ 0 → fb ∈ ledger.outstanding) :
    FbAccounts (t.debugFramebufferReleased fb now psramUsed)
      (ledger.step (.released fb now psramUsed)) := by
  obtain ⟨mutex, nonNull, current, balance, peak, atReset_lt⟩ := accounts
  by_cases null : fb = 0
  · simpa [FbTracker.debugFramebufferReleased, FbLedger.step, null] using
      (⟨mutex, nonNull, current, balance, peak, atReset_lt⟩ : FbAccounts t ledger)
  · have member := held null
    have positive : 0 < ledger.outstanding.card := Finset.card_pos.mpr ⟨fb, member⟩
    have down : t.stats.currentOutstanding > 0 := by simpa [BitVec.lt_def, current] using positive
    have lowered := toNat_sub_one (show 0 < t.stats.currentOutstanding.toNat by rwa [current])
    simp only [FbTracker.debugFramebufferReleased, mutex, FbLedger.step, null, Bool.not_true,
      beq_iff_eq, Bool.false_or, decide_eq_true_eq, if_false, down, if_true, Bool.false_eq_true]
    rw [← Finset.card_erase_add_one member] at balance current
    refine ⟨rfl, fun zero => nonNull (Finset.mem_of_mem_erase zero), ?_, ?_, ?_, atReset_lt⟩
    · rw [lowered, current, Nat.add_sub_cancel]
    · exact balance_released balance
    · rw [lowered]
      exact (Nat.sub_le _ 1).trans peak

theorem FbAccounts.reset (accounts : FbAccounts t ledger) :
    FbAccounts t.debugFramebufferReset (ledger.step .reset) := by
  obtain ⟨mutex, nonNull, current, -, -, -⟩ := accounts
  simp only [FbTracker.debugFramebufferReset, mutex, Bool.not_true, Bool.false_eq_true,
    if_false, FbLedger.step]
  refine ⟨rfl, nonNull, current, ?_, ?_, card_lt_of_nonNull nonNull⟩ <;>
    simp [FramebufferStats.zero, current]

theorem FbAccounts.init : FbAccounts (debugFramebufferInit true) FbLedger.empty :=
  ⟨rfl, by simp [FbLedger.empty], rfl, rfl, by simp [debugFramebufferInit,
    FramebufferStats.zero, FbLedger.empty], by decide⟩

theorem FbAccounts.step (accounts : FbAccounts t ledger) {call : FbCall}
    (reported : call.WellReported ledger) :
    FbAccounts (t.step call) (ledger.step call) := by
  cases call with
  | allocated fb now psramUsed => exact accounts.allocated reported
  | released fb now psramUsed => exact accounts.released reported
  | checkStale now => exact accounts
  | printStats => exact accounts
  | reset => exact accounts.reset

theorem FbAccounts.run (accounts : FbAccounts t ledger) {calls : List FbCall}
    (reported : WellReported ledger calls) :
    FbAccounts (t.run calls) (ledger.run calls) := by
  induction calls generalizing t ledger with
  | nil => exact accounts
  | cons call calls induction => exact induction (accounts.step reported.1) reported.2

end Step

/-- With no `NULL` reported since the last reset, allocations minus releases is the growth
of the outstanding count since the reset, and the report shows a leak exactly when the
count differs from its value at the reset. -/
theorem FbAccounts.sinceReset {t : FbTracker} {ledger : FbLedger} (accounts : FbAccounts t ledger)
    (noNulls : ledger.nulls = 0) :
    t.stats.totalAllocations - t.stats.totalReleases =
        t.stats.currentOutstanding - BitVec.ofNat 32 ledger.atReset ∧
      ((t.debugFramebufferPrintStats.bind (·.leaked)).isSome ↔
        ledger.outstanding.card ≠ ledger.atReset) := by
  obtain ⟨mutex, -, current, balance, -, atReset_lt⟩ := accounts
  rw [noNulls, Nat.add_zero, ← current] at balance
  have released := t.stats.totalReleases.isLt
  have allocated := t.stats.totalAllocations.isLt
  have counted := t.stats.currentOutstanding.isLt
  refine ⟨BitVec.eq_of_toNat_eq ?_, ?_⟩
  · simp only [BitVec.toNat_sub, BitVec.toNat_ofNat, Nat.mod_eq_of_lt atReset_lt]
    omega
  · have leaks : t.stats.totalAllocations ≠ t.stats.totalReleases ↔
        ledger.outstanding.card ≠ ledger.atReset := by
      rw [BitVec.toNat_ne, ← current]
      omega
    simp only [FbTracker.debugFramebufferPrintStats, mutex, Bool.not_true, Bool.false_eq_true,
      if_false, Option.some_bind]
    rw [← leaks]
    split <;> simp_all

/-- The statistics after `debugFramebufferInit` and a well-reported run, with `O` the
buffers out and `R` those out at the last reset: the outstanding count is `|O|` and never
exceeded both its peak and `R`; and while no `NULL` was reported since that reset, the
totals count the traffic since it, so allocations minus releases is `|O| - R` and the report
shows a leak exactly when `|O| ≠ R`. -/
structure FbRunLaw (calls : List FbCall) : Prop where
  current : ((debugFramebufferInit true).run calls).stats.currentOutstanding.toNat =
    (FbLedger.empty.run calls).outstanding.card
  peak : ((debugFramebufferInit true).run calls).stats.currentOutstanding.toNat ≤
    max ((debugFramebufferInit true).run calls).stats.peakOutstanding.toNat
      (FbLedger.empty.run calls).atReset
  sinceReset : (FbLedger.empty.run calls).nulls = 0 →
    let t := (debugFramebufferInit true).run calls
    t.stats.totalAllocations - t.stats.totalReleases =
        t.stats.currentOutstanding - BitVec.ofNat 32 (FbLedger.empty.run calls).atReset ∧
      ((t.debugFramebufferPrintStats.bind (·.leaked)).isSome ↔
        (FbLedger.empty.run calls).outstanding.card ≠ (FbLedger.empty.run calls).atReset)

/-- After `debugFramebufferInit` and a well-reported run the counters follow `FbRunLaw`. -/
theorem framebuffer_run_law {calls : List FbCall} (reported : WellReported FbLedger.empty calls) :
    FbRunLaw calls :=
  have accounts := FbAccounts.init.run reported
  ⟨accounts.current, accounts.peak, fun noNulls => accounts.sinceReset noNulls⟩

/-- Two buffers out, one back, a reset with one out, a third buffer out, then a print. -/
def balancedCalls : List FbCall :=
  [.allocated 4096 5 0, .allocated 8192 6 0, .released 4096 9 0, .reset, .allocated 12288 12 0,
    .printStats]

theorem balancedCalls_run_law : FbRunLaw balancedCalls :=
  framebuffer_run_law (by simp [balancedCalls, WellReported, FbCall.WellReported, FbLedger.step,
    FbLedger.empty])

/-- A `NULL` from `esp_camera_fb_get()`, which the header lets the caller report, counts as
an allocation that nothing releases: the report shows one buffer leaked with none
outstanding. -/
theorem framebuffer_null_counted_as_leak :
    WellReported FbLedger.empty [.allocated 0 5 0] ∧
      (FbLedger.empty.run [.allocated 0 5 0]).outstanding = ∅ ∧
      ((debugFramebufferInit true).run [.allocated 0 5 0]).stats.currentOutstanding = 0 ∧
      (((debugFramebufferInit true).run [.allocated 0 5 0]).debugFramebufferPrintStats.bind
        (·.leaked)) = some 1 :=
  ⟨by simp [WellReported, FbCall.WellReported], rfl, by decide, by decide⟩

end Mousetrap.Debug
