import Mousetrap.Motion.Detect

/-!
# Runs of a detector

A program owns a `MotionDetector` and, through `detectFromJpegSize`, the one
copy of its statics.  A run is a sequence of calls on that detector, each
recorded with the engine it started from and the result it returned.  Time is
the real time since boot, unbounded; `millis()` is that time modulo `2 ^ 32`.
A call that faults ends the run.
-/

namespace Mousetrap.Motion

/-- The detector and the statics of the JPEG path. -/
structure Engine where
  detector : MotionDetector
  statics : JpegStatics
  deriving DecidableEq

/-- A call on the detector.  `detect` carries the real times at which it reads
`millis()` (the gate, then the acceptance) and the allocator's answers. -/
inductive Call where
  | detect (frame : Option CameraFb) (gateTime acceptTime : Nat) (alloc : AllocOracle)
  | setConfig (config : MotionConfig)
  | reset
  deriving DecidableEq

/-- `millis()` at real time `time`: a 32-bit counter that wraps every `2 ^ 32` ms. -/
def millis (time : Nat) : BitVec 32 :=
  BitVec.ofNat 32 time

/-- One call on the engine; `detect` alone returns a result. -/
def Engine.step (engine : Engine) : Call → Except MotionFault (Option MotionResult × Engine)
  | .detect frame gateTime acceptTime alloc => do
      let (result, detector, statics) ← engine.detector.detect engine.statics frame
        (millis gateTime) (millis acceptTime) alloc
      pure (some result, ⟨detector, statics⟩)
  | .setConfig config => .ok (none, ⟨engine.detector.setConfig config, engine.statics⟩)
  | .reset => .ok (none, ⟨engine.detector.reset, engine.statics⟩)

/-- A call as a run records it. -/
structure Step where
  before : Engine
  call : Call
  result : Option MotionResult
  deriving DecidableEq

/-- `Run start steps finish`: the recorded calls, in order, take `start` to `finish`. -/
inductive Run : Engine → List Step → Engine → Prop where
  | nil (engine : Engine) : Run engine [] engine
  | snoc {start engine after : Engine} {steps : List Step} {call : Call}
      {result : Option MotionResult} :
      Run start steps engine → engine.step call = .ok (result, after) →
      Run start (steps ++ [⟨engine, call, result⟩]) after

/-- The steps of `calls` from `engine`, up to the first fault, and the engine they
reach. -/
def Engine.trace (engine : Engine) : List Call → List Step × Engine
  | [] => ([], engine)
  | call :: calls =>
      match engine.step call with
      | .ok (result, after) =>
          let (steps, finish) := after.trace calls
          (⟨engine, call, result⟩ :: steps, finish)
      | .error _ => ([], engine)

/-- The clock readings of a call, in the order it takes them. -/
def Call.readings : Call → List Nat
  | .detect _ gateTime acceptTime _ => [gateTime, acceptTime]
  | .setConfig _ => []
  | .reset => []

/-- The real clock never goes back: all readings of a run, in order, are sorted. -/
def ClockMonotone (steps : List Step) : Prop :=
  (steps.flatMap fun step => step.call.readings).Pairwise (· ≤ ·)

instance (steps : List Step) : Decidable (ClockMonotone steps) :=
  inferInstanceAs (Decidable (List.Pairwise _ _))

/-- The call returned a detection. -/
def Step.accepted (step : Step) : Bool :=
  step.result.any (·.detected)

/-- The real time at which a call read `millis()` to accept; `0` for other calls. -/
def Step.acceptTime (step : Step) : Nat :=
  match step.call with
  | .detect _ _ acceptTime _ => acceptTime
  | _ => 0

def Step.isReset (step : Step) : Bool :=
  step.call == .reset

/-! ## One step -/

namespace Engine

variable {engine after : Engine} {result : Option MotionResult}

theorem step_detect {frame : Option CameraFb} {gateTime acceptTime : Nat} {alloc : AllocOracle}
    (stepped : engine.step (.detect frame gateTime acceptTime alloc) = .ok (result, after)) :
    ∃ detected, result = some detected ∧
      engine.detector.detect engine.statics frame (millis gateTime) (millis acceptTime) alloc =
        .ok (detected, after.detector, after.statics) := by
  obtain ⟨⟨detected, detector, statics⟩, called, stepped⟩ := bind_eq_ok stepped
  cases stepped
  exact ⟨detected, rfl, called⟩

theorem step_setConfig {config : MotionConfig}
    (stepped : engine.step (.setConfig config) = .ok (result, after)) :
    result = none ∧ after = ⟨engine.detector.setConfig config, engine.statics⟩ := by
  cases stepped
  exact ⟨rfl, rfl⟩

theorem step_reset (stepped : engine.step .reset = .ok (result, after)) :
    result = none ∧ after = ⟨engine.detector.reset, engine.statics⟩ := by
  cases stepped
  exact ⟨rfl, rfl⟩

end Engine

/-! ## Runs -/

namespace Run

theorem cons {first start : Engine} {steps : List Step} {finish : Engine} {call : Call}
    {result : Option MotionResult} (run : Run start steps finish)
    (stepped : first.step call = .ok (result, start)) :
    Run first (⟨first, call, result⟩ :: steps) finish := by
  induction run with
  | nil => exact .snoc (.nil first) stepped
  | snoc _ later induction => exact .snoc induction later

/-- Every list of calls is a run, up to its first fault. -/
theorem of_trace (engine : Engine) (calls : List Call) :
    Run engine (engine.trace calls).1 (engine.trace calls).2 := by
  induction calls generalizing engine with
  | nil => exact .nil engine
  | cons call calls induction =>
      simp only [Engine.trace]
      split
      · next stepped => exact cons (induction _) stepped
      · exact .nil engine

theorem getElem?_snoc {steps : List Step} {last entry : Step} {index : Nat}
    (found : (steps ++ [last])[index]? = some entry) :
    steps[index]? = some entry ∧ index < steps.length ∨
      index = steps.length ∧ entry = last := by
  rcases Nat.lt_or_ge index steps.length with early | late
  · exact .inl ⟨by rwa [List.getElem?_append_left early] at found, early⟩
  · have inside := (List.getElem?_eq_some_iff.mp found).1
    simp only [List.length_append, List.length_singleton] at inside
    obtain rfl : index = steps.length := by omega
    simp only [List.getElem?_append_right (Nat.le_refl _), Nat.sub_self,
      List.getElem?_cons_zero, Option.some.injEq] at found
    exact .inr ⟨rfl, found.symm⟩

theorem take {start finish : Engine} {steps : List Step} (run : Run start steps finish)
    {index : Nat} {step : Step} (found : steps[index]? = some step) :
    Run start (steps.take index) step.before := by
  induction run generalizing index with
  | nil => simp at found
  | snoc earlier _ induction =>
      rcases getElem?_snoc found with ⟨found, early⟩ | ⟨rfl, rfl⟩
      · rw [List.take_append_of_le_length (Nat.le_of_lt early)]
        exact induction found
      · simpa using earlier

theorem stepped {start finish : Engine} {steps : List Step} (run : Run start steps finish)
    {index : Nat} {step : Step} (found : steps[index]? = some step) :
    ∃ after, step.before.step step.call = .ok (step.result, after) := by
  induction run generalizing index with
  | nil => simp at found
  | @snoc engine after steps call result _ stepped induction =>
      rcases getElem?_snoc found with ⟨found, -⟩ | ⟨rfl, rfl⟩
      · exact induction found
      · exact ⟨after, stepped⟩

end Run

namespace ClockMonotone

theorem take {steps : List Step} (clock : ClockMonotone steps) (count : Nat) :
    ClockMonotone (steps.take count) := by
  unfold ClockMonotone at *
  rw [← List.take_append_drop count steps, List.flatMap_append] at clock
  exact (List.pairwise_append.mp clock).1

theorem le_of_lt {steps : List Step} (clock : ClockMonotone steps) {i j : Nat}
    {first second : Step} (ordered : i < j) (firstAt : steps[i]? = some first)
    (secondAt : steps[j]? = some second) :
    ∀ early ∈ first.call.readings, ∀ late ∈ second.call.readings, early ≤ late := by
  unfold ClockMonotone at clock
  rw [← List.take_append_drop j steps, List.flatMap_append] at clock
  have firstIn : first ∈ steps.take j :=
    List.mem_iff_getElem?.mpr ⟨i, by rw [List.getElem?_take_of_lt ordered, firstAt]⟩
  have secondIn : second ∈ steps.drop j :=
    List.mem_iff_getElem?.mpr ⟨0, by rw [List.getElem?_drop, Nat.add_zero, secondAt]⟩
  intro early earlyIn late lateIn
  exact (List.pairwise_append.mp clock).2.2 early
    (List.mem_flatMap.mpr ⟨first, firstIn, earlyIn⟩)
    late (List.mem_flatMap.mpr ⟨second, secondIn, lateIn⟩)

theorem gate_le_accept {steps : List Step} (clock : ClockMonotone steps) {step : Step}
    (member : step ∈ steps) {frame : Option CameraFb} {gateTime acceptTime : Nat}
    {alloc : AllocOracle} (call : step.call = .detect frame gateTime acceptTime alloc) :
    gateTime ≤ acceptTime := by
  unfold ClockMonotone at clock
  obtain ⟨index, found⟩ := List.mem_iff_getElem?.mp member
  obtain ⟨inside, rfl⟩ := List.getElem?_eq_some_iff.mp found
  rw [← List.take_append_drop index steps, List.flatMap_append,
    List.drop_eq_getElem_cons inside] at clock
  have sorted := (List.pairwise_append.mp clock).2.1
  simp only [List.flatMap_cons, call, Call.readings, List.cons_append, List.nil_append,
    List.pairwise_cons] at sorted
  exact sorted.1 acceptTime (List.mem_cons_self _ _)

end ClockMonotone

end Mousetrap.Motion
