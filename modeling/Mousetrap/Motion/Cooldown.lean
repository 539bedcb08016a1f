import Mousetrap.Motion.Run

/-!
# The cooldown gate over a run

`lastDetectionTime` is the `millis()` reading of the most recent detection since
construction or the last `reset()`, and `0` when there is none: the constructor
and `reset()` store the same value a detection at time `0` would.  The gate
compares the current reading with it in 32-bit unsigned arithmetic.

Over a run against a real clock that never goes back, this gives two things.
Two detections with no `reset()` between them are at least the cooldown of the
later call apart, whatever the number of wraps of `millis()`.  And the gate
suppresses a frame exactly when less than `cooldownMs` has passed, modulo `2 ^ 32`,
since the last detection, counting boot or the last `reset()` as one.  The
cooldown is meant to run between detections, but the `0` sentinel makes it also
suppress the first `cooldownMs` after boot or a reset, with no detection behind
it, and shortly after each wrap of `millis()`.
-/
namespace Mousetrap.Motion

/-- The acceptance time a step leaves behind, starting from `time`. -/
def Step.acceptance (time : Nat) (step : Step) : Nat :=
  if step.isReset then 0 else if step.accepted then step.acceptTime else time

/-- The real time of the most recent detection since the start or the last `reset()`,
and `0` when there is none. -/
def lastAcceptance (steps : List Step) : Nat :=
  steps.foldl Step.acceptance 0

theorem lastAcceptance_append (steps : List Step) (step : Step) :
    lastAcceptance (steps ++ [step]) = step.acceptance (lastAcceptance steps) := by
  simp [lastAcceptance, List.foldl_append]

/-- `lastDetectionTime` is `millis()` at the most recent detection of the run. -/
theorem lastDetectionTime_eq {statics : JpegStatics} {steps : List Step} {finish : Engine}
    (run : Run ⟨MotionDetector.new, statics⟩ steps finish) :
    finish.detector.lastDetectionTime = millis (lastAcceptance steps) := by
  induction run with
  | nil => rfl
  | @snoc engine after steps call result _ stepped induction =>
      rw [lastAcceptance_append]
      cases call with
      | detect frame gateTime acceptTime alloc =>
          obtain ⟨detected, rfl, called⟩ := Engine.step_detect stepped
          rw [MotionDetector.detect_lastDetectionTime called, induction]
          by_cases accepted : detected.detected <;>
            simp [Step.acceptance, Step.isReset, Step.accepted, Step.acceptTime, accepted]
      | setConfig config =>
          obtain ⟨rfl, rfl⟩ := Engine.step_setConfig stepped
          simpa [Step.acceptance, Step.isReset, Step.accepted] using induction
      | reset =>
          obtain ⟨rfl, rfl⟩ := Engine.step_reset stepped
          rfl

section Folds

theorem foldl_acceptance_of_no_reset (steps : List Step) (time : Nat)
    (noReset : ∀ step ∈ steps, step.isReset = false) :
    steps.foldl Step.acceptance time = time ∨
      ∃ step ∈ steps, step.accepted ∧ steps.foldl Step.acceptance time = step.acceptTime := by
  induction steps generalizing time with
  | nil => exact .inl rfl
  | cons step steps induction =>
      have later := induction (step.acceptance time) fun other member =>
        noReset other (List.mem_cons_of_mem _ member)
      simp only [List.foldl_cons, Step.acceptance, noReset step (List.mem_cons_self _ _),
        Bool.false_eq_true, if_false] at later ⊢
      rcases later with same | ⟨other, member, otherAccepted, equal⟩
      · by_cases accepted : step.accepted
        · rw [if_pos accepted] at same ⊢
          exact .inr ⟨step, List.mem_cons_self _ _, accepted, same⟩
        · rw [if_neg accepted] at same ⊢
          exact .inl same
      · exact .inr ⟨other, List.mem_cons_of_mem _ member, otherAccepted, equal⟩

theorem lastAcceptance_cases (steps : List Step) :
    lastAcceptance steps = 0 ∨
      ∃ step ∈ steps, step.accepted ∧ lastAcceptance steps = step.acceptTime := by
  induction steps using List.reverseRecOn with
  | nil => exact .inl rfl
  | append_singleton steps step induction =>
      rw [lastAcceptance_append]
      unfold Step.acceptance
      split
      · exact .inl rfl
      · split
        · next accepted => exact .inr ⟨step, by simp, accepted, rfl⟩
        · rcases induction with zero | ⟨other, member, accepted, equal⟩
          · exact .inl zero
          · exact .inr ⟨other, by simp [member], accepted, equal⟩

end Folds

theorem Step.call_of_accepted {step : Step} (accepted : step.accepted = true)
    (stepped : ∃ after, step.before.step step.call = .ok (step.result, after)) :
    ∃ frame gateTime alloc, step.call = .detect frame gateTime step.acceptTime alloc := by
  obtain ⟨after, stepped⟩ := stepped
  cases call : step.call with
  | detect frame gateTime acceptTime alloc =>
      exact ⟨frame, gateTime, alloc, by simp [Step.acceptTime, call]⟩
  | setConfig config =>
      rw [call] at stepped
      simp [Step.accepted, (Engine.step_setConfig stepped).1] at accepted
  | reset =>
      rw [call] at stepped
      simp [Step.accepted, (Engine.step_reset stepped).1] at accepted

theorem Step.readings_of_accepted {step : Step} (accepted : step.accepted = true)
    (stepped : ∃ after, step.before.step step.call = .ok (step.result, after)) :
    step.acceptTime ∈ step.call.readings := by
  obtain ⟨frame, gateTime, alloc, call⟩ := Step.call_of_accepted accepted stepped
  simp [call, Call.readings]

theorem Step.isReset_of_accepted {step : Step} (accepted : step.accepted = true)
    (stepped : ∃ after, step.before.step step.call = .ok (step.result, after)) :
    step.isReset = false := by
  obtain ⟨frame, gateTime, alloc, call⟩ := Step.call_of_accepted accepted stepped
  simp [Step.isReset, call]

theorem millis_sub_toNat {earlier later : Nat} (ordered : earlier ≤ later) :
    (millis later - millis earlier).toNat = (later - earlier) % 2 ^ 32 := by
  simp only [millis, BitVec.toNat_sub, BitVec.toNat_ofNat]
  omega

theorem Step.gateOpen_of_accepted {step : Step} (accepted : step.accepted = true)
    (stepped : ∃ after, step.before.step step.call = .ok (step.result, after)) :
    ∃ frame gateTime alloc, step.call = .detect frame gateTime step.acceptTime alloc ∧
      step.before.detector.coolingDown (millis gateTime) = false := by
  obtain ⟨frame, gateTime, alloc, call⟩ := Step.call_of_accepted accepted stepped
  obtain ⟨after, stepped⟩ := stepped
  rw [call] at stepped
  obtain ⟨detected, found, called⟩ := Engine.step_detect stepped
  refine ⟨frame, gateTime, alloc, call,
    (MotionDetector.detect_gate_open_of_detected called ?_).2⟩
  simpa [Step.accepted, found] using accepted

section Bounds

variable {start finish : Engine} {steps : List Step} (run : Run start steps finish)
  (clock : ClockMonotone steps)
include run clock

theorem lastAcceptance_le_reading {index : Nat} {step : Step} (found : steps[index]? = some step) :
    ∀ time ∈ step.call.readings, lastAcceptance (steps.take index) ≤ time := by
  intro time reading
  rcases lastAcceptance_cases (steps.take index) with zero | ⟨earlier, member, accepted, equal⟩
  · omega
  · obtain ⟨position, earlierAt⟩ := List.mem_iff_getElem?.mp member
    have inside : position < index := by
      have := (List.getElem?_eq_some_iff.mp earlierAt).1
      simp at this
      omega
    rw [List.getElem?_take_of_lt inside] at earlierAt
    rw [equal]
    exact clock.le_of_lt inside earlierAt found _
      (Step.readings_of_accepted accepted (run.stepped earlierAt)) _ reading

theorem acceptTime_le_lastAcceptance {index : Nat} {accepted : Step}
    (found : steps[index]? = some accepted) (wasAccepted : accepted.accepted = true)
    (noReset : ∀ later step, index < later → steps[later]? = some step →
      step.isReset = false) :
    accepted.acceptTime ≤ lastAcceptance steps := by
  have inside := (List.getElem?_eq_some_iff.mp found).1
  have split : steps = steps.take index ++ [accepted] ++ steps.drop (index + 1) := by
    conv_lhs => rw [← List.take_append_drop index steps, List.drop_eq_getElem_cons inside]
    simp [(List.getElem?_eq_some_iff.mp found).2]
  have notReset := Step.isReset_of_accepted wasAccepted (run.stepped found)
  have atAccepted :
      (steps.take index ++ [accepted]).foldl Step.acceptance 0 = accepted.acceptTime := by
    simp [List.foldl_append, Step.acceptance, notReset, wasAccepted]
  have tailNoReset : ∀ step ∈ steps.drop (index + 1), step.isReset = false := by
    intro step member
    obtain ⟨offset, position⟩ := List.mem_iff_getElem?.mp member
    rw [List.getElem?_drop] at position
    exact noReset _ step (by omega) position
  unfold lastAcceptance
  rw [split, List.foldl_append, atAccepted]
  rcases foldl_acceptance_of_no_reset _ accepted.acceptTime tailNoReset with
    same | ⟨later, member, laterAccepted, equal⟩
  · exact Nat.le_of_eq same.symm
  · rw [equal]
    obtain ⟨offset, laterAt⟩ := List.mem_iff_getElem?.mp member
    rw [List.getElem?_drop] at laterAt
    exact clock.le_of_lt (by omega) found laterAt _
      (Step.readings_of_accepted wasAccepted (run.stepped found)) _
      (Step.readings_of_accepted laterAccepted (run.stepped laterAt))

end Bounds

/-! ## Spacing of detections -/

/-- Two detections with no `reset()` between them are at least the cooldown of the later
call apart in real time, across any number of wraps of `millis()`. -/
theorem detections_spaced_by_cooldown {statics : JpegStatics} {steps : List Step}
    {finish : Engine} (run : Run ⟨MotionDetector.new, statics⟩ steps finish)
    (clock : ClockMonotone steps) {i j : Nat} {first second : Step} (ordered : i < j)
    (firstAt : steps[i]? = some first) (secondAt : steps[j]? = some second)
    (firstAccepted : first.accepted = true) (secondAccepted : second.accepted = true)
    (noReset : ∀ k step, i < k → k < j → steps[k]? = some step → step.isReset = false) :
    first.acceptTime + second.before.detector.config.cooldownMs.toNat ≤ second.acceptTime := by
  obtain ⟨frame, gateTime, alloc, call, gateOpen⟩ :=
    Step.gateOpen_of_accepted secondAccepted (run.stepped secondAt)
  have sinceFirst : first.acceptTime ≤ lastAcceptance (steps.take j) := by
    refine acceptTime_le_lastAcceptance (run.take secondAt) (clock.take j)
      (by rw [List.getElem?_take_of_lt ordered, firstAt]) firstAccepted ?_
    intro k step later found
    rw [List.getElem?_take] at found
    split at found
    · next inside => exact noReset k step later inside found
    · cases found
  have beforeGate : lastAcceptance (steps.take j) ≤ gateTime :=
    lastAcceptance_le_reading run clock secondAt gateTime (by simp [call, Call.readings])
  have gateFirst : gateTime ≤ second.acceptTime :=
    clock.gate_le_accept (List.getElem?_mem secondAt) call
  have elapsed := Nat.mod_le (gateTime - lastAcceptance (steps.take j)) (2 ^ 32)
  rw [MotionDetector.coolingDown, lastDetectionTime_eq (run.take secondAt),
    millis_sub_toNat beforeGate, decide_eq_false_iff_not, Nat.not_lt] at gateOpen
  omega

/-- A one-pixel grayscale frame. -/
def pixelFrame (value : BitVec 8) : CameraFb :=
  ⟨some [value], 1, 1, 1, .grayscale⟩

/-- Threshold `0`, any size, one-pixel blocks, a 10 ms cooldown; then three frames that
change the pixel at 100, 200 and 300 ms. -/
def spacedCalls : List Call :=
  [.setConfig ⟨0, 0, 100, 1, 10⟩, .detect (some (pixelFrame 0)) 100 100 ⟨true, true⟩,
    .detect (some (pixelFrame 100)) 200 200 ⟨true, true⟩,
    .detect (some (pixelFrame 0)) 300 300 ⟨true, true⟩]

set_option maxRecDepth 4000 in
theorem spacedCalls_detections_spaced :
    ∃ first second,
      (Engine.trace ⟨MotionDetector.new, JpegStatics.initial⟩ spacedCalls).1[2]? =
        some first ∧
      (Engine.trace ⟨MotionDetector.new, JpegStatics.initial⟩ spacedCalls).1[3]? =
        some second ∧
      first.accepted = true ∧ second.accepted = true ∧
      first.acceptTime + second.before.detector.config.cooldownMs.toNat ≤ second.acceptTime := by
  obtain ⟨first, firstAt, firstAccepted⟩ := Option.map_eq_some'.mp
    (by with_unfolding_all decide :
      ((Engine.trace ⟨MotionDetector.new, JpegStatics.initial⟩ spacedCalls).1[2]?).map
        Step.accepted = some true)
  obtain ⟨second, secondAt, secondAccepted⟩ := Option.map_eq_some'.mp
    (by with_unfolding_all decide :
      ((Engine.trace ⟨MotionDetector.new, JpegStatics.initial⟩ spacedCalls).1[3]?).map
        Step.accepted = some true)
  exact ⟨first, second, firstAt, secondAt, firstAccepted, secondAccepted,
    detections_spaced_by_cooldown (Run.of_trace _ _) (by with_unfolding_all decide)
      (by decide) firstAt secondAt firstAccepted secondAccepted
      fun k _ later earlier _ => absurd later (by omega)⟩

/-! ## What the gate suppresses -/

/-- Over every run from construction against a clock that never goes back, the cooldown
gate decides a call on a valid frame by the real time since the most recent detection
since the start or the last `reset()`, real time `0` standing in when there is none: within
`cooldownMs` of it, modulo `2 ^ 32`, `detect` returns the zero result and leaves the
detector and the statics as they were; beyond, the frame goes on to its path. -/
theorem detect_gate_of_run {statics : JpegStatics} {steps : List Step}
    {finish : Engine} (run : Run ⟨MotionDetector.new, statics⟩ steps finish)
    (clock : ClockMonotone steps) {j : Nat} {step : Step} (found : steps[j]? = some step)
    {frame : Option CameraFb} {gateTime acceptTime : Nat} {alloc : AllocOracle}
    (call : step.call = .detect frame gateTime acceptTime alloc) {fb : CameraFb}
    {buf : List (BitVec 8)} (valid : validFrame frame = some (fb, buf)) :
    step.before.detector.detect step.before.statics frame (millis gateTime)
        (millis acceptTime) alloc =
      if (gateTime - lastAcceptance (steps.take j)) % 2 ^ 32 <
          step.before.detector.config.cooldownMs.toNat then
        .ok (MotionResult.zero, step.before.detector, step.before.statics)
      else step.before.detector.detectFrame step.before.statics fb buf (millis acceptTime) alloc := by
  have beforeGate : lastAcceptance (steps.take j) ≤ gateTime :=
    lastAcceptance_le_reading run clock found gateTime (by simp [call, Call.readings])
  simp only [MotionDetector.detect, valid, MotionDetector.coolingDown,
    lastDetectionTime_eq (run.take found), millis_sub_toNat beforeGate, decide_eq_true_eq]

/-- A two-second cooldown with one-pixel blocks, then a valid frame read at real time
`time`. -/
def bootCalls (time : Nat) : List Call :=
  [.setConfig ⟨0, 0, 100, 1, 2000⟩, .detect (some (pixelFrame 0)) time time ⟨true, true⟩]

theorem bootCalls_gate_decides :
    let steps := (Engine.trace ⟨MotionDetector.new, JpegStatics.initial⟩ (bootCalls 0)).1
    ∃ step, ClockMonotone steps ∧ steps[1]? = some step ∧
      step.call = .detect (some (pixelFrame 0)) 0 0 ⟨true, true⟩ ∧
      validFrame (some (pixelFrame 0)) = some (pixelFrame 0, [0]) ∧
      step.before.detector.detect step.before.statics (some (pixelFrame 0)) (millis 0)
          (millis 0) ⟨true, true⟩ =
        if (0 - lastAcceptance (steps.take 1)) % 2 ^ 32 <
            step.before.detector.config.cooldownMs.toNat then
          .ok (MotionResult.zero, step.before.detector, step.before.statics)
        else step.before.detector.detectFrame step.before.statics (pixelFrame 0) [0] (millis 0)
          ⟨true, true⟩ := by
  intro steps
  obtain ⟨step, found, call⟩ := Option.map_eq_some'.mp
    (by with_unfolding_all rfl :
      (steps[1]?).map Step.call = some (.detect (some (pixelFrame 0)) 0 0 ⟨true, true⟩))
  have clock : ClockMonotone steps := by with_unfolding_all decide
  exact ⟨step, clock, found, call, rfl, detect_gate_of_run (Run.of_trace _ _) clock found call rfl⟩

/-- `lastDetectionTime` starts at `0`, so a valid frame in the first `cooldownMs` after boot
meets the gate with no detection behind it: the call returns the zero result and stores no
baseline, where the same call two seconds later stores the frame. -/
theorem detect_suppressed_at_boot :
    (Engine.trace ⟨MotionDetector.new, JpegStatics.initial⟩ (bootCalls 0)).1.map Step.result =
        [none, some MotionResult.zero] ∧
      (Engine.trace ⟨MotionDetector.new, JpegStatics.initial⟩ (bootCalls 0)).2 =
        ⟨MotionDetector.new.setConfig ⟨0, 0, 100, 1, 2000⟩, JpegStatics.initial⟩ ∧
      (Engine.trace ⟨MotionDetector.new, JpegStatics.initial⟩
        (bootCalls 2000)).2.detector.prevFrame = some [0] :=
  ⟨by with_unfolding_all decide, rfl, by with_unfolding_all decide⟩

end Mousetrap.Motion
