import Mousetrap.Motion.Types

/-!
# The JPEG size heuristic

`MotionDetector::detectFromJpegSize` judges an encoded frame by its length
against the mean of the last five lengths.  Its history lives in three
`static` locals, so it is not part of the detector: the model passes
`JpegStatics` in and out, and `reset()` never sees it.
-/

namespace Mousetrap.Motion

/-- `jpegSizeHistory[historyIdx] = frame->len; historyIdx = (historyIdx + 1) % 5;` -/
def JpegStatics.store (statics : JpegStatics) (len : BitVec 32) : JpegStatics where
  prevJpegSize := statics.prevJpegSize
  jpegSizeHistory := statics.jpegSizeHistory.set statics.historyIdx len
  historyIdx := ⟨(statics.historyIdx.val + 1) % 5, Nat.mod_lt _ (by decide)⟩
  length_jpegSizeHistory := by rw [List.length_set, statics.length_jpegSizeHistory]

/-- `prevJpegSize = frame->len;` -/
def JpegStatics.setPrev (statics : JpegStatics) (len : BitVec 32) : JpegStatics :=
  { statics with prevJpegSize := len }

/-- The averaging loop of lines 206–213: the `size_t` sum of the non-zero slots and
`validCount`. -/
def sumNonZero (history : List (BitVec 32)) : BitVec 32 × Nat :=
  history.foldl (fun acc size => if 0 < size.toNat then (acc.1 + size, acc.2 + 1) else acc)
    (0, 0)

/-- `if (validCount > 0) avgSize /= validCount;` -/
def averageSize (history : List (BitVec 32)) : BitVec 32 :=
  let (avgSize, validCount) := sumNonZero history
  if validCount > 0 then avgSize / BitVec.ofNat 32 validCount else avgSize

/-- `sizeDiff = abs(len - avgSize) / avgSize * 100`. -/
def sizeDiffOf (len avgSize : BitVec 32) : ℚ :=
  |(len.toNat : ℚ) - avgSize.toNat| / avgSize.toNat * 100

/-- Lines 227–246: the tentative detection on a deviation above 10%, with the
approximate size filter and the centred half-frame box. -/
def jpegVerdict (frame : CameraFb) (sizeDiff : ℚ) : MotionResult :=
  let filtered := if sizeDiff < 3 then true else if sizeDiff > 50 then true else false
  { MotionResult.zero with
    detected := !filtered
    sizeFiltered := filtered
    sizePercent := sizeDiff
    confidence := min 1 (sizeDiff / 30)
    x := frame.width / 4
    y := frame.height / 4
    width := frame.width / 2
    height := frame.height / 2 }

/-- `MotionDetector::detectFromJpegSize`, reading `millis()` at `now` when it accepts. -/
def MotionDetector.detectFromJpegSize (d : MotionDetector) (statics : JpegStatics)
    (frame : CameraFb) (now : BitVec 32) : MotionResult × MotionDetector × JpegStatics :=
  let statics := statics.store frame.len
  let validCount := (sumNonZero statics.jpegSizeHistory).2
  if statics.prevJpegSize = 0 ∨ validCount < 3 then
    (MotionResult.zero, d, statics.setPrev frame.len)
  else
    let sizeDiff := sizeDiffOf frame.len (averageSize statics.jpegSizeHistory)
    let result := if sizeDiff > 10 then jpegVerdict frame sizeDiff else MotionResult.zero
    let d := if result.detected then { d with lastDetectionTime := now } else d
    (result, d, statics.setPrev frame.len)

/-! ## What one call does -/

section Call

variable {d : MotionDetector} {statics : JpegStatics} {frame : CameraFb} {now : BitVec 32}

/-- Nothing while the history warms up; then the verdict once the deviation from the
average exceeds 10%. -/
theorem MotionDetector.detectFromJpegSize_result :
    (d.detectFromJpegSize statics frame now).1 =
      if (statics.store frame.len).prevJpegSize = 0 ∨
          (sumNonZero (statics.store frame.len).jpegSizeHistory).2 < 3 then MotionResult.zero
      else
        let sizeDiff :=
          sizeDiffOf frame.len (averageSize (statics.store frame.len).jpegSizeHistory)
        if sizeDiff > 10 then jpegVerdict frame sizeDiff else MotionResult.zero := by
  unfold MotionDetector.detectFromJpegSize
  dsimp only
  exact apply_ite Prod.fst _ _ _

end Call

theorem jpegVerdict_flags (frame : CameraFb) (sizeDiff : ℚ) :
    let result := if sizeDiff > 10 then jpegVerdict frame sizeDiff else MotionResult.zero
    (result.detected = true ↔ 10 < sizeDiff ∧ sizeDiff ≤ 50) ∧
      (result.sizeFiltered = true ↔ 50 < sizeDiff) ∧
      result.changedBlocks = 0 ∧ result.totalBlocks = 0 := by
  by_cases trigger : 10 < sizeDiff
  · have notSmall : ¬sizeDiff < 3 :=
      not_lt.mpr ((show (3 : ℚ) ≤ 10 by decide).trans trigger.le)
    by_cases large : 50 < sizeDiff
    · simp [trigger, jpegVerdict, notSmall, large, MotionResult.zero]
    · simp [trigger, jpegVerdict, notSmall, large, not_lt.mp large, MotionResult.zero]
  · have notLarge : ¬50 < sizeDiff :=
      fun large => trigger ((show (10 : ℚ) < 50 by decide).trans large)
    simp [trigger, notLarge, MotionResult.zero]

end Mousetrap.Motion
