import Mousetrap.Machine.Binary32
import Mousetrap.Motion.ChangedBlocks
import Mousetrap.Motion.JpegSize

/-!
# `MotionDetector::detect`

One call of `detect` on the detector's fields and the statics of the JPEG
path.  It reads `millis()` twice: once at the cooldown gate and once when it
accepts a detection; the two readings are separate arguments.  The allocator's
answers to the two `heap_caps_malloc` calls of `allocatePrevFrame` are an
oracle.  A fault is a state the C abstract machine cannot continue from.
-/

namespace Mousetrap.Motion

open Mousetrap.Machine

/-- `memcpy(dst, src, n)`: both buffers must hold `n` bytes. -/
def memcpy (dst src : List (BitVec 8)) (n : Nat) : Except MotionFault (List (BitVec 8)) :=
  if n ≤ dst.length ∧ n ≤ src.length then .ok (src.take n ++ dst.drop n)
  else .error .outOfBounds

/-- `heap_caps_malloc(size, caps)` when the allocator grants the request or not.  The
bytes of a fresh block are never read before `memcpy` overwrites all of them. -/
def heapCapsMalloc (granted : Bool) (size : Nat) : Option (List (BitVec 8)) :=
  if granted then some (List.replicate size 0) else none

/-- The frame `detect` goes on with: `frame`, `frame->buf` and `frame->len` non-zero. -/
def validFrame : Option CameraFb → Option (CameraFb × List (BitVec 8))
  | some frame =>
      match frame.buf with
      | some buf => if frame.len = 0 then none else some (frame, buf)
      | none => none
  | none => none

namespace MotionDetector

def setConfig (d : MotionDetector) (cfg : MotionConfig) : MotionDetector :=
  { d with config := cfg }

def reset (d : MotionDetector) : MotionDetector :=
  { d with prevFrame := none, prevWidth := 0, prevHeight := 0, lastDetectionTime := 0 }

/-- `millis() - lastDetectionTime < config.cooldownMs` in 32-bit unsigned arithmetic. -/
def coolingDown (d : MotionDetector) (now : BitVec 32) : Bool :=
  (now - d.lastDetectionTime).toNat < d.config.cooldownMs.toNat

/-- Try PSRAM first, fall back to regular RAM, and clear the dimensions when both
refuse. -/
def allocatePrevFrame (d : MotionDetector) (width height : BitVec 16)
    (alloc : AllocOracle) : MotionDetector :=
  let size := width.toNat * height.toNat
  match (heapCapsMalloc alloc.spiram size).orElse fun _ => heapCapsMalloc alloc.internal size with
  | some prevFrame =>
      { d with prevFrame := some prevFrame, prevWidth := width, prevHeight := height }
  | none => { d with prevFrame := none, prevWidth := 0, prevHeight := 0 }

/-- Lines 101–107: a first frame of its size is only stored. -/
def storeFirstFrame (d : MotionDetector) (frame : CameraFb) (buf : List (BitVec 8))
    (alloc : AllocOracle) : Except MotionFault MotionDetector :=
  let d := d.allocatePrevFrame frame.width frame.height alloc
  match d.prevFrame with
  | some prevFrame => do
      let prevFrame ← memcpy prevFrame buf (frame.width.toNat * frame.height.toNat)
      pure { d with prevFrame := some prevFrame }
  | none => .ok d

end MotionDetector

/-- Lines 158–160: `(motionArea / totalArea) * 100.0` stored in a `float`, with
`float totalArea = (float)width * height` and `float motionArea = (float)result.width *
result.height`.  The quotient is a `float` and `100.0` a `double`, so the product is rounded
to `double` and then to `float`. -/
def sizePercentOf (boxWidth boxHeight width height : Nat) : ℚ :=
  let totalArea := round32 (round32 width * round32 height)
  let motionArea := round32 (round32 boxWidth * round32 boxHeight)
  round32 (round64 (round32 (motionArea / totalArea) * 100))

/-- Lines 176–177: `min(1.0f, blockRatio * 5.0f)` with
`float blockRatio = (float)result.changedBlocks / result.totalBlocks`. -/
def confidenceOf (changedBlocks totalBlocks : Nat) : ℚ :=
  min 1 (round32 (round32 (round32 changedBlocks / round32 totalBlocks) * 5))

/-- Lines 147–185: the box, the size filter and the confidence once a block changed.  A
block changed only inside the frame, so the frame's area is positive here. -/
def resultOfScan (config : MotionConfig) (width height : Nat) (totalBlocks : BitVec 32)
    (scan : BlockScan) : MotionResult :=
  let blockSize := config.blockSize.toNat
  let boxWidth := BitVec.ofInt 16 (((scan.maxX : Int) - scan.minX + 1) * blockSize)
  let boxHeight := BitVec.ofInt 16 (((scan.maxY : Int) - scan.minY + 1) * blockSize)
  let sizePercent := sizePercentOf boxWidth.toNat boxHeight.toNat width height
  let changedBlocks := BitVec.ofNat 32 scan.changedBlocks
  let filtered :=
    if sizePercent < config.minSizePercent then true
    else if sizePercent > config.maxSizePercent then true
    else false
  { detected := !filtered
    sizeFiltered := filtered
    x := BitVec.ofNat 16 (scan.minX * blockSize)
    y := BitVec.ofNat 16 (scan.minY * blockSize)
    width := boxWidth
    height := boxHeight
    sizePercent
    changedBlocks
    totalBlocks
    confidence := confidenceOf changedBlocks.toNat totalBlocks.toNat }

namespace MotionDetector

/-- Lines 110–187: compare against the stored frame, store the current one, and
start a cooldown when the detection survives the size filter. -/
def compareFrames (d : MotionDetector) (prevFrame : List (BitVec 8)) (frame : CameraFb)
    (buf : List (BitVec 8)) (now : BitVec 32) :
    Except MotionFault (MotionResult × MotionDetector) :=
  let width := frame.width.toNat
  let height := frame.height.toNat
  let blockSize := d.config.blockSize.toNat
  if blockSize = 0 then .error .divByZero
  else do
    let blocksX := width / blockSize
    let blocksY := height / blockSize
    let totalBlocks := BitVec.ofNat 32 (blocksX * blocksY)
    let scan ← scanBlocks d.config buf prevFrame width blocksX blocksY
    let prevFrame ← memcpy prevFrame buf (width * height)
    let result :=
      if scan.changedBlocks > 0 then resultOfScan d.config width height totalBlocks scan
      else { MotionResult.zero with totalBlocks }
    let lastDetectionTime := if result.detected then now else d.lastDetectionTime
    pure (result, { d with prevFrame := some prevFrame, lastDetectionTime })

/-- Lines 97–187: the grayscale path. -/
def detectGrayscale (d : MotionDetector) (frame : CameraFb) (buf : List (BitVec 8))
    (now : BitVec 32) (alloc : AllocOracle) : Except MotionFault (MotionResult × MotionDetector) :=
  match d.prevFrame with
  | some prevFrame =>
      if d.prevWidth = frame.width ∧ d.prevHeight = frame.height then
        d.compareFrames prevFrame frame buf now
      else do
        let d ← d.storeFirstFrame frame buf alloc
        pure (MotionResult.zero, d)
  | none => do
      let d ← d.storeFirstFrame frame buf alloc
      pure (MotionResult.zero, d)

/-- Lines 84–187: what `detect` does with a valid frame once the cooldown gate let it
through. -/
def detectFrame (d : MotionDetector) (statics : JpegStatics) (frame : CameraFb)
    (buf : List (BitVec 8)) (acceptNow : BitVec 32) (alloc : AllocOracle) :
    Except MotionFault (MotionResult × MotionDetector × JpegStatics) :=
  if frame.format = .jpeg then .ok (d.detectFromJpegSize statics frame acceptNow)
  else if frame.format ≠ .grayscale then .ok (MotionResult.zero, d, statics)
  else do
    let (result, d) ← d.detectGrayscale frame buf acceptNow alloc
    pure (result, d, statics)

/-- `MotionDetector::detect`, with `millis()` reading `gateNow` at the cooldown gate
and `acceptNow` when a detection is accepted. -/
def detect (d : MotionDetector) (statics : JpegStatics) (frame : Option CameraFb)
    (gateNow acceptNow : BitVec 32) (alloc : AllocOracle) :
    Except MotionFault (MotionResult × MotionDetector × JpegStatics) :=
  match validFrame frame with
  | none => .ok (MotionResult.zero, d, statics)
  | some (frame, buf) =>
      if d.coolingDown gateNow then .ok (MotionResult.zero, d, statics)
      else d.detectFrame statics frame buf acceptNow alloc

/-! ## Paths through `detect` -/

section Paths

variable {d : MotionDetector} {statics : JpegStatics} {frame : CameraFb}
  {buf : List (BitVec 8)} {gateNow acceptNow : BitVec 32} {alloc : AllocOracle}

theorem validFrame_some (present : frame.buf = some buf) (nonEmpty : frame.len ≠ 0) :
    validFrame (some frame) = some (frame, buf) := by
  simp only [validFrame, present]
  exact if_neg nonEmpty

theorem validFrame_eq_some {frame : Option CameraFb} {fb : CameraFb}
    (valid : validFrame frame = some (fb, buf)) : frame = some fb ∧ fb.buf = some buf := by
  unfold validFrame at valid
  split at valid
  · next frame =>
      split at valid
      · next stored =>
          split at valid
          · cases valid
          · cases valid
            exact ⟨rfl, stored⟩
      · cases valid
  · cases valid

theorem detect_of_grayscale (present : frame.buf = some buf) (nonEmpty : frame.len ≠ 0)
    (gateOpen : d.coolingDown gateNow = false) (grayscale : frame.format = .grayscale) :
    d.detect statics (some frame) gateNow acceptNow alloc = (do
      let (result, d) ← d.detectGrayscale frame buf acceptNow alloc
      pure (result, d, statics)) := by
  simp [detect, detectFrame, validFrame_some present nonEmpty, gateOpen, grayscale]

theorem detectGrayscale_of_stored {prevFrame : List (BitVec 8)}
    (stored : d.prevFrame = some prevFrame) (sameWidth : d.prevWidth = frame.width)
    (sameHeight : d.prevHeight = frame.height) :
    d.detectGrayscale frame buf acceptNow alloc =
      d.compareFrames prevFrame frame buf acceptNow := by
  simp [detectGrayscale, stored, sameWidth, sameHeight]

end Paths

/-! ## What one call can do -/

section Cases

variable {d d' : MotionDetector} {statics statics' : JpegStatics} {frame : Option CameraFb}
  {result : MotionResult} {gateNow acceptNow : BitVec 32} {alloc : AllocOracle}

/-- A call of `detect` returns early with nothing changed (an invalid frame, the cooldown
gate, or a format it does not handle), or runs the JPEG path, or runs the grayscale path
with the statics untouched. -/
theorem detect_cases
    (called : d.detect statics frame gateNow acceptNow alloc = .ok (result, d', statics')) :
    ((∀ fb buf, validFrame frame = some (fb, buf) →
        d.coolingDown gateNow = true ∨ fb.format ≠ .jpeg ∧ fb.format ≠ .grayscale) ∧
        result = MotionResult.zero ∧ d' = d ∧ statics' = statics) ∨
      (∃ fb buf, validFrame frame = some (fb, buf) ∧ d.coolingDown gateNow = false ∧
        fb.format = .jpeg ∧
        d.detectFromJpegSize statics fb acceptNow = (result, d', statics')) ∨
      (∃ fb buf, validFrame frame = some (fb, buf) ∧ d.coolingDown gateNow = false ∧
        fb.format = .grayscale ∧ statics' = statics ∧
        d.detectGrayscale fb buf acceptNow alloc = .ok (result, d')) := by
  unfold detect detectFrame at called
  split at called
  · next invalid =>
      cases called
      exact .inl ⟨fun _ _ valid => absurd (invalid.symm.trans valid) (by simp), rfl, rfl, rfl⟩
  · next fb buf valid =>
      split at called
      · next cooling =>
          cases called
          exact .inl ⟨fun _ _ _ => .inl cooling, rfl, rfl, rfl⟩
      · next gateOpen =>
          have gateOpen : d.coolingDown gateNow = false := by simpa using gateOpen
          split at called
          · next jpeg =>
              exact .inr (.inl ⟨fb, buf, valid, gateOpen, jpeg, Except.ok.inj called⟩)
          · next notJpeg =>
              split at called
              · next unsupported =>
                  cases called
                  refine .inl ⟨fun fb' buf' again => ?_, rfl, rfl, rfl⟩
                  cases valid.symm.trans again
                  exact .inr ⟨notJpeg, unsupported⟩
              · next grayscale =>
                  obtain ⟨⟨_, _⟩, compared, called⟩ := bind_eq_ok called
                  cases called
                  exact .inr (.inr ⟨fb, buf, valid, gateOpen, by simpa using grayscale, rfl,
                    compared⟩)

theorem memcpy_eq_ok {dst src out : List (BitVec 8)} {count : Nat}
    (copied : memcpy dst src count = .ok out) :
    count ≤ dst.length ∧ count ≤ src.length ∧ out = src.take count ++ dst.drop count := by
  unfold memcpy at copied
  split at copied
  · next fits => cases copied; exact ⟨fits.1, fits.2, rfl⟩
  · cases copied

theorem allocatePrevFrame_cases (d : MotionDetector) (width height : BitVec 16)
    (alloc : AllocOracle) :
    let allocated := d.allocatePrevFrame width height alloc
    allocated.config = d.config ∧ allocated.lastDetectionTime = d.lastDetectionTime ∧
      ((alloc.spiram || alloc.internal) = true ∧
          allocated.prevFrame = some (List.replicate (width.toNat * height.toNat) 0) ∧
          allocated.prevWidth = width ∧ allocated.prevHeight = height ∨
        (alloc.spiram || alloc.internal) = false ∧ allocated.prevFrame = none ∧
          allocated.prevWidth = 0 ∧ allocated.prevHeight = 0) := by
  cases spiram : alloc.spiram <;> cases internal : alloc.internal <;>
    simp [allocatePrevFrame, heapCapsMalloc, spiram, internal, Option.orElse]

theorem storeFirstFrame_eq_ok {frame : CameraFb} {buf : List (BitVec 8)} {d' : MotionDetector}
    (stored : d.storeFirstFrame frame buf alloc = .ok d') :
    d'.config = d.config ∧ d'.lastDetectionTime = d.lastDetectionTime ∧
      ((alloc.spiram || alloc.internal) = true ∧
          frame.width.toNat * frame.height.toNat ≤ buf.length ∧
          d'.prevFrame = some (buf.take (frame.width.toNat * frame.height.toNat)) ∧
          d'.prevWidth = frame.width ∧ d'.prevHeight = frame.height ∨
        (alloc.spiram || alloc.internal) = false ∧ d'.prevFrame = none ∧
          d'.prevWidth = 0 ∧ d'.prevHeight = 0) := by
  obtain ⟨sameConfig, sameTime, granted | refused⟩ :=
    allocatePrevFrame_cases d frame.width frame.height alloc
  · obtain ⟨grantedAlloc, buffer, width, height⟩ := granted
    simp only [storeFirstFrame, buffer] at stored
    obtain ⟨out, copied, stored⟩ := bind_eq_ok stored
    cases stored
    obtain ⟨_, fits, rfl⟩ := memcpy_eq_ok copied
    exact ⟨sameConfig, sameTime, .inl ⟨grantedAlloc, fits, by simp, width, height⟩⟩
  · obtain ⟨refusedAlloc, buffer, width, height⟩ := refused
    simp only [storeFirstFrame, buffer, Except.ok.injEq] at stored
    subst stored
    exact ⟨sameConfig, sameTime, .inr ⟨refusedAlloc, buffer, width, height⟩⟩

theorem compareFrames_eq_ok {prevFrame buf : List (BitVec 8)} {frame : CameraFb}
    {now : BitVec 32} {d' : MotionDetector}
    (compared : d.compareFrames prevFrame frame buf now = .ok (result, d')) :
    frame.width.toNat * frame.height.toNat ≤ prevFrame.length ∧
      frame.width.toNat * frame.height.toNat ≤ buf.length ∧
      d' = { d with
        prevFrame := some (buf.take (frame.width.toNat * frame.height.toNat) ++
          prevFrame.drop (frame.width.toNat * frame.height.toNat))
        lastDetectionTime := if result.detected then now else d.lastDetectionTime } := by
  unfold compareFrames at compared
  dsimp only at compared
  split at compared
  · cases compared
  · obtain ⟨scan, _, compared⟩ := bind_eq_ok compared
    obtain ⟨out, copied, compared⟩ := bind_eq_ok compared
    cases compared
    obtain ⟨toFit, fromFit, rfl⟩ := memcpy_eq_ok copied
    exact ⟨toFit, fromFit, rfl⟩

theorem detectGrayscale_cases {fb : CameraFb} {buf : List (BitVec 8)} {d' : MotionDetector}
    (called : d.detectGrayscale fb buf acceptNow alloc = .ok (result, d')) :
    (∃ prevFrame, d.prevFrame = some prevFrame ∧ d.prevWidth = fb.width ∧
        d.prevHeight = fb.height ∧
        d.compareFrames prevFrame fb buf acceptNow = .ok (result, d')) ∨
      ((∀ prevFrame, d.prevFrame = some prevFrame →
          d.prevWidth ≠ fb.width ∨ d.prevHeight ≠ fb.height) ∧
        result = MotionResult.zero ∧ d.storeFirstFrame fb buf alloc = .ok d') := by
  have first : ∀ stored : Except MotionFault MotionDetector,
      (do let d ← stored; pure (MotionResult.zero, d)) = Except.ok (result, d') →
        result = MotionResult.zero ∧ stored = .ok d' := by
    intro stored equal
    obtain ⟨_, rfl, equal⟩ := bind_eq_ok equal
    cases equal
    exact ⟨rfl, rfl⟩
  unfold detectGrayscale at called
  split at called
  · next prevFrame stored =>
      split at called
      · next same => exact .inl ⟨prevFrame, stored, same.1, same.2, called⟩
      · next differ =>
          refine .inr ⟨fun _ again => ?_, first _ called⟩
          cases stored.symm.trans again
          exact not_and_or.mp differ
  · next missing =>
      exact .inr ⟨fun _ again => absurd (missing.symm.trans again) (by simp), first _ called⟩

theorem detectFromJpegSize_detector {fb : CameraFb}
    (called : d.detectFromJpegSize statics fb acceptNow = (result, d', statics')) :
    d' = if result.detected then { d with lastDetectionTime := acceptNow } else d := by
  unfold detectFromJpegSize at called
  dsimp only at called
  split at called <;> cases called <;> rfl

theorem detect_lastDetectionTime
    (called : d.detect statics frame gateNow acceptNow alloc = .ok (result, d', statics')) :
    d'.lastDetectionTime = if result.detected then acceptNow else d.lastDetectionTime := by
  rcases detect_cases called with ⟨-, rfl, rfl, -⟩ | ⟨fb, buf, -, -, -, jpeg⟩ |
    ⟨fb, buf, -, -, -, -, grayscale⟩
  · rfl
  · rw [detectFromJpegSize_detector jpeg]
    split <;> rfl
  · rcases detectGrayscale_cases grayscale with ⟨prevFrame, -, -, -, compared⟩ |
      ⟨-, rfl, stored⟩
    · rw [(compareFrames_eq_ok compared).2.2]
    · exact (storeFirstFrame_eq_ok stored).2.1

theorem detect_gate_open_of_detected
    (called : d.detect statics frame gateNow acceptNow alloc = .ok (result, d', statics'))
    (detected : result.detected = true) :
    (validFrame frame).isSome ∧ d.coolingDown gateNow = false := by
  rcases detect_cases called with ⟨-, rfl, -, -⟩ | ⟨fb, buf, valid, gateOpen, -⟩ |
    ⟨fb, buf, valid, gateOpen, -⟩
  · cases detected
  · exact ⟨by simp [valid], gateOpen⟩
  · exact ⟨by simp [valid], gateOpen⟩

theorem compareFrames_result {prevFrame buf : List (BitVec 8)} {fb : CameraFb}
    {now : BitVec 32} {d' : MotionDetector}
    (compared : d.compareFrames prevFrame fb buf now = .ok (result, d')) :
    ∃ scan : BlockScan, scan.changedBlocks < 2 ^ 32 ∧
      let totalBlocks := BitVec.ofNat 32
        (fb.width.toNat / d.config.blockSize.toNat * (fb.height.toNat / d.config.blockSize.toNat))
      result = if scan.changedBlocks > 0 then
          resultOfScan d.config fb.width.toNat fb.height.toNat totalBlocks scan
        else { MotionResult.zero with totalBlocks } := by
  unfold compareFrames at compared
  dsimp only at compared
  split at compared
  · cases compared
  · obtain ⟨scan, scanned, compared⟩ := bind_eq_ok compared
    obtain ⟨out, _, compared⟩ := bind_eq_ok compared
    cases compared
    exact ⟨scan, scanBlocks_changedBlocks_lt scanned, rfl⟩

theorem compareFrames_filtered {prevFrame buf : List (BitVec 8)} {fb : CameraFb}
    {now : BitVec 32} {d' : MotionDetector}
    (compared : d.compareFrames prevFrame fb buf now = .ok (result, d'))
    (filtered : result.sizeFiltered = true) : result.detected = false := by
  obtain ⟨scan, -, rfl⟩ := compareFrames_result compared
  by_cases changed : scan.changedBlocks > 0
  · simp only [changed, if_true, resultOfScan] at filtered ⊢
    rw [filtered]
    rfl
  · simp only [changed, if_false] at filtered
    cases filtered

theorem detect_filtered
    (called : d.detect statics frame gateNow acceptNow alloc = .ok (result, d', statics'))
    (filtered : result.sizeFiltered = true) : result.detected = false := by
  rcases detect_cases called with ⟨-, rfl, -, -⟩ | ⟨fb, -, -, -, -, jpeg⟩ |
    ⟨fb, buf, -, -, -, -, grayscale⟩
  · cases filtered
  · obtain rfl : (d.detectFromJpegSize statics fb acceptNow).1 = result := congrArg Prod.fst jpeg
    rw [MotionDetector.detectFromJpegSize_result] at filtered ⊢
    split
    · rfl
    · next started =>
        rw [if_neg started] at filtered
        have flags := jpegVerdict_flags fb
          (sizeDiffOf fb.len (averageSize (statics.store fb.len).jpegSizeHistory))
        exact Bool.eq_false_iff.mpr fun detected =>
          absurd (flags.2.1.mp filtered) (not_lt.mpr (flags.1.mp detected).2)
  · rcases detectGrayscale_cases grayscale with
      ⟨prevFrame, -, -, -, compared⟩ | ⟨-, rfl, -⟩
    · exact compareFrames_filtered compared filtered
    · cases filtered

/-- Every early return of `detect` (no frame, no buffer, an empty frame, the cooldown
gate, a format it does not handle) hands back the zero result with the detector and
the statics as they were; and on every call that returns, a result that is not a
detection leaves `lastDetectionTime` where it was, and a size-filtered result is not
a detection. -/
theorem detect_early_exits_keep_state (d : MotionDetector) (statics : JpegStatics)
    (frame : Option CameraFb) (gateNow acceptNow : BitVec 32) (alloc : AllocOracle) :
    ((frame = none ∨ (∃ fb, frame = some fb ∧ (fb.buf = none ∨ fb.len = 0)) ∨
        (gateNow - d.lastDetectionTime).toNat < d.config.cooldownMs.toNat ∨
        ∃ fb, frame = some fb ∧ fb.format ≠ .jpeg ∧ fb.format ≠ .grayscale) →
      d.detect statics frame gateNow acceptNow alloc = .ok (MotionResult.zero, d, statics)) ∧
    ∀ result d' statics',
      d.detect statics frame gateNow acceptNow alloc = .ok (result, d', statics') →
        (result.detected = false → d'.lastDetectionTime = d.lastDetectionTime) ∧
        (result.sizeFiltered = true → result.detected = false) := by
  refine ⟨fun early => ?_, fun result d' statics' called =>
    ⟨fun notDetected => ?_, detect_filtered called⟩⟩
  · unfold detect detectFrame
    split
    · rfl
    · next fb buf valid =>
        obtain ⟨rfl, present⟩ := validFrame_eq_some valid
        have nonEmpty : fb.len ≠ 0 := by simpa [validFrame, present] using valid
        by_cases cooling : d.coolingDown gateNow
        · simp [cooling]
        · have unsupported : fb.format ≠ .jpeg ∧ fb.format ≠ .grayscale := by
            rcases early with absent | ⟨_, same, invalid⟩ | gate | ⟨_, same, unsupported⟩
            · cases absent
            · cases same
              rcases invalid with absent | empty
              · simp [present] at absent
              · exact absurd empty nonEmpty
            · exact absurd (by simpa [coolingDown] using gate) cooling
            · cases same
              exact unsupported
          simp [cooling, unsupported.1, unsupported.2]
  · rw [detect_lastDetectionTime called, notDetected]
    rfl

theorem detect_null_frame_keeps_state :
    MotionDetector.new.detect JpegStatics.initial none 0 0 ⟨true, true⟩ =
      .ok (MotionResult.zero, MotionDetector.new, JpegStatics.initial) :=
  (detect_early_exits_keep_state MotionDetector.new JpegStatics.initial none 0 0
    ⟨true, true⟩).1 (.inl rfl)

end Cases

end MotionDetector

end Mousetrap.Motion
