import Mousetrap.Motion.Cooldown
import Mathlib.Data.Nat.GCD.Basic

/-!
# The frame store and its baseline

`prevFrame`, `prevWidth` and `prevHeight` hold the frame the next grayscale call is
compared with.  Two facts keep every access of `detect` inside its buffers.  The store
is either empty with zero dimensions or a buffer of exactly `prevWidth * prevHeight`
bytes, after any run; and from such a store a call on a frame whose buffer holds
`width * height` bytes reads and copies only inside both buffers.

The one other fault of the model is a division by zero, and `detect` raises it only
for a block size that is a multiple of 256, whose square wraps `pixelsInBlock` to 0.  So
after any run, for any other block size, a call on a frame that fits returns a result.
Each function gets one lemma saying which faults it can raise given those of its parts,
and the two safety results are two instances of them.

Which frame the store holds is a proof-only observation of the run, `lastBaseline`:
the most recent grayscale frame through both gates since the start or the last
`reset()`, unless the allocation for it failed.  The store holds exactly that frame's
dimensions and first `width * height` bytes, so a grayscale call compares against it
when the dimensions agree and otherwise returns the zero result.
-/

namespace Mousetrap.Motion

/-! ## Faults the block loop cannot raise -/

section Faults

variable {ε : Type}

theorem bind_ne_error {α β : Type} {first : Except ε α} {rest : α → Except ε β}
    {fault : ε}
    (firstAvoids : first ≠ .error fault) (restAvoids : ∀ value, rest value ≠ .error fault) :
    (first >>= rest) ≠ .error fault := by
  cases first with
  | error other => simpa using firstAvoids
  | ok value => exact restAvoids value

theorem foldlM_ne_error {α β : Type} {f : β → α → Except ε β} {items : List α}
    {fault : ε}
    (step : ∀ acc item, item ∈ items → f acc item ≠ .error fault) (init : β) :
    items.foldlM f init ≠ .error fault := by
  induction items generalizing init with
  | nil => simp [pure, Except.pure]
  | cons item items induction =>
      rw [List.foldlM_cons]
      exact bind_ne_error (step init item (List.mem_cons_self _ _)) fun acc =>
        induction (fun acc item member => step acc item (List.mem_cons_of_mem _ member)) acc

end Faults

section Avoids

variable {config : MotionConfig} {cur prev : List (BitVec 8)} {width : Nat} {fault : MotionFault}

theorem scanBlocks_ne_error {blocksX blocksY : Nat}
    (sums : ∀ bx bY, bx < blocksX → bY < blocksY →
      blockDiffOf cur prev width config.blockSize.toNat bx bY ≠ .error fault)
    (divides : ∀ blockDiff, avgDiffOf config.blockSize.toNat blockDiff ≠ .error fault) :
    scanBlocks config cur prev width blocksX blocksY ≠ .error fault :=
  foldlM_ne_error (fun scan bY row => foldlM_ne_error (fun scan bx column =>
    bind_ne_error (sums bx bY (List.mem_range.mp column) (List.mem_range.mp row)) fun _ =>
      bind_ne_error (divides _) fun _ => by split <;> simp [pure, Except.pure]) scan) _

end Avoids

namespace MotionDetector

variable {d : MotionDetector} {frame : CameraFb} {buf : List (BitVec 8)} {now : BitVec 32}
  {alloc : AllocOracle} {fault : MotionFault}

theorem compareFrames_ne_error {prevFrame : List (BitVec 8)}
    (sized : d.config.blockSize.toNat = 0 → fault ≠ .divByZero)
    (scans : scanBlocks d.config buf prevFrame frame.width.toNat
      (frame.width.toNat / d.config.blockSize.toNat)
      (frame.height.toNat / d.config.blockSize.toNat) ≠ .error fault)
    (copies : memcpy prevFrame buf (frame.width.toNat * frame.height.toNat) ≠ .error fault) :
    d.compareFrames prevFrame frame buf now ≠ .error fault := by
  unfold compareFrames
  dsimp only
  split
  · next zero => simpa using (sized zero).symm
  · exact bind_ne_error scans fun _ => bind_ne_error copies fun _ => by simp [pure, Except.pure]

theorem storeFirstFrame_ne_error
    (copies : ∀ prevFrame, (d.allocatePrevFrame frame.width frame.height alloc).prevFrame =
      some prevFrame → memcpy prevFrame buf (frame.width.toNat * frame.height.toNat) ≠
        .error fault) :
    d.storeFirstFrame frame buf alloc ≠ .error fault := by
  unfold storeFirstFrame
  dsimp only
  split
  · next stored => exact bind_ne_error (copies _ stored) fun _ => by simp [pure, Except.pure]
  · simp

theorem detectGrayscale_ne_error
    (compares : ∀ prevFrame, d.prevFrame = some prevFrame → d.prevWidth = frame.width →
      d.prevHeight = frame.height → d.compareFrames prevFrame frame buf now ≠ .error fault)
    (stores : d.storeFirstFrame frame buf alloc ≠ .error fault) :
    d.detectGrayscale frame buf now alloc ≠ .error fault := by
  have storing : (do
      let d ← d.storeFirstFrame frame buf alloc
      pure (MotionResult.zero, d) : Except MotionFault (MotionResult × MotionDetector)) ≠
        .error fault :=
    bind_ne_error stores fun _ => by simp [pure, Except.pure]
  unfold detectGrayscale
  split
  · next prevFrame stored =>
      split
      · next same => exact compares prevFrame stored same.1 same.2
      · exact storing
  · exact storing

theorem detect_ne_error {statics : JpegStatics} {frame : Option CameraFb}
    {gateNow acceptNow : BitVec 32}
    (grayscale : ∀ fb buf, validFrame frame = some (fb, buf) → fb.format = .grayscale →
      d.detectGrayscale fb buf acceptNow alloc ≠ .error fault) :
    d.detect statics frame gateNow acceptNow alloc ≠ .error fault := by
  unfold detect detectFrame
  split
  · simp
  · next fb buf valid =>
      split
      · simp
      · split
        · simp
        · split
          · simp
          · next notOther =>
              exact bind_ne_error (grayscale fb buf valid (by simpa using notOther)) fun _ => by
                simp [pure, Except.pure]

end MotionDetector

/-! ## Reads and copies inside the buffers -/

section Bounds

variable {cur prev : List (BitVec 8)} {width : Nat}

theorem avgDiffOf_ne_outOfBounds (blockSize blockDiff : Nat) :
    avgDiffOf blockSize blockDiff ≠ .error .outOfBounds := by
  simp only [avgDiffOf]
  split <;> simp

theorem blockDiffOf_ne_outOfBounds {blockSize bx bY bound : Nat}
    (inside : ReadsInside cur prev width blockSize bx bY bound) :
    blockDiffOf cur prev width blockSize bx bY ≠ .error .outOfBounds := by
  simp [blockDiffOf_eq_blockSum inside]

end Bounds

namespace MotionDetector

variable {d : MotionDetector} {frame : CameraFb} {buf : List (BitVec 8)} {now : BitVec 32}
  {alloc : AllocOracle}

theorem compareFrames_ne_outOfBounds {prevFrame : List (BitVec 8)}
    (prevLong : frame.width.toNat * frame.height.toNat ≤ prevFrame.length)
    (curLong : frame.width.toNat * frame.height.toNat ≤ buf.length) :
    d.compareFrames prevFrame frame buf now ≠ .error .outOfBounds :=
  compareFrames_ne_error (fun _ => by simp)
    (scanBlocks_ne_error (fun _ _ column row =>
      blockDiffOf_ne_outOfBounds (readsInside_of_grid curLong prevLong column row))
      (avgDiffOf_ne_outOfBounds _))
    (by simp [memcpy, prevLong, curLong])

theorem storeFirstFrame_ne_outOfBounds
    (curLong : frame.width.toNat * frame.height.toNat ≤ buf.length) :
    d.storeFirstFrame frame buf alloc ≠ .error .outOfBounds := by
  refine storeFirstFrame_ne_error fun prevFrame stored => ?_
  obtain ⟨-, -, ⟨-, buffer, -, -⟩ | ⟨-, buffer, -, -⟩⟩ :=
    allocatePrevFrame_cases d frame.width frame.height alloc
  · rw [buffer, Option.some.injEq] at stored
    simp [← stored, memcpy, curLong]
  · simp [buffer] at stored

end MotionDetector

/-! ## The frame store -/

/-- The FrameStore invariant: no buffer and zero dimensions, or a buffer of exactly
`prevWidth * prevHeight` bytes. -/
def FrameStore (d : MotionDetector) : Prop :=
  match d.prevFrame with
  | none => d.prevWidth = 0 ∧ d.prevHeight = 0
  | some prevFrame => prevFrame.length = d.prevWidth.toNat * d.prevHeight.toNat

/-- The caller's guarantee: the buffer of a grayscale frame holds `width * height` bytes. -/
def FrameFits (frame : Option CameraFb) : Prop :=
  ∀ fb buf, frame = some fb → fb.buf = some buf → fb.format = .grayscale →
    fb.width.toNat * fb.height.toNat ≤ buf.length

namespace MotionDetector

variable {d : MotionDetector} {statics : JpegStatics} {gateNow acceptNow : BitVec 32}
  {alloc : AllocOracle}

theorem detectGrayscale_ne_outOfBounds {frame : CameraFb} {buf : List (BitVec 8)}
    (store : FrameStore d) (curLong : frame.width.toNat * frame.height.toNat ≤ buf.length) :
    d.detectGrayscale frame buf acceptNow alloc ≠ .error .outOfBounds :=
  detectGrayscale_ne_error (fun prevFrame stored sameWidth sameHeight => by
    have length : prevFrame.length = frame.width.toNat * frame.height.toNat := by
      simpa [FrameStore, stored, sameWidth, sameHeight] using store
    exact compareFrames_ne_outOfBounds (Nat.le_of_eq length.symm) curLong)
    (storeFirstFrame_ne_outOfBounds curLong)

theorem detect_ne_outOfBounds {frame : Option CameraFb} (store : FrameStore d)
    (fits : FrameFits frame) :
    d.detect statics frame gateNow acceptNow alloc ≠ .error .outOfBounds :=
  detect_ne_error fun fb buf valid grayscale =>
    have ⟨present, stored⟩ := validFrame_eq_some valid
    detectGrayscale_ne_outOfBounds store (fits fb buf present stored grayscale)

end MotionDetector

/-! ## The baseline -/

/-- The baseline a step leaves, from the one before: the frame of a grayscale call
through both gates, unless it needed a new buffer (no baseline, or one of other
dimensions) and both allocators refused; nothing after `reset()`. -/
def Step.baseline (baseline : Option CameraFb) (step : Step) : Option CameraFb :=
  match step.call with
  | .detect frame gateTime _ alloc =>
      match validFrame frame with
      | some (fb, _) =>
          if step.before.detector.coolingDown (millis gateTime) = false ∧
              fb.format = .grayscale then
            if (baseline.any fun g => g.width == fb.width && g.height == fb.height) ||
                alloc.spiram || alloc.internal then some fb
            else none
          else baseline
      | none => baseline
  | .setConfig _ => baseline
  | .reset => none

/-- The frame the detector compares the next grayscale call with, after a run from a
fresh detector. -/
def lastBaseline (steps : List Step) : Option CameraFb :=
  steps.foldl Step.baseline none

/-- The detector holds `baseline`: its dimensions and the first `width * height` bytes of
its buffer; no buffer and zero dimensions when there is none. -/
def HoldsBaseline (d : MotionDetector) : Option CameraFb → Prop
  | none => d.prevFrame = none ∧ d.prevWidth = 0 ∧ d.prevHeight = 0
  | some g => d.prevWidth = g.width ∧ d.prevHeight = g.height ∧
      ∃ buf, g.buf = some buf ∧ g.width.toNat * g.height.toNat ≤ buf.length ∧
        d.prevFrame = some (buf.take (g.width.toNat * g.height.toNat))

namespace HoldsBaseline

variable {d d' : MotionDetector} {baseline : Option CameraFb}

theorem frameStore (holds : HoldsBaseline d baseline) : FrameStore d := by
  cases baseline with
  | none =>
      obtain ⟨empty, width, height⟩ := holds
      simp [FrameStore, empty, width, height]
  | some g =>
      obtain ⟨width, height, buf, -, long, stored⟩ := holds
      simp [FrameStore, stored, width, height, long]

theorem of_stored {prevFrame : List (BitVec 8)} (holds : HoldsBaseline d baseline)
    (stored : d.prevFrame = some prevFrame) :
    ∃ g buf, baseline = some g ∧ d.prevWidth = g.width ∧ d.prevHeight = g.height ∧
      g.buf = some buf ∧ prevFrame = buf.take (g.width.toNat * g.height.toNat) ∧
      g.width.toNat * g.height.toNat ≤ buf.length := by
  cases baseline with
  | none => simp [HoldsBaseline, stored] at holds
  | some g =>
      obtain ⟨width, height, buf, present, long, again⟩ := holds
      exact ⟨g, buf, rfl, width, height, present, Option.some.inj (stored.symm.trans again),
        long⟩

theorem any_eq_false {fb : CameraFb} (holds : HoldsBaseline d baseline)
    (differs : ∀ prevFrame, d.prevFrame = some prevFrame →
      d.prevWidth ≠ fb.width ∨ d.prevHeight ≠ fb.height) :
    (baseline.any fun g => g.width == fb.width && g.height == fb.height) = false := by
  cases baseline with
  | none => rfl
  | some g =>
      obtain ⟨width, height, buf, -, -, stored⟩ := holds
      simpa [← width, ← height, imp_iff_not_or] using differs _ stored

theorem of_same (holds : HoldsBaseline d baseline) (frame : d'.prevFrame = d.prevFrame)
    (width : d'.prevWidth = d.prevWidth) (height : d'.prevHeight = d.prevHeight) :
    HoldsBaseline d' baseline := by
  cases baseline <;> simpa only [HoldsBaseline, frame, width, height] using holds

theorem compare {prevFrame buf : List (BitVec 8)} {fb : CameraFb} {now : BitVec 32}
    {result : MotionResult} (holds : HoldsBaseline d baseline)
    (stored : d.prevFrame = some prevFrame) (sameWidth : d.prevWidth = fb.width)
    (sameHeight : d.prevHeight = fb.height) (present : fb.buf = some buf)
    (compared : d.compareFrames prevFrame fb buf now = .ok (result, d')) :
    (baseline.any fun g => g.width == fb.width && g.height == fb.height) = true ∧
      HoldsBaseline d' (some fb) := by
  obtain ⟨g, gbuf, rfl, width, height, -, rfl, long⟩ := holds.of_stored stored
  obtain ⟨-, curLong, rfl⟩ := MotionDetector.compareFrames_eq_ok compared
  have gWidth : g.width = fb.width := width.symm.trans sameWidth
  have gHeight : g.height = fb.height := height.symm.trans sameHeight
  refine ⟨by simp [gWidth, gHeight], sameWidth, sameHeight, buf, present, curLong, ?_⟩
  simp [← gWidth, ← gHeight, long]

theorem store {fb : CameraFb} {buf : List (BitVec 8)} {alloc : AllocOracle}
    (present : fb.buf = some buf) (stored : d.storeFirstFrame fb buf alloc = .ok d') :
    HoldsBaseline d' (if alloc.spiram || alloc.internal then some fb else none) := by
  obtain ⟨-, -, ⟨granted, long, frame, width, height⟩ |
      ⟨refused, frame, width, height⟩⟩ :=
    MotionDetector.storeFirstFrame_eq_ok stored
  · rw [if_pos granted]
    exact ⟨width, height, buf, present, long, frame⟩
  · rw [if_neg (by simp [refused])]
    exact ⟨frame, width, height⟩

theorem step {engine after : Engine} {call : Call} {result : Option MotionResult}
    (holds : HoldsBaseline engine.detector baseline)
    (stepped : engine.step call = .ok (result, after)) :
    HoldsBaseline after.detector (Step.baseline baseline ⟨engine, call, result⟩) := by
  cases call with
  | detect frame gateTime acceptTime alloc =>
      obtain ⟨detected, -, called⟩ := Engine.step_detect stepped
      simp only [Step.baseline]
      rcases MotionDetector.detect_cases called with ⟨early, -, same, -⟩ |
        ⟨fb, buf, valid, gateOpen, jpeg, jpegCalled⟩ |
        ⟨fb, buf, valid, gateOpen, grayscale, -, grayCalled⟩
      · rw [same]
        split
        · next fb buf valid =>
            rcases early fb buf valid with cooling | ⟨-, other⟩
            · simpa [cooling] using holds
            · simpa [other] using holds
        · exact holds
      · have other : fb.format ≠ .grayscale := by simp [jpeg]
        simp only [valid, gateOpen, other, and_false, if_false]
        rw [MotionDetector.detectFromJpegSize_detector jpegCalled]
        split <;> exact holds.of_same rfl rfl rfl
      · have present := (MotionDetector.validFrame_eq_some valid).2
        simp only [valid, gateOpen, grayscale, and_self, if_true]
        rcases MotionDetector.detectGrayscale_cases grayCalled with
          ⟨prevFrame, stored, sameWidth, sameHeight, compared⟩ | ⟨differs, -, storedFirst⟩
        · obtain ⟨agrees, kept⟩ := holds.compare stored sameWidth sameHeight present compared
          simpa [agrees] using kept
        · simpa [holds.any_eq_false differs] using store present storedFirst
  | setConfig config =>
      obtain ⟨-, rfl⟩ := Engine.step_setConfig stepped
      exact holds.of_same rfl rfl rfl
  | reset =>
      obtain ⟨-, rfl⟩ := Engine.step_reset stepped
      exact ⟨rfl, rfl, rfl⟩

/-- Over a run, the store holds the baseline the steps leave. -/
theorem run {start finish : Engine} {steps : List Step} (run : Run start steps finish)
    (holds : HoldsBaseline start.detector baseline) :
    HoldsBaseline finish.detector (steps.foldl Step.baseline baseline) := by
  induction run with
  | nil => exact holds
  | snoc _ stepped induction =>
      rw [List.foldl_append, List.foldl_cons, List.foldl_nil]
      exact induction.step stepped

end HoldsBaseline

theorem holdsBaseline_of_run {statics : JpegStatics} {steps : List Step} {finish : Engine}
    (run : Run ⟨MotionDetector.new, statics⟩ steps finish) :
    HoldsBaseline finish.detector (lastBaseline steps) :=
  HoldsBaseline.run run ⟨rfl, rfl, rfl⟩

/-! ## Safety of the store over a run -/

/-- The store is well formed, and no call on a frame that fits faults on a buffer. -/
structure SafeFrameStore (engine : Engine) : Prop where
  store : FrameStore engine.detector
  inBounds : ∀ frame gateNow acceptNow alloc, FrameFits frame →
    engine.detector.detect engine.statics frame gateNow acceptNow alloc ≠ .error .outOfBounds

/-- After any run of a fresh detector the store is well formed and the next call stays
inside its buffers. -/
theorem frameStore_safe_of_run {statics : JpegStatics} {steps : List Step} {finish : Engine}
    (run : Run ⟨MotionDetector.new, statics⟩ steps finish) : SafeFrameStore finish :=
  have store := (holdsBaseline_of_run run).frameStore
  ⟨store, fun _ _ _ _ fits => MotionDetector.detect_ne_outOfBounds store fits⟩

theorem spacedCalls_safeFrameStore :
    SafeFrameStore (Engine.trace ⟨MotionDetector.new, JpegStatics.initial⟩ spacedCalls).2 :=
  frameStore_safe_of_run (Run.of_trace _ _)

/-! ## No division by zero, and calls that cannot fault -/

theorem readByte_ne_divByZero (buf : List (BitVec 8)) (idx : Nat) :
    readByte buf idx ≠ .error .divByZero := by
  unfold readByte
  split <;> simp

theorem memcpy_ne_divByZero (dst src : List (BitVec 8)) (n : Nat) :
    memcpy dst src n ≠ .error .divByZero := by
  unfold memcpy
  split <;> simp

theorem blockDiffOf_ne_divByZero (cur prev : List (BitVec 8)) (width blockSize bx bY : Nat) :
    blockDiffOf cur prev width blockSize bx bY ≠ .error .divByZero :=
  foldlM_ne_error (fun _ _ _ => foldlM_ne_error (fun _ _ _ =>
    bind_ne_error (readByte_ne_divByZero _ _) fun _ =>
      bind_ne_error (readByte_ne_divByZero _ _) fun _ => by simp [pure, Except.pure]) _) _

theorem avgDiffOf_ne_divByZero {blockSize : Nat} (unwrapped : blockSize % 256 ≠ 0)
    (blockDiff : Nat) : avgDiffOf blockSize blockDiff ≠ .error .divByZero := by
  simp only [avgDiffOf]
  split
  · next wraps =>
      have square : 256 ^ 2 ∣ blockSize ^ 2 := by
        rw [pow_two blockSize]
        exact Nat.dvd_of_mod_eq_zero wraps
      exact absurd (Nat.mod_eq_zero_of_dvd ((Nat.pow_dvd_pow_iff two_ne_zero).mp square))
        unwrapped
  · simp

theorem MotionDetector.detect_ne_divByZero {d : MotionDetector}
    (unwrapped : d.config.blockSize.toNat % 256 ≠ 0) (statics : JpegStatics)
    (frame : Option CameraFb) (gateNow acceptNow : BitVec 32) (alloc : AllocOracle) :
    d.detect statics frame gateNow acceptNow alloc ≠ .error .divByZero :=
  detect_ne_error fun _ _ _ _ =>
    detectGrayscale_ne_error
      (fun _ _ _ _ => compareFrames_ne_error (fun zero => absurd (by simp [zero]) unwrapped)
        (scanBlocks_ne_error (fun _ _ _ _ => blockDiffOf_ne_divByZero _ _ _ _ _ _)
          (avgDiffOf_ne_divByZero unwrapped))
        (memcpy_ne_divByZero _ _ _))
      (storeFirstFrame_ne_error fun _ _ => memcpy_ne_divByZero _ _ _)

/-- After any run of a fresh detector, while the block size is not a multiple of 256, a
call on a frame that fits returns a result: it reads and writes inside its buffers and
never divides by zero. -/
theorem detect_succeeds_of_run {statics : JpegStatics} {steps : List Step} {finish : Engine}
    (run : Run ⟨MotionDetector.new, statics⟩ steps finish)
    (unwrapped : finish.detector.config.blockSize.toNat % 256 ≠ 0) {frame : Option CameraFb}
    (fits : FrameFits frame) (gateNow acceptNow : BitVec 32) (alloc : AllocOracle) :
    ∃ value, finish.detector.detect finish.statics frame gateNow acceptNow alloc = .ok value := by
  cases called : finish.detector.detect finish.statics frame gateNow acceptNow alloc with
  | ok value => exact ⟨value, rfl⟩
  | error fault =>
      cases fault with
      | outOfBounds =>
          exact absurd called
            (MotionDetector.detect_ne_outOfBounds (holdsBaseline_of_run run).frameStore fits)
      | divByZero => exact absurd called (MotionDetector.detect_ne_divByZero unwrapped _ _ _ _ _)

set_option maxRecDepth 4000 in
theorem spacedCalls_next_call_succeeds :
    ∃ value,
      (Engine.trace ⟨MotionDetector.new, JpegStatics.initial⟩ spacedCalls).2.detector.detect
        (Engine.trace ⟨MotionDetector.new, JpegStatics.initial⟩ spacedCalls).2.statics
        (some (pixelFrame 7)) 400 400 ⟨true, true⟩ = .ok value :=
  detect_succeeds_of_run (Run.of_trace _ _) (by with_unfolding_all decide)
    (fun _ _ found present _ => by cases found; cases present; decide) 400 400 ⟨true, true⟩

/-! ## What the baseline decides -/

/-- The store holds `baseline`, and a grayscale call through both gates compares against
exactly `baseline` when its dimensions agree, and returns the zero result otherwise. -/
structure BaselineLaw (engine : Engine) (baseline : Option CameraFb) : Prop where
  holds : HoldsBaseline engine.detector baseline
  compares : ∀ fb buf gateNow acceptNow alloc result d' statics',
    validFrame (some fb) = some (fb, buf) → fb.format = .grayscale →
    engine.detector.coolingDown gateNow = false →
    engine.detector.detect engine.statics (some fb) gateNow acceptNow alloc =
      .ok (result, d', statics') →
    (∃ g gbuf, baseline = some g ∧ g.width = fb.width ∧ g.height = fb.height ∧
        g.buf = some gbuf ∧
        engine.detector.compareFrames (gbuf.take (fb.width.toNat * fb.height.toNat)) fb buf
          acceptNow = .ok (result, d')) ∨
      ((∀ g, baseline = some g → g.width ≠ fb.width ∨ g.height ≠ fb.height) ∧
        result = MotionResult.zero)

theorem HoldsBaseline.compares {d : MotionDetector} {statics : JpegStatics}
    {baseline : Option CameraFb} (holds : HoldsBaseline d baseline) {fb : CameraFb}
    {buf : List (BitVec 8)} {gateNow acceptNow : BitVec 32} {alloc : AllocOracle}
    {result : MotionResult} {d' : MotionDetector} {statics' : JpegStatics}
    (valid : validFrame (some fb) = some (fb, buf)) (grayscale : fb.format = .grayscale)
    (gateOpen : d.coolingDown gateNow = false)
    (called : d.detect statics (some fb) gateNow acceptNow alloc = .ok (result, d', statics')) :
    (∃ g gbuf, baseline = some g ∧ g.width = fb.width ∧ g.height = fb.height ∧
        g.buf = some gbuf ∧
        d.compareFrames (gbuf.take (fb.width.toNat * fb.height.toNat)) fb buf acceptNow =
          .ok (result, d')) ∨
      ((∀ g, baseline = some g → g.width ≠ fb.width ∨ g.height ≠ fb.height) ∧
        result = MotionResult.zero) := by
  rcases MotionDetector.detect_cases called with ⟨early, -⟩ |
    ⟨fb', buf', valid', -, jpeg, -⟩ | ⟨fb', buf', valid', -, -, -, grayCalled⟩
  · rcases early fb buf valid with cooling | ⟨-, other⟩
    · simp [gateOpen] at cooling
    · exact absurd grayscale other
  · cases valid.symm.trans valid'
    simp [grayscale] at jpeg
  · cases valid.symm.trans valid'
    rcases MotionDetector.detectGrayscale_cases grayCalled with
      ⟨prevFrame, stored, sameWidth, sameHeight, compared⟩ | ⟨differs, zero, -⟩
    · obtain ⟨g, gbuf, found, width, height, present, rfl, -⟩ := holds.of_stored stored
      refine .inl ⟨g, gbuf, found, width ▸ sameWidth, height ▸ sameHeight, present, ?_⟩
      rwa [← width, ← height, sameWidth, sameHeight] at compared
    · exact .inr ⟨fun g found => by
        simpa [found, imp_iff_not_or] using holds.any_eq_false differs, zero⟩

/-- After any run of a fresh detector, the store holds the most recent grayscale frame
through both gates since the start or the last `reset()` (none if its allocation failed),
and the next grayscale call compares against exactly that frame or, without one of its
dimensions, returns the zero result. -/
theorem baselineLaw_of_run {statics : JpegStatics} {steps : List Step} {finish : Engine}
    (run : Run ⟨MotionDetector.new, statics⟩ steps finish) :
    BaselineLaw finish (lastBaseline steps) :=
  have holds := holdsBaseline_of_run run
  ⟨holds, fun _ _ _ _ _ _ _ _ valid grayscale gateOpen called =>
    holds.compares valid grayscale gateOpen called⟩

theorem spacedCalls_baselineLaw :
    BaselineLaw (Engine.trace ⟨MotionDetector.new, JpegStatics.initial⟩ spacedCalls).2
      (lastBaseline (Engine.trace ⟨MotionDetector.new, JpegStatics.initial⟩ spacedCalls).1) :=
  baselineLaw_of_run (Run.of_trace _ _)

end Mousetrap.Motion
