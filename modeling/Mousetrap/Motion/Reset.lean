import Mousetrap.Motion.Cooldown

/-!
# What `reset()` restarts

`reset()` clears every field of the detector but its configuration, so the detector
it leaves is a fresh one configured the same way.  The history of the JPEG path is not
among those fields: it lives in the `static` locals of `detectFromJpegSize`, which one
program shares among all its detectors and which `reset()` never sees.  So after a
`reset()` the results of later calls still depend on the encoded frames seen before it.
Calls that bring no JPEG frame never read that history, and for them the results
after a `reset()` are those of a fresh program.
-/

namespace Mousetrap.Motion

theorem MotionDetector.reset_eq (d : MotionDetector) :
    d.reset = MotionDetector.new.setConfig d.config :=
  rfl

/-- A call that hands `detect` no JPEG frame. -/
def Call.jpegFree : Call → Bool
  | .detect frame _ _ _ => !(frame.any fun fb => fb.format == .jpeg)
  | .setConfig _ => true
  | .reset => true

theorem MotionDetector.detect_of_jpegFree {d : MotionDetector} {frame : Option CameraFb}
    (free : (frame.any fun fb => fb.format == .jpeg) = false) (statics other : JpegStatics)
    (gateNow acceptNow : BitVec 32) (alloc : AllocOracle) :
    d.detect statics frame gateNow acceptNow alloc =
      (d.detect other frame gateNow acceptNow alloc).map fun x => (x.1, x.2.1, statics) := by
  unfold detect detectFrame
  split
  · rfl
  · next fb buf valid =>
      have notJpeg : fb.format ≠ .jpeg := by
        obtain ⟨rfl, -⟩ := validFrame_eq_some valid
        simpa using free
      simp only [notJpeg, if_false]
      split
      · rfl
      · split
        · rfl
        · cases d.detectGrayscale fb buf acceptNow alloc <;> rfl

theorem Engine.step_of_jpegFree {call : Call} (free : call.jpegFree = true) (d : MotionDetector)
    (statics other : JpegStatics) :
    Engine.step ⟨d, statics⟩ call =
      (Engine.step ⟨d, other⟩ call).map fun x => (x.1, ⟨x.2.detector, statics⟩) := by
  cases call with
  | detect frame gateTime acceptTime alloc =>
      have frameFree : (frame.any fun fb => fb.format == .jpeg) = false := by
        simpa [Call.jpegFree] using free
      simp only [Engine.step]
      rw [MotionDetector.detect_of_jpegFree frameFree statics other]
      cases d.detect other frame (millis gateTime) (millis acceptTime) alloc <;> rfl
  | setConfig config => rfl
  | reset => rfl

/-- Calls that bring no JPEG frame return the same results whatever the statics. -/
theorem Engine.trace_results_of_jpegFree (d : MotionDetector) (statics other : JpegStatics)
    {calls : List Call} (free : ∀ call ∈ calls, call.jpegFree = true) :
    (Engine.trace ⟨d, statics⟩ calls).1.map Step.result =
      (Engine.trace ⟨d, other⟩ calls).1.map Step.result := by
  induction calls generalizing d with
  | nil => rfl
  | cons call calls induction =>
      have callFree := free call (List.mem_cons_self _ _)
      have keeps := Engine.step_of_jpegFree callFree d other other
      simp only [Engine.trace, Engine.step_of_jpegFree callFree d statics other]
      cases stepped : Engine.step ⟨d, other⟩ call with
      | error fault => rfl
      | ok x =>
          obtain ⟨result, detector, afterStatics⟩ := x
          rw [stepped] at keeps
          cases keeps
          simp only [Except.map, List.map_cons,
            induction detector fun call member => free call (List.mem_cons_of_mem _ member)]

/-- An encoded frame of `len` bytes. -/
def jpegFrame (len : BitVec 32) : CameraFb :=
  ⟨some [0], len, 64, 64, .jpeg⟩

/-- Three encoded frames of 100 bytes, ten seconds apart. -/
def jpegWarmUp : List Call :=
  [10000, 20000, 30000].map fun time => .detect (some (jpegFrame 100)) time time ⟨true, true⟩

/-- One encoded frame of 130 bytes. -/
def jpegProbe : List Call :=
  [.detect (some (jpegFrame 130)) 40000 40000 ⟨true, true⟩]

/-- The same call right after a `reset()` detects motion when three encoded frames came
before the reset, and is still warming up when none did. -/
theorem reset_keeps_jpeg_history :
    ((Engine.trace ⟨MotionDetector.new, JpegStatics.initial⟩
        (jpegWarmUp ++ .reset :: jpegProbe)).1.drop 4).map Step.accepted = [true] ∧
      ((Engine.trace ⟨MotionDetector.new, JpegStatics.initial⟩
        (.reset :: jpegProbe)).1.drop 1).map Step.accepted = [false] := by
  with_unfolding_all decide

/-- After `reset()`, calls that bring no JPEG frame give the results they give on a fresh
detector of the same configuration in a fresh program, whatever came before. -/
theorem reset_results_of_jpegFree (d : MotionDetector) (statics : JpegStatics)
    {calls : List Call} (free : ∀ call ∈ calls, call.jpegFree = true) :
    (Engine.trace ⟨d.reset, statics⟩ calls).1.map Step.result =
      (Engine.trace ⟨MotionDetector.new.setConfig d.config, JpegStatics.initial⟩ calls).1.map
        Step.result := by
  rw [MotionDetector.reset_eq]
  exact Engine.trace_results_of_jpegFree _ statics JpegStatics.initial free

theorem reset_results_of_grayscale_calls :
    (Engine.trace ⟨(⟨MotionConfig.default, some [7], 1, 1, 5⟩ : MotionDetector).reset,
        ⟨100, [100, 100, 100, 0, 0], 3, rfl⟩⟩ spacedCalls).1.map Step.result =
      (Engine.trace ⟨MotionDetector.new.setConfig MotionConfig.default, JpegStatics.initial⟩
        spacedCalls).1.map Step.result :=
  reset_results_of_jpegFree _ _ (by decide)

end Mousetrap.Motion
