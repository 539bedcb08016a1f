import Mathlib.Algebra.Order.Field.Rat

/-!
# Data model of the scout motion detector

The records of `scout_arduino/motion_detect.h`: the configuration, the result,
the detector's private fields and the function-static storage of
`detectFromJpegSize`.  Fixed-width C fields are bit vectors of their width, so a
value the C type cannot hold cannot be built.  A `float` field holds the rational
its value denotes: the block path rounds every step as the FPU does
(`Mousetrap.Machine.round32`), and the JPEG path keeps its deviation exact.  The
configured bounds range over all rationals, every `float` among them.

A pixel buffer is the list of its bytes; its length is the size of the
allocation behind the pointer, and a null pointer is `none`.
-/

namespace Mousetrap.Motion

/-- Modelled from the spec: `pixformat_t` of the camera driver is not part of the
repository, and the detector only distinguishes grayscale, JPEG and the rest. -/
inductive PixFormat where
  | grayscale
  | jpeg
  | other
  deriving DecidableEq, Repr

/-- Modelled from the spec: the `camera_fb_t` fields the detector reads, with the
widths the spec's frame descriptor gives them (`size_t` is 32 bits on the ESP32). -/
structure CameraFb where
  buf : Option (List (BitVec 8))
  len : BitVec 32
  width : BitVec 16
  height : BitVec 16
  format : PixFormat
  deriving DecidableEq, Repr

structure MotionConfig where
  threshold : BitVec 8
  minSizePercent : ℚ
  maxSizePercent : ℚ
  blockSize : BitVec 16
  cooldownMs : BitVec 16
  deriving DecidableEq, Repr

structure MotionResult where
  detected : Bool
  sizeFiltered : Bool
  x : BitVec 16
  y : BitVec 16
  width : BitVec 16
  height : BitVec 16
  sizePercent : ℚ
  changedBlocks : BitVec 32
  totalBlocks : BitVec 32
  confidence : ℚ
  deriving DecidableEq, Repr

/-- The initialiser `{false, false, 0, 0, 0, 0, 0.0, 0, 0, 0.0}` of both detection
paths, and what every early return hands back. -/
def MotionResult.zero : MotionResult :=
  ⟨false, false, 0, 0, 0, 0, 0, 0, 0, 0⟩

/-- The private fields of `MotionDetector`. `prevFrame` is the heap buffer of the
previous grayscale frame. -/
structure MotionDetector where
  config : MotionConfig
  prevFrame : Option (List (BitVec 8))
  prevWidth : BitVec 16
  prevHeight : BitVec 16
  lastDetectionTime : BitVec 32
  deriving DecidableEq, Repr

/-- The configuration set by the constructor. -/
def MotionConfig.default : MotionConfig :=
  ⟨25, 1, 30, 16, 2000⟩

/-- `MotionDetector()`. -/
def MotionDetector.new : MotionDetector :=
  ⟨MotionConfig.default, none, 0, 0, 0⟩

/-- The `static` locals of `detectFromJpegSize`.  There is one copy for the whole
program, shared by every `MotionDetector`; the cursor only ever holds `0 .. 4`. -/
structure JpegStatics where
  prevJpegSize : BitVec 32
  jpegSizeHistory : List (BitVec 32)
  historyIdx : Fin 5
  length_jpegSizeHistory : jpegSizeHistory.length = 5
  deriving DecidableEq

/-- The statics as the program loads them. -/
def JpegStatics.initial : JpegStatics :=
  ⟨0, [0, 0, 0, 0, 0], 0, rfl⟩

/-- What the C abstract machine cannot continue from. -/
inductive MotionFault where
  /-- A read or write outside the buffer behind a pointer. -/
  | outOfBounds
  /-- An integer division by zero. -/
  | divByZero
  deriving DecidableEq, Repr

/-- Which of the two `heap_caps_malloc` calls of `allocatePrevFrame` succeed: the
allocator is free to refuse either. -/
structure AllocOracle where
  spiram : Bool
  internal : Bool
  deriving DecidableEq, Repr

end Mousetrap.Motion
