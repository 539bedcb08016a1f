import Mousetrap.Machine.Binary32
import Mousetrap.Machine.CString
import Mousetrap.Motion.Types
import Mousetrap.Motion.BlockLoop
import Mousetrap.Motion.ChangedBlocks
import Mousetrap.Motion.JpegSize
import Mousetrap.Motion.JpegWindow
import Mousetrap.Motion.Detect
import Mousetrap.Motion.BlockDiffLaw
import Mousetrap.Motion.Run
import Mousetrap.Motion.Cooldown
import Mousetrap.Motion.FrameStore
import Mousetrap.Motion.Reset
import Mousetrap.Motion.JpegRun
import Mousetrap.Servo.SafeServo
import Mousetrap.Sensor.TofScan
import Mousetrap.Debug.Framebuffer
import Mousetrap.Debug.Ring
import Mousetrap.Debug.Context
import Mousetrap.Debug.CrashKit
import Mousetrap.Debug.I2C
import Mousetrap.Debug.I2CTiming
import Mousetrap.Debug.Tasks
