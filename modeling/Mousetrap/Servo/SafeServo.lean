import Mathlib.Logic.Basic

/-!
# `SafeServo`

`SafeServo` wraps an ESP32Servo `Servo` so that a runtime switch, the global
`disableServo`, can make the servo safe at any call: the inner servo detached and its
control pin left as a high-impedance input.  The switch may change between any two
calls, so each call reads it as an argument.

The inner `Servo` is the library's; it is modelled by the pin it drives, if any, and
`Servo::attach` answers with an LEDC channel chosen by the library, an argument here.
`SERVO_PWR_EN` is not defined in the repository, so `powerOn` and `powerOff` do
nothing.

`attach` stores its pin in `_pin` before it looks at the switch or at the range of the
pin, and on both early returns it leaves the inner servo as it was.  So a servo attached
on one pin stays attached, with `_attached` set, through an `attach` made while the
switch is off, and the `triStatePin` that follows makes the new pin an input, not the
one the servo drives; a later `detach()` does the same.
-/

namespace Mousetrap.ServoOptional

/-- `SERVO_PIN`. -/
def servoPin : Int := 48

/-- The modes the servo code leaves a pin in. -/
inductive PinMode where
  /-- `INPUT`: high impedance. -/
  | input
  /-- Driven by an LEDC channel after `Servo::attach`. -/
  | pwm
  deriving DecidableEq, Repr

/-- The ESP32Servo `Servo`, modelled from the library's behaviour as far as `SafeServo` uses
it: the pin it drives, if any. -/
structure Servo where
  pin : Option Int
  deriving DecidableEq, Repr

/-- `Servo::attach`, modelled from the ESP32Servo library's behaviour: the library picks the
channel, and a negative channel is a refusal that leaves the servo as it was. -/
def Servo.attach (inner : Servo) (pin channel : Int) : Int × Servo :=
  if 0 ≤ channel then (channel, ⟨some pin⟩) else (channel, inner)

/-- `Servo::detach`, modelled from the ESP32Servo library's behaviour: the servo drives no
pin after it. -/
def Servo.detach (_inner : Servo) : Servo :=
  ⟨none⟩

/-- `Servo::attached`, modelled from the ESP32Servo library's behaviour: whether the servo
drives a pin. -/
def Servo.attached (inner : Servo) : Bool :=
  inner.pin.isSome

/-- The fields of a `SafeServo`. -/
structure SafeServo where
  attached : Bool
  ch : Int
  pin : Int
  inner : Servo
  deriving DecidableEq, Repr

/-- `SafeServo() : _attached(false), _ch(-1), _pin(-1) {}`. -/
def SafeServo.init : SafeServo :=
  ⟨false, -1, -1, ⟨none⟩⟩

/-- A `SafeServo` on its board: the mode each pin was last set to. -/
structure Rig where
  servo : SafeServo
  modes : Int → Option PinMode

/-- `pinMode(pin, mode)`. -/
def Rig.pinMode (rig : Rig) (pin : Int) (mode : PinMode) : Rig :=
  { rig with modes := fun other => if other = pin then some mode else rig.modes other }

/-- `triStatePin()`: `_pin`, when it is one, then `SERVO_PIN` to `INPUT`. -/
def Rig.triStatePin (rig : Rig) : Rig :=
  let rig := if 0 ≤ rig.servo.pin then rig.pinMode rig.servo.pin .input else rig
  rig.pinMode servoPin .input

/-- `powerOff()`: nothing, `SERVO_PWR_EN` being undefined. -/
def Rig.powerOff (rig : Rig) : Rig :=
  rig

/-- `powerOn()`: nothing, `SERVO_PWR_EN` being undefined. -/
def Rig.powerOn (rig : Rig) : Rig :=
  rig

/-- `SafeServo::attach(pin, minUs, maxUs)`, the library answering `channel`. -/
def Rig.attach (rig : Rig) (disableServo : Bool) (pin _minUs _maxUs channel : Int) :
    Rig × Int :=
  let rig := { rig with servo := { rig.servo with pin } }
  if disableServo then (rig.triStatePin.powerOff, -1)
  else if pin < 0 ∨ pin > 48 then (rig, -1)
  else
    let (ch, inner) := rig.servo.inner.attach pin channel
    let rig := { rig with servo := { rig.servo with ch, inner } }
    let rig := if 0 ≤ ch then rig.pinMode pin .pwm else rig
    let rig := { rig with servo := { rig.servo with attached := decide (0 ≤ ch) } }
    (if rig.servo.attached then rig.powerOn else rig, ch)

/-- `SafeServo::detach()`. -/
def Rig.detach (rig : Rig) : Rig :=
  let rig := if rig.servo.attached then
      { rig with servo := { rig.servo with inner := rig.servo.inner.detach, attached := false } }
    else rig
  rig.triStatePin.powerOff

/-- `SafeServo::attached()`. -/
def Rig.attached (rig : Rig) (disableServo : Bool) : Bool :=
  if disableServo then false else rig.servo.attached && rig.servo.inner.attached

/-- `SafeServo::writeMicroseconds(us)` and `SafeServo::write(angle)`: the inner call
changes nothing the model keeps. -/
def Rig.write (rig : Rig) (disableServo : Bool) : Rig :=
  if disableServo then rig.detach else rig

/-- `SafeServo::readMicroseconds()` and `SafeServo::read()`, the inner servo answering
`value`. -/
def Rig.read (rig : Rig) (disableServo : Bool) (value : Int) : Int :=
  if disableServo || !rig.servo.attached then -1 else value

/-- A call on the wrapper, with the library's answers. -/
inductive ServoCall where
  | attach (pin minUs maxUs channel : Int)
  | detach
  | attached
  | writeMicroseconds (us : Int)
  | write (angle : Int)
  | readMicroseconds (value : Int)
  | read (value : Int)
  deriving DecidableEq, Repr

/-- What a call returns. -/
inductive Reply where
  | none
  | int (value : Int)
  | bool (value : Bool)
  deriving DecidableEq, Repr

/-- One call with the switch at `disableServo`. -/
def Rig.step (rig : Rig) (disableServo : Bool) : ServoCall → Rig × Reply
  | .attach pin minUs maxUs channel =>
      let (rig, ch) := rig.attach disableServo pin minUs maxUs channel
      (rig, .int ch)
  | .detach => (rig.detach, .none)
  | .attached => (rig, .bool (rig.attached disableServo))
  | .writeMicroseconds _ => (rig.write disableServo, .none)
  | .write _ => (rig.write disableServo, .none)
  | .readMicroseconds value => (rig, .int (rig.read disableServo value))
  | .read value => (rig, .int (rig.read disableServo value))

/-- The calls the switch must make safe: `detach()`, and `attach`, `write` and
`writeMicroseconds` while it is on. -/
def ServoCall.makesSafe (disableServo : Bool) : ServoCall → Bool
  | .detach => true
  | .attach .. | .writeMicroseconds _ | .write _ => disableServo
  | _ => false

/-- A safe rig: the inner servo drives no pin, `_attached` is false, and `pin`, the pin
it drove last, is an input. -/
def Rig.Safe (rig : Rig) (pin : Int) : Prop :=
  rig.servo.inner.pin = none ∧ rig.servo.attached = false ∧ rig.modes pin = some .input

/-! ## What `detach()` does -/

@[simp] theorem Rig.pinMode_servo (rig : Rig) (pin : Int) (mode : PinMode) :
    (rig.pinMode pin mode).servo = rig.servo :=
  rfl

@[simp] theorem Rig.pinMode_modes_self (rig : Rig) (pin : Int) (mode : PinMode) :
    (rig.pinMode pin mode).modes pin = some mode := by
  simp [Rig.pinMode]

@[simp] theorem Rig.triStatePin_servo (rig : Rig) : rig.triStatePin.servo = rig.servo := by
  unfold Rig.triStatePin
  split <;> rfl

theorem Rig.triStatePin_modes (rig : Rig) :
    rig.triStatePin.modes servoPin = some .input ∧
      (0 ≤ rig.servo.pin → rig.triStatePin.modes rig.servo.pin = some .input) := by
  refine ⟨by simp [Rig.triStatePin], fun valid => ?_⟩
  by_cases same : rig.servo.pin = servoPin
  · simp [Rig.triStatePin, same]
  · simp [Rig.triStatePin, Rig.pinMode, valid, same]

theorem Rig.detach_spec (rig : Rig) :
    rig.detach.servo.attached = false ∧
      (rig.servo.attached = true → rig.detach.servo.inner.pin = none) ∧
      rig.detach.servo.pin = rig.servo.pin ∧
      rig.detach.modes servoPin = some .input ∧
      (0 ≤ rig.servo.pin → rig.detach.modes rig.servo.pin = some .input) := by
  dsimp only [Rig.detach, Rig.powerOff]
  split <;> rw [Rig.triStatePin_servo]
  · exact ⟨rfl, fun _ => rfl, rfl, Rig.triStatePin_modes _⟩
  · next attached =>
      exact ⟨by simpa using attached, fun stale => absurd stale attached, rfl,
        Rig.triStatePin_modes rig⟩

/-! ## When `detach()` makes the servo safe -/

/-- The wrapper tracks its inner servo: whenever the servo drives a pin, `_attached` is set
and `_pin` is that pin. -/
def Rig.Tracks (rig : Rig) : Prop :=
  ∀ pin, rig.servo.inner.pin = some pin → rig.servo.attached = true ∧ rig.servo.pin = pin

instance (rig : Rig) (pin : Int) : Decidable (rig.Safe pin) :=
  inferInstanceAs (Decidable (_ ∧ _ ∧ _))

theorem Rig.detach_safe {rig : Rig} {pin : Int} (tracks : rig.Tracks)
    (drove : rig.servo.inner.pin = some pin) (valid : 0 ≤ pin) : rig.detach.Safe pin := by
  obtain ⟨attached, rfl⟩ := tracks pin drove
  obtain ⟨detached, released, -, -, modes⟩ := Rig.detach_spec rig
  exact ⟨released attached, detached, modes valid⟩

theorem Rig.detach_tracks {rig : Rig} (tracks : rig.Tracks) : rig.detach.Tracks := by
  intro pin drives
  obtain ⟨detached, released, -⟩ := Rig.detach_spec rig
  cases attached : rig.servo.attached
  · have idle : rig.servo.inner.pin = none := by
      cases driven : rig.servo.inner.pin with
      | none => rfl
      | some other => simp [(tracks other driven).1] at attached
    have same : rig.detach.servo.inner = rig.servo.inner := by
      simp [Rig.detach, attached, Rig.powerOff]
    simp [same, idle] at drives
  · simp [released attached] at drives

theorem Rig.attach_servo (rig : Rig) (disableServo : Bool) (pin minUs maxUs channel : Int) :
    (rig.attach disableServo pin minUs maxUs channel).1.servo =
      if disableServo = false ∧ 0 ≤ pin ∧ pin ≤ 48 then
        if 0 ≤ channel then ⟨true, channel, pin, ⟨some pin⟩⟩
        else ⟨false, channel, pin, rig.servo.inner⟩
      else { rig.servo with pin } := by
  cases disableServo
  · by_cases inside : 0 ≤ pin ∧ pin ≤ 48
    · have valid : ¬(pin < 0 ∨ pin > 48) := by omega
      by_cases granted : 0 ≤ channel <;>
        simp [Rig.attach, Servo.attach, valid, inside, granted, Rig.powerOn]
    · have invalid : pin < 0 ∨ pin > 48 := by omega
      simp [Rig.attach, invalid, inside]
  · simp [Rig.attach, Rig.powerOff]

/-- An `attach` that cannot strand a driven servo: it finds no pin driven, or attaches the
servo anew with the switch on, a pin in range and a channel granted.  Other calls qualify. -/
def ServoCall.AttachesAnew (rig : Rig) (disableServo : Bool) : ServoCall → Prop
  | .attach pin _ _ channel => rig.servo.inner.pin = none ∨
      disableServo = false ∧ 0 ≤ pin ∧ pin ≤ 48 ∧ 0 ≤ channel
  | _ => True

theorem Rig.step_tracks {rig : Rig} {disableServo : Bool} {call : ServoCall}
    (tracks : rig.Tracks) (anew : call.AttachesAnew rig disableServo) :
    (rig.step disableServo call).1.Tracks := by
  cases call with
  | attach pin minUs maxUs channel =>
      intro other drives
      simp only [Rig.step, Rig.attach_servo] at drives ⊢
      rcases anew with idle | ⟨enabled, low, high, granted⟩
      · by_cases attaching : disableServo = false ∧ 0 ≤ pin ∧ pin ≤ 48
        · rw [if_pos attaching] at drives ⊢
          by_cases granted : 0 ≤ channel
          · simp only [if_pos granted, Option.some.injEq] at drives ⊢
            exact ⟨trivial, drives⟩
          · simp [if_neg granted, idle] at drives
        · simp [if_neg attaching, idle] at drives
      · simp only [enabled, low, high, granted, and_self, if_true, Option.some.injEq] at drives ⊢
        exact ⟨trivial, drives⟩
  | detach => exact Rig.detach_tracks tracks
  | writeMicroseconds _ | write _ =>
      cases disableServo
      · exact tracks
      · exact Rig.detach_tracks tracks
  | attached | readMicroseconds _ | read _ => exact tracks

/-- A call the switch must make safe, made while the wrapper tracks a servo driving `pin`,
leaves `pin` an input and the servo detached, if it is not an `attach` that strands it. -/
theorem Rig.step_safe {rig : Rig} {disableServo : Bool} {call : ServoCall} {pin : Int}
    (tracks : rig.Tracks) (anew : call.AttachesAnew rig disableServo)
    (mustSafe : call.makesSafe disableServo = true) (drove : rig.servo.inner.pin = some pin)
    (valid : 0 ≤ pin) : (rig.step disableServo call).1.Safe pin := by
  cases call with
  | attach newPin minUs maxUs channel =>
      rcases anew with idle | ⟨enabled, -⟩
      · cases idle.symm.trans drove
      · subst enabled
        cases mustSafe
  | detach => exact Rig.detach_safe tracks drove valid
  | writeMicroseconds _ | write _ =>
      cases disableServo
      · cases mustSafe
      · exact Rig.detach_safe tracks drove valid
  | attached | readMicroseconds _ | read _ => cases mustSafe

/-! ## Runs whose attaches attach anew -/

/-- The rig after a sequence of calls, each with the switch as it stood. -/
def Rig.run (rig : Rig) (calls : List (Bool × ServoCall)) : Rig :=
  calls.foldl (fun rig call => (rig.step call.1 call.2).1) rig

/-- Every `attach` of a run attaches anew, against the rig it meets. -/
def AttachesAnew : Rig → List (Bool × ServoCall) → Prop
  | _, [] => True
  | rig, (disableServo, call) :: calls =>
      call.AttachesAnew rig disableServo ∧ AttachesAnew (rig.step disableServo call).1 calls

theorem AttachesAnew.split {rig : Rig} {before after : List (Bool × ServoCall)}
    (anew : AttachesAnew rig (before ++ after)) :
    AttachesAnew rig before ∧ AttachesAnew (rig.run before) after := by
  induction before generalizing rig with
  | nil => exact ⟨trivial, anew⟩
  | cons call before induction =>
      obtain ⟨first, rest⟩ := anew
      exact ⟨⟨first, (induction rest).1⟩, (induction rest).2⟩

theorem Rig.run_tracks {rig : Rig} (tracks : rig.Tracks) {calls : List (Bool × ServoCall)}
    (anew : AttachesAnew rig calls) : (rig.run calls).Tracks := by
  induction calls generalizing rig with
  | nil => exact tracks
  | cons call calls induction => exact induction (Rig.step_tracks tracks anew.1) anew.2

/-- From the constructed wrapper, through a run whose every `attach` attaches anew, each
call the switch must make safe, made while the servo drives a pin, leaves that pin an input
and the servo detached with `_attached` false. -/
theorem attachesAnew_makes_safe {modes : Int → Option PinMode}
    {before after : List (Bool × ServoCall)} {disableServo : Bool} {call : ServoCall}
    (anew : AttachesAnew ⟨SafeServo.init, modes⟩ (before ++ (disableServo, call) :: after))
    (mustSafe : call.makesSafe disableServo = true) {pin : Int} (valid : 0 ≤ pin)
    (drove : (Rig.run ⟨SafeServo.init, modes⟩ before).servo.inner.pin = some pin) :
    ((Rig.run ⟨SafeServo.init, modes⟩ before).step disableServo call).1.Safe pin :=
  have ⟨earlier, later⟩ := anew.split
  have tracks := Rig.run_tracks (fun _ drives => by cases drives) earlier
  Rig.step_safe tracks later.1 mustSafe drove valid

/-- A `write` with the switch off, after an attach on pin 10, leaves pin 10 an input. -/
theorem writeWhileOff_makes_safe :
    ((Rig.run ⟨SafeServo.init, fun _ => none⟩
        [(false, .attach 10 500 2500 0), (false, .write 90)]).step true (.write 90)).1.Safe 10 :=
  attachesAnew_makes_safe
    (show AttachesAnew _
        ([(false, .attach 10 500 2500 0), (false, .write 90)] ++ [(true, .write 90)]) from
      ⟨.inl rfl, trivial, trivial, trivial⟩) rfl (by decide) rfl

/-! ## An `attach` while the switch is off -/

/-- Attach on pin 10, then attach on pin 20 with the switch turned off, then detach. -/
def switchedOffCalls : List (Bool × ServoCall) :=
  [(false, .attach 10 500 2500 0), (true, .attach 20 500 2500 0), (true, .detach)]

/-- The rigs a sequence of calls passes through, after each call. -/
def Rig.trace (rig : Rig) : List (Bool × ServoCall) → List Rig
  | [] => []
  | (disableServo, call) :: calls =>
      let after := (rig.step disableServo call).1
      after :: after.trace calls

/-- Turned off, `attach(20)` leaves the servo attached to pin 10 with `_attached` set, and
the `detach()` after it tri-states pin 20 and `SERVO_PIN` but leaves pin 10 driven: after
the two calls the switch must make safe, the rig is not safe for pin 10. -/
theorem attach_while_disabled_keeps_servo_driven :
    (Rig.trace ⟨SafeServo.init, fun _ => none⟩ switchedOffCalls).map
        (fun rig => (rig.servo.inner.pin, rig.servo.attached, rig.modes 10, rig.modes 20)) =
      [(some 10, true, some .pwm, none), (some 10, true, some .pwm, some .input),
        (none, false, some .pwm, some .input)] ∧
      switchedOffCalls.map (fun call => call.2.makesSafe call.1) = [false, true, true] ∧
      (Rig.trace ⟨SafeServo.init, fun _ => none⟩ switchedOffCalls).map
        (fun rig => decide (rig.Safe 10)) = [false, false, false] :=
  ⟨rfl, rfl, by decide⟩

end Mousetrap.ServoOptional
