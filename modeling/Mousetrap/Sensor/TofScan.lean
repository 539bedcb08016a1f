import Mathlib.Data.List.Basic

/-!
# The I2C bus scan

`tof_autodetect.h` probes every 7-bit address from `1` to `126` with an empty write, prints
each one that `endTransmission()` answers with `0`, and then the number it found.  The bus
is the function `acks`, from an address to whether the device there acknowledged.

The printed list is exactly the acknowledging addresses of that range, in increasing
order, and the `uint8_t` count printed after it is their number: at most 126, so it never
wraps.
-/

namespace Mousetrap.Sensor

/-- One pass of the loop of lines 9–15 at address `a`: the addresses printed so far, and
the count `n`. -/
def probe (acks : BitVec 8 → Bool) (found : List (BitVec 8) × BitVec 8) (a : Nat) :
    List (BitVec 8) × BitVec 8 :=
  if acks (BitVec.ofNat 8 a) then (found.1 ++ [BitVec.ofNat 8 a], found.2 + 1) else found

/-- `tofScan(bus)`: the addresses printed, in order, and the count printed after them. -/
def tofScan (acks : BitVec 8 → Bool) : List (BitVec 8) × BitVec 8 :=
  (List.range' 1 126).foldl (probe acks) ([], 0)

/-- The addresses the loop probes, `1` to `126`: neither the general call address `0` nor
the reserved `127`. -/
def probedAddresses : List (BitVec 8) :=
  (List.range' 1 126).map (BitVec.ofNat 8)

theorem foldl_probe (acks : BitVec 8 → Bool) (addresses : List Nat)
    (found : List (BitVec 8)) (n : BitVec 8) :
    addresses.foldl (probe acks) (found, n) =
      (found ++ (addresses.map (BitVec.ofNat 8)).filter acks,
        n + BitVec.ofNat 8 ((addresses.map (BitVec.ofNat 8)).filter acks).length) := by
  induction addresses generalizing found n with
  | nil => simp
  | cons a addresses induction =>
      rw [List.foldl_cons, List.map_cons, List.filter_cons]
      by_cases acked : acks (BitVec.ofNat 8 a) = true
      · rw [probe, if_pos acked, induction, if_pos acked, List.length_cons, List.append_assoc,
          List.singleton_append, BitVec.ofNat_add, BitVec.add_assoc, BitVec.add_comm 1]
        rfl
      · rw [probe, if_neg acked, induction, if_neg acked]

/-- The scan prints exactly the acknowledging addresses from `1` to `126`, in increasing
order, and then their number. -/
theorem tofScan_reports (acks : BitVec 8 → Bool) :
    (tofScan acks).1 = probedAddresses.filter acks ∧
      (tofScan acks).2.toNat = (tofScan acks).1.length := by
  have few : (probedAddresses.filter acks).length < 2 ^ 8 :=
    lt_of_le_of_lt (List.length_filter_le _ _) (by simp [probedAddresses])
  rw [tofScan, foldl_probe]
  exact ⟨List.nil_append _,
    (congrArg BitVec.toNat (BitVec.zero_add _)).trans (Nat.mod_eq_of_lt few)⟩

set_option maxRecDepth 4000 in
/-- Two devices on the bus, at `0x29` and at `0x52`. -/
example : tofScan (fun a => a = 0x29 || a = 0x52) = ([0x29, 0x52], 2) := by
  decide

end Mousetrap.Sensor
