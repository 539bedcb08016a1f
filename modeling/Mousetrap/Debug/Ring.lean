import Mathlib.Data.Int.ModEq
import Mathlib.Data.List.Basic

/-!
# The RTC rings

The context snapshots and the crash breadcrumbs live in RTC memory as one C layout: an
array of slots, the `uint8_t` position of the next write and the `uint8_t` number of
slots written, capped at the capacity.  This module gives that layout and its reads once,
with the capacity a parameter, and relates it to what it stands for: the list of entries
written since the ring was last cleared.

`Ring.Holds` is that relation.  It starts on the zeroed ring, every write keeps it, and
from it each read of the C code is a read of the list: the print loop lists the last
`min n capacity` entries oldest first, and the slots behind the write position are the
latest entries, newest first.
-/

namespace Mousetrap.Debug

/-- A ring as the RTC buffers lay it out: the slots, the next slot to write, and the number
of slots written. -/
structure Ring (α : Type) where
  slots : List α
  index : BitVec 8
  count : BitVec 8
  deriving DecidableEq, Repr

variable {α : Type}

namespace Ring

/-- The ring `memset` leaves: `capacity` zeroed slots. -/
def empty (zero : α) (capacity : Nat) : Ring α :=
  ⟨List.replicate capacity zero, 0, 0⟩

/-- The write of `debugContextTakeSnapshot` and `debugCrashKitAddBreadcrumb`: fill the slot
at `index`, advance `index` modulo `capacity`, and count up to `capacity`. -/
def push (ring : Ring α) (capacity : Nat) (entry : α) : Ring α where
  slots := ring.slots.set ring.index.toNat entry
  index := BitVec.ofNat 8 ((ring.index.toNat + 1) % capacity)
  count := if ring.count.toNat < capacity then ring.count + 1 else ring.count

/-- The print loops: `count` slots from `start_idx`, which is `0` until the ring is full
and `index` after. -/
def chronological (ring : Ring α) (capacity : Nat) : List (Option α) :=
  let start := if ring.count.toNat < capacity then 0 else ring.index.toNat
  (List.range ring.count.toNat).map fun i => ring.slots[(start + i) % capacity]?

/-- The slot at `(index - 1 - back + capacity) % capacity`, the `back`-th before the next
write. -/
def behind (ring : Ring α) (capacity back : Nat) : Option α :=
  ring.slots[(((ring.index.toNat : Int) - 1 - back + capacity) % capacity).toNat]?

/-- `debugContextGetLatest`: the slot before the next write, once one was written. -/
def latest (ring : Ring α) (capacity : Nat) : Option α :=
  if ring.count.toNat > 0 then ring.behind capacity 0 else none

/-- `debugContextPrintSummary`: up to three slots back from the next write, newest first,
the loop stopping at `count`. -/
def summary (ring : Ring α) (capacity : Nat) : List (Option α) :=
  ((List.range (min 3 ring.count.toNat)).takeWhile (· < ring.count.toNat)).map
    (ring.behind capacity)

/-! ## The list a ring stands for -/

/-- The ring holds `history`, the entries written since it was cleared: the write position
and the count follow its length, and the last `min n capacity` entries sit in their
slots. -/
structure Holds (ring : Ring α) (capacity : Nat) (history : List α) : Prop where
  length_slots : ring.slots.length = capacity
  index : ring.index.toNat = history.length % capacity
  count : ring.count.toNat = min history.length capacity
  recent : ∀ back, back < min history.length capacity →
    ring.slots[(history.length - 1 - back) % capacity]? = history[history.length - 1 - back]?

theorem holds_empty (zero : α) (capacity : Nat) : (empty zero capacity).Holds capacity [] :=
  ⟨by simp [empty], by simp [empty], by simp [empty], fun back below => by simp at below⟩

theorem slot_ne {length back capacity : Nat} (early : back ≤ length) (later : 0 < back)
    (short : back < capacity) : (length - back) % capacity ≠ length % capacity := by
  intro same
  have divides := (Nat.modEq_iff_dvd' (Nat.sub_le length back)).mp same
  rw [Nat.sub_sub_self early] at divides
  exact Nat.pos_iff_ne_zero.mp later (Nat.eq_zero_of_dvd_of_lt divides short)

/-- The `int` arithmetic of `(index - 1 - back + capacity) % capacity` lands on the slot
`back` entries before the newest. -/
theorem behind_slot {length back capacity : Nat} (early : back < length) :
    ((((length % capacity : Nat) : Int) - 1 - back + capacity) % capacity).toNat =
      (length - 1 - back) % capacity := by
  have congruent : ((length % capacity : Nat) : Int) - 1 - back + capacity ≡
      ((length - 1 - back : Nat) : Int) [ZMOD capacity] :=
    calc ((length % capacity : Nat) : Int) - 1 - back + capacity
        ≡ ((length % capacity : Nat) : Int) - 1 - back [ZMOD capacity] := by
          simp [Int.ModEq]
      _ ≡ (length : Int) - 1 - back [ZMOD capacity] := by
          rw [Int.natCast_mod]
          exact ((Int.mod_modEq _ _).sub_right 1).sub_right _
      _ = ((length - 1 - back : Nat) : Int) := by omega
  rw [congruent, ← Int.natCast_mod, Int.toNat_natCast]

section Holds

variable {capacity : Nat} {ring : Ring α} {history : List α}

theorem Holds.push (positive : 0 < capacity) (fits : capacity < 256)
    (holds : ring.Holds capacity history) (entry : α) :
    (ring.push capacity entry).Holds capacity (history ++ [entry]) := by
  obtain ⟨length_slots, index, count, recent⟩ := holds
  have slotInside : history.length % capacity < ring.slots.length := by
    rw [length_slots]
    exact Nat.mod_lt _ positive
  refine ⟨by simp [Ring.push, length_slots], ?_, ?_, ?_⟩
  · simp only [Ring.push, BitVec.toNat_ofNat, index, List.length_append, List.length_singleton,
      Nat.mod_add_mod]
    exact Nat.mod_eq_of_lt (Nat.lt_of_lt_of_le (Nat.mod_lt _ positive) (by omega))
  · simp only [Ring.push, List.length_append, List.length_singleton]
    split
    · simp [BitVec.toNat_add, count]
      omega
    · omega
  · intro back below
    simp only [List.length_append, List.length_singleton, Nat.add_sub_cancel] at below ⊢
    rcases Nat.eq_zero_or_pos back with rfl | later
    · simp [Ring.push, index, List.getElem?_set_self slotInside]
    · have earlier := recent (back - 1) (by omega)
      rw [show history.length - 1 - (back - 1) = history.length - back by omega] at earlier
      simp only [Ring.push, index]
      rw [List.getElem?_set_ne (slot_ne (by omega) later (by omega)).symm, earlier,
        List.getElem?_append_left (by omega)]

theorem Holds.shape (positive : 0 < capacity) (holds : ring.Holds capacity history) :
    ring.index.toNat < capacity ∧ ring.count.toNat ≤ capacity ∧
      (ring.count.toNat < capacity → ring.index.toNat = ring.count.toNat) := by
  rw [holds.index, holds.count]
  refine ⟨Nat.mod_lt _ positive, min_le_right _ _, fun short => ?_⟩
  rw [min_eq_left (by omega)] at short ⊢
  exact Nat.mod_eq_of_lt (by omega)

theorem Holds.behind (holds : ring.Holds capacity history) {back : Nat}
    (within : back < min history.length capacity) :
    ring.behind capacity back = history.reverse[back]? := by
  rw [Ring.behind, holds.index, behind_slot (by omega), holds.recent back within,
    List.getElem?_reverse (by omega)]

theorem Holds.latest (positive : 0 < capacity) (holds : ring.Holds capacity history) :
    ring.latest capacity = history.getLast? := by
  unfold Ring.latest
  rw [holds.count, List.getLast?_eq_head?_reverse, List.head?_eq_getElem?]
  split
  · next written => exact holds.behind written
  · next empty => simp [show history = [] by simpa [positive] using empty]

/-- The print loop lists the last `min n capacity` entries, oldest first. -/
theorem Holds.chronological (holds : ring.Holds capacity history) :
    ring.chronological capacity =
      (history.drop (history.length - min history.length capacity)).map some := by
  apply List.ext_getElem?
  intro i
  simp only [Ring.chronological, List.getElem?_map, List.getElem?_drop]
  rw [holds.count]
  by_cases inside : i < min history.length capacity
  · have present : history.length - min history.length capacity + i < history.length := by
      omega
    have slot := holds.recent (min history.length capacity - 1 - i) (by omega)
    rw [show history.length - 1 - (min history.length capacity - 1 - i) =
      history.length - min history.length capacity + i by omega,
      List.getElem?_eq_getElem present] at slot
    have sameSlot : ((if min history.length capacity < capacity then 0 else ring.index.toNat) +
        i) % capacity = (history.length - min history.length capacity + i) % capacity := by
      rw [holds.index]
      split
      · rw [show history.length - min history.length capacity = 0 by omega]
      · rw [min_eq_right (by omega), Nat.mod_add_mod,
          ← Nat.add_mod_right (history.length - capacity + i),
          show history.length - capacity + i + capacity = history.length + i by omega]
    rw [List.getElem?_range inside, Option.map_some', sameSlot, slot,
      List.getElem?_eq_getElem present]
    rfl
  · rw [List.getElem?_eq_none (by simp only [List.length_range]; omega),
      List.getElem?_eq_none (by omega)]
    rfl

theorem Holds.summary (holds : ring.Holds capacity history) (roomy : 3 ≤ capacity) :
    ring.summary capacity = (history.reverse.take 3).map some := by
  have whole : (List.range (min 3 ring.count.toNat)).takeWhile (· < ring.count.toNat) =
      List.range (min 3 ring.count.toNat) :=
    List.takeWhile_eq_self_iff.mpr fun i member => by
      simp only [List.mem_range] at member
      simp only [decide_eq_true_eq]
      omega
  rw [Ring.summary, whole]
  apply List.ext_getElem?
  intro i
  rw [List.getElem?_map, List.getElem?_map, holds.count]
  by_cases inside : i < min 3 (min history.length capacity)
  · have present : i < history.reverse.length := by
      rw [List.length_reverse]
      omega
    rw [List.getElem?_range inside, Option.map_some', holds.behind (by omega),
      List.getElem?_take_of_lt (by omega), List.getElem?_eq_getElem present]
    rfl
  · rw [List.getElem?_eq_none (by simp only [List.length_range]; omega),
      List.getElem?_eq_none (by simp only [List.length_take, List.length_reverse]; omega)]
    rfl

end Holds

end Ring

end Mousetrap.Debug
