import Mousetrap.Motion.JpegSize
import Mathlib.Algebra.Order.BigOperators.Group.List
import Mathlib.Data.List.Rotate

/-!
# The size history of the JPEG path

`detectFromJpegSize` keeps the lengths of the frames it has seen in a five-slot
circular array whose cursor points at the oldest slot.  Read from the cursor, the
array is the last five lengths in order of arrival, with zeros in the slots not yet
written.  This module states that reading as an invariant of every sequence of calls
from the statics the program loads, and from it derives the average and the verdict of
each call from the lengths alone.
-/

namespace Mousetrap.Motion

/-! ## The averaging loop -/

private theorem foldl_sumNonZero (history : List (BitVec 32)) (acc : BitVec 32 × Nat) :
    history.foldl (fun acc size => if 0 < size.toNat then (acc.1 + size, acc.2 + 1) else acc)
        acc =
      (acc.1 + BitVec.ofNat 32 (history.map BitVec.toNat).sum,
        acc.2 + history.countP fun size => 0 < size.toNat) := by
  induction history generalizing acc with
  | nil => simp
  | cons size rest ih =>
      rw [List.foldl_cons, ih]
      by_cases counted : 0 < size.toNat
      · simp [counted, BitVec.ofNat_add, BitVec.add_assoc, Nat.add_assoc, Nat.add_comm 1]
      · have zero : size = 0 := BitVec.eq_of_toNat_eq (by simpa using counted)
        simp [zero]

theorem sumNonZero_eq (history : List (BitVec 32)) :
    sumNonZero history = (BitVec.ofNat 32 (history.map BitVec.toNat).sum,
      history.countP fun size => 0 < size.toNat) := by
  simpa using foldl_sumNonZero history (0, 0)

theorem sumNonZero_perm {left right : List (BitVec 32)} (perm : left.Perm right) :
    sumNonZero left = sumNonZero right := by
  rw [sumNonZero_eq, sumNonZero_eq, (perm.map _).sum_eq, perm.countP_eq]

/-! ## The ring read from its cursor -/

theorem rotate_set_succ {ring : List (BitVec 32)} {i : Nat} (inside : i < ring.length)
    (len : BitVec 32) : (ring.set i len).rotate (i + 1) = (ring.rotate i).tail ++ [len] := by
  obtain ⟨before, after, split, rfl, written⟩ := @List.exists_of_set _ i len ring inside
  generalize ring[before.length] = old at split
  subst split
  have regroup : before ++ len :: after = (before ++ [len]) ++ after := by simp
  rw [written, regroup, show before.length + 1 = (before ++ [len]).length by simp,
    List.rotate_append_length_eq, List.rotate_append_length_eq]
  simp

theorem JpegStatics.store_rotate (statics : JpegStatics) (len : BitVec 32) :
    (statics.store len).jpegSizeHistory.rotate (statics.store len).historyIdx =
      (statics.jpegSizeHistory.rotate statics.historyIdx).tail ++ [len] := by
  have length : (statics.jpegSizeHistory.set statics.historyIdx len).length = 5 := by
    rw [List.length_set, statics.length_jpegSizeHistory]
  calc (statics.store len).jpegSizeHistory.rotate (statics.store len).historyIdx
      = (statics.jpegSizeHistory.set statics.historyIdx len).rotate (statics.historyIdx + 1) := by
        have wrapped := List.rotate_mod (statics.jpegSizeHistory.set statics.historyIdx len)
          (statics.historyIdx + 1)
        rwa [length] at wrapped
    _ = (statics.jpegSizeHistory.rotate statics.historyIdx).tail ++ [len] :=
        rotate_set_succ (by rw [statics.length_jpegSizeHistory]; exact statics.historyIdx.isLt) len

/-- The statics after the lengths `lens`, in order, have been seen: the cursor is past
the last of them, the ring read from the cursor is the last `min k 5` of the `k` lengths
after as many zeros as slots never written, and `prevJpegSize` is the last length. -/
structure JpegWindow (statics : JpegStatics) (lens : List (BitVec 32)) : Prop where
  cursor : statics.historyIdx.val = lens.length % 5
  ring : statics.jpegSizeHistory.rotate (lens.length % 5) =
    List.replicate (5 - min lens.length 5) 0 ++ lens.drop (lens.length - 5)
  prev : statics.prevJpegSize = lens.getLastD 0

theorem recent_snoc (lens : List (BitVec 32)) (len : BitVec 32) :
    (List.replicate (5 - min lens.length 5) 0 ++ lens.drop (lens.length - 5)).tail ++ [len] =
      List.replicate (5 - min (lens.length + 1) 5) 0 ++
        (lens ++ [len]).drop (lens.length + 1 - 5) := by
  by_cases full : 5 ≤ lens.length
  · rw [show 5 - min lens.length 5 = 0 by omega, show 5 - min (lens.length + 1) 5 = 0 by omega,
      List.drop_append_of_le_length (by omega),
      show lens.length + 1 - 5 = lens.length - 5 + 1 by omega]
    simp [List.tail_drop]
  · rw [show 5 - min lens.length 5 = 4 - lens.length + 1 by omega,
      show 5 - min (lens.length + 1) 5 = 4 - lens.length by omega,
      show lens.length - 5 = 0 by omega, show lens.length + 1 - 5 = 0 by omega]
    simp [List.replicate_succ]

/-! ## The average the spec describes -/

/-- The floor of the mean of the last `min k 5` of the `k` lengths `lens`. -/
def recentMean (lens : List (BitVec 32)) : Nat :=
  ((lens.drop (lens.length - 5)).map BitVec.toNat).sum / min lens.length 5

/-- The deviation of the last of `lens` from `recentMean`, in percent. -/
def recentDeviation (lens : List (BitVec 32)) : ℚ :=
  |((lens.getLastD 0).toNat : ℚ) - recentMean lens| / recentMean lens * 100

theorem recent_sum_lt {lens : List (BitVec 32)} (fits : ∀ len ∈ lens, 5 * len.toNat < 2 ^ 32) :
    ((lens.drop (lens.length - 5)).map BitVec.toNat).sum < 2 ^ 32 := by
  have bound := List.sum_le_card_nsmul ((lens.drop (lens.length - 5)).map BitVec.toNat)
    858993459 (List.forall_mem_map.mpr fun len member => by
      have := fits len (List.mem_of_mem_drop member)
      omega)
  simp only [List.length_map, List.length_drop] at bound
  change _ ≤ _ * _ at bound
  omega

namespace JpegWindow

variable {statics : JpegStatics} {lens : List (BitVec 32)}

theorem initial : JpegWindow JpegStatics.initial [] :=
  ⟨rfl, rfl, rfl⟩

theorem sumNonZero_history (window : JpegWindow statics lens)
    (positive : ∀ len ∈ lens, 0 < len.toNat) :
    sumNonZero statics.jpegSizeHistory =
      (BitVec.ofNat 32 ((lens.drop (lens.length - 5)).map BitVec.toNat).sum,
        min lens.length 5) := by
  have counted : (lens.drop (lens.length - 5)).countP (fun size => 0 < size.toNat) =
      (lens.drop (lens.length - 5)).length :=
    List.countP_eq_length.mpr fun len mem => by
      simpa using positive len (List.mem_of_mem_drop mem)
  have recent : (lens.drop (lens.length - 5)).length = min lens.length 5 := by
    rw [List.length_drop]
    omega
  rw [sumNonZero_perm (List.rotate_perm _ (lens.length % 5)).symm, window.ring, sumNonZero_eq]
  simp [counted, recent, List.countP_replicate]

theorem averageSize_history (window : JpegWindow statics lens)
    (lengths : ∀ len ∈ lens, 0 < len.toNat ∧ 5 * len.toNat < 2 ^ 32) (started : lens ≠ []) :
    (averageSize statics.jpegSizeHistory).toNat = recentMean lens := by
  have fits := recent_sum_lt fun len mem => (lengths len mem).2
  have nonempty := List.length_pos.mpr started
  simp only [averageSize, window.sumNonZero_history fun len mem => (lengths len mem).1]
  rw [if_pos (by omega), BitVec.toNat_udiv, BitVec.toNat_ofNat, BitVec.toNat_ofNat,
    Nat.mod_eq_of_lt fits, Nat.mod_eq_of_lt (by omega : min lens.length 5 < 2 ^ 32)]
  rfl

theorem store_setPrev (window : JpegWindow statics lens) (len : BitVec 32) :
    JpegWindow ((statics.store len).setPrev len) (lens ++ [len]) := by
  have cursor : ((statics.store len).setPrev len).historyIdx.val =
      (lens ++ [len]).length % 5 := by
    simp only [JpegStatics.setPrev, JpegStatics.store, window.cursor, List.length_append,
      List.length_singleton]
    omega
  refine ⟨cursor, ?_, by simp [JpegStatics.setPrev]⟩
  rw [← cursor]
  change (statics.store len).jpegSizeHistory.rotate (statics.store len).historyIdx = _
  rw [JpegStatics.store_rotate, window.cursor, window.ring, List.length_append,
    List.length_singleton, recent_snoc]

end JpegWindow

/-! ## The call after `k` lengths -/

namespace JpegWindow

variable {d : MotionDetector} {statics : JpegStatics} {lens : List (BitVec 32)}
  {frame : CameraFb} {now : BitVec 32}

theorem detectFromJpegSize_result (window : JpegWindow statics lens)
    (lengths : ∀ len ∈ lens ++ [frame.len], 0 < len.toNat ∧ 5 * len.toNat < 2 ^ 32) :
    (d.detectFromJpegSize statics frame now).1 =
      if 3 ≤ lens.length + 1 then
        if recentDeviation (lens ++ [frame.len]) > 10 then
          jpegVerdict frame (recentDeviation (lens ++ [frame.len]))
        else MotionResult.zero
      else MotionResult.zero := by
  have after := window.store_setPrev frame.len
  have counted : (sumNonZero (statics.store frame.len).jpegSizeHistory).2 =
      min (lens.length + 1) 5 := by
    have loop := after.sumNonZero_history fun len member => (lengths len member).1
    rw [List.length_append, List.length_singleton] at loop
    exact congrArg Prod.snd loop
  rw [MotionDetector.detectFromJpegSize_result, counted]
  by_cases warm : 3 ≤ lens.length + 1
  · obtain ⟨before, last, rfl⟩ : ∃ before last, lens = before ++ [last] := by
      rcases List.eq_nil_or_concat lens with empty | ⟨before, last, split⟩
      · simp [empty] at warm
      · exact ⟨before, last, by rw [split, List.concat_eq_append]⟩
    have stored : (statics.store frame.len).prevJpegSize ≠ 0 := fun zero => by
      have positive := (lengths last (by simp)).1
      rw [show (statics.store frame.len).prevJpegSize = statics.prevJpegSize from rfl,
        window.prev, List.getLastD_concat] at zero
      simp [zero] at positive
    have deviation : sizeDiffOf frame.len
        (averageSize (statics.store frame.len).jpegSizeHistory) =
          recentDeviation (before ++ [last] ++ [frame.len]) := by
      rw [sizeDiffOf, recentDeviation, List.getLastD_concat,
        ← after.averageSize_history lengths (by simp)]
      rfl
    rw [if_neg (not_or.mpr ⟨stored, by omega⟩), if_pos warm, deviation]
  · rw [if_pos (.inr (by omega)), if_neg warm]

end JpegWindow

/-! ## Runs of the JPEG path -/

end Mousetrap.Motion
