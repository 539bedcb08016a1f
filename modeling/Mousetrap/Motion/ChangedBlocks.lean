import Mousetrap.Motion.BlockLoop
import Mathlib.Data.Finset.Lattice.Fold
import Mathlib.Data.Finset.Prod
import Mathlib.Data.List.Nodup
import Mathlib.Data.Nat.Lattice

/-!
# What the block loop finds

`scanGrid` visits the grid in row order and widens four corners at every
changed block.  Its result is a function of the set of changed blocks alone:
the counter is the number of changed blocks and, when there is one, the corners
are the least and greatest block coordinates in that set.  This is the
min/max tracking invariant of the loop, with `minX` starting at `blocksX` and
`maxX` at `0`.
-/

namespace Mousetrap.Motion

/-- The grid in the order the two block loops visit it. -/
def blockOrder (blocksX blocksY : Nat) : List (Nat × Nat) :=
  (List.range blocksY).flatMap fun bY => (List.range blocksX).map fun bx => (bx, bY)

/-- The changed blocks `S` of a `blocksX × blocksY` grid. -/
def changedSet (changed : Nat → Nat → Bool) (blocksX blocksY : Nat) : Finset (Nat × Nat) :=
  (Finset.range blocksX ×ˢ Finset.range blocksY).filter fun block => changed block.1 block.2

section Order

variable {blocksX blocksY : Nat}

theorem mem_blockOrder {block : Nat × Nat} :
    block ∈ blockOrder blocksX blocksY ↔ block.1 < blocksX ∧ block.2 < blocksY := by
  obtain ⟨bx, bY⟩ := block
  simp only [blockOrder, List.mem_flatMap, List.mem_range, List.mem_map, Prod.mk.injEq]
  constructor
  · rintro ⟨_, row, _, column, rfl, rfl⟩
    exact ⟨column, row⟩
  · rintro ⟨column, row⟩
    exact ⟨bY, row, bx, column, rfl, rfl⟩

theorem nodup_blockOrder : (blockOrder blocksX blocksY).Nodup := by
  refine List.nodup_flatMap.mpr ⟨fun bY _ => ?_, ?_⟩
  · exact (List.nodup_range blocksX).map fun _ _ equal => (Prod.mk.inj equal).1
  · refine (List.pairwise_lt_range blocksY).imp fun {upper lower} less => ?_
    simp only [Function.onFun, List.disjoint_left, List.mem_map]
    rintro _ ⟨_, _, rfl⟩ ⟨_, _, same⟩
    exact absurd (Prod.mk.inj same).2 (Nat.ne_of_gt less)

theorem toFinset_changedOrder (changed : Nat → Nat → Bool) :
    ((blockOrder blocksX blocksY).filter fun block => changed block.1 block.2).toFinset =
      changedSet changed blocksX blocksY := by
  ext block
  simp [changedSet, mem_blockOrder]

end Order

theorem foldl_filter_eq {α β : Type} (keep : α → Bool) (step : β → α → β)
    (items : List α) (init : β) :
    (items.filter keep).foldl step init =
      items.foldl (fun acc item => if keep item then step acc item else acc) init := by
  induction items generalizing init with
  | nil => rfl
  | cons item items induction =>
      by_cases kept : keep item <;> simp [List.filter_cons, kept, induction]

theorem scanGrid_eq_foldl (changed : Nat → Nat → Bool) (blocksX blocksY : Nat) :
    scanGrid changed blocksX blocksY =
      ((blockOrder blocksX blocksY).filter fun block => changed block.1 block.2).foldl
        (fun scan block => scan.record block.1 block.2) ⟨0, blocksX, blocksY, 0, 0⟩ := by
  rw [foldl_filter_eq, blockOrder, List.flatMap, List.foldl_flatten, List.foldl_map]
  simp only [List.foldl_map]
  rfl

/-! ## Folding the corners -/

section Corners

variable {α : Type} (coordinate : α → Nat)

theorem foldl_lower_spec (items : List α) (start : Nat) :
    let lowest := items.foldl
      (fun low item => if coordinate item < low then coordinate item else low) start
    lowest ≤ start ∧ (∀ item ∈ items, lowest ≤ coordinate item) ∧
      (lowest = start ∨ ∃ item ∈ items, lowest = coordinate item) := by
  induction items generalizing start with
  | nil => simp
  | cons item items induction =>
      obtain ⟨belowStart, belowAll, reached⟩ := induction
        (if coordinate item < start then coordinate item else start)
      simp only [List.foldl_cons, List.mem_cons, forall_eq_or_imp, exists_eq_or_imp]
      by_cases smaller : coordinate item < start
      · simp only [smaller, if_true] at belowStart belowAll reached ⊢
        exact ⟨by omega, ⟨belowStart, belowAll⟩, by tauto⟩
      · simp only [smaller, if_false] at belowStart belowAll reached ⊢
        exact ⟨belowStart, ⟨by omega, belowAll⟩, by tauto⟩

theorem foldl_upper_spec (items : List α) (start : Nat) :
    let highest := items.foldl
      (fun high item => if coordinate item > high then coordinate item else high) start
    start ≤ highest ∧ (∀ item ∈ items, coordinate item ≤ highest) ∧
      (highest = start ∨ ∃ item ∈ items, highest = coordinate item) := by
  induction items generalizing start with
  | nil => simp
  | cons item items induction =>
      obtain ⟨aboveStart, aboveAll, reached⟩ := induction
        (if coordinate item > start then coordinate item else start)
      simp only [List.foldl_cons, List.mem_cons, forall_eq_or_imp, exists_eq_or_imp]
      by_cases larger : coordinate item > start
      · simp only [larger, if_true] at aboveStart aboveAll reached ⊢
        exact ⟨by omega, ⟨aboveStart, aboveAll⟩, by tauto⟩
      · simp only [larger, if_false] at aboveStart aboveAll reached ⊢
        exact ⟨aboveStart, ⟨by omega, aboveAll⟩, by tauto⟩

variable [DecidableEq α]

theorem foldl_lower_eq_inf' {items : List α} {start : Nat}
    (below : ∀ item ∈ items, coordinate item < start) (nonempty : items.toFinset.Nonempty) :
    items.foldl (fun low item => if coordinate item < low then coordinate item else low) start =
      items.toFinset.inf' nonempty coordinate := by
  obtain ⟨_, belowAll, reached⟩ := foldl_lower_spec coordinate items start
  obtain ⟨witness, witnessMember⟩ := nonempty
  rw [List.mem_toFinset] at witnessMember
  refine Nat.le_antisymm
    (Finset.le_inf' _ _ fun item member => belowAll item (List.mem_toFinset.mp member)) ?_
  rcases reached with atStart | ⟨item, member, atItem⟩
  · have := belowAll witness witnessMember
    have := below witness witnessMember
    omega
  · exact atItem ▸ Finset.inf'_le _ (List.mem_toFinset.mpr member)

theorem foldl_upper_eq_sup' {items : List α} (nonempty : items.toFinset.Nonempty) :
    items.foldl (fun high item => if coordinate item > high then coordinate item else high) 0 =
      items.toFinset.sup' nonempty coordinate := by
  obtain ⟨_, aboveAll, reached⟩ := foldl_upper_spec coordinate items 0
  obtain ⟨witness, witnessMember⟩ := nonempty
  rw [List.mem_toFinset] at witnessMember
  refine Nat.le_antisymm ?_
    (Finset.sup'_le _ _ fun item member => aboveAll item (List.mem_toFinset.mp member))
  rcases reached with atStart | ⟨item, member, atItem⟩
  · have := aboveAll witness witnessMember
    have := Finset.le_sup' coordinate (List.mem_toFinset.mpr witnessMember)
    omega
  · exact atItem ▸ Finset.le_sup' _ (List.mem_toFinset.mpr member)

end Corners

/-! ## The loop's result -/

section Record

variable (items : List (Nat × Nat)) (init : BlockScan)

theorem foldl_record_changedBlocks (small : init.changedBlocks < 2 ^ 32) :
    (items.foldl (fun scan block => scan.record block.1 block.2) init).changedBlocks =
      (init.changedBlocks + items.length) % 2 ^ 32 := by
  induction items generalizing init with
  | nil => exact (Nat.mod_eq_of_lt small).symm
  | cons block items induction =>
      rw [List.foldl_cons, induction _ (Nat.mod_lt _ (by decide))]
      simp only [BlockScan.record, Nat.mod_add_mod, List.length_cons]
      rw [Nat.add_assoc, Nat.add_comm 1]

theorem foldl_record_minX :
    (items.foldl (fun scan block => scan.record block.1 block.2) init).minX =
      items.foldl (fun low block => if block.1 < low then block.1 else low) init.minX :=
  (List.foldl_hom BlockScan.minX _ _ items init fun _ _ => rfl).symm

theorem foldl_record_minY :
    (items.foldl (fun scan block => scan.record block.1 block.2) init).minY =
      items.foldl (fun low block => if block.2 < low then block.2 else low) init.minY :=
  (List.foldl_hom BlockScan.minY _ _ items init fun _ _ => rfl).symm

theorem foldl_record_maxX :
    (items.foldl (fun scan block => scan.record block.1 block.2) init).maxX =
      items.foldl (fun high block => if block.1 > high then block.1 else high) init.maxX :=
  (List.foldl_hom BlockScan.maxX _ _ items init fun _ _ => rfl).symm

theorem foldl_record_maxY :
    (items.foldl (fun scan block => scan.record block.1 block.2) init).maxY =
      items.foldl (fun high block => if block.2 > high then block.2 else high) init.maxY :=
  (List.foldl_hom BlockScan.maxY _ _ items init fun _ _ => rfl).symm

end Record

section Grid

variable (changed : Nat → Nat → Bool) (blocksX blocksY : Nat)

theorem scanGrid_changedBlocks :
    (scanGrid changed blocksX blocksY).changedBlocks =
      (changedSet changed blocksX blocksY).card % 2 ^ 32 := by
  rw [scanGrid_eq_foldl, foldl_record_changedBlocks _ _ (Nat.two_pow_pos 32), Nat.zero_add,
    ← toFinset_changedOrder changed,
    List.toFinset_card_of_nodup (nodup_blockOrder.filter _)]

/-- With a changed block, the four corners of the block loop are the least and
greatest coordinates of the changed blocks. -/
theorem scanGrid_corners (nonempty : (changedSet changed blocksX blocksY).Nonempty) :
    let scan := scanGrid changed blocksX blocksY
    let changedBlocks := changedSet changed blocksX blocksY
    scan.minX = changedBlocks.inf' nonempty Prod.fst ∧
      scan.minY = changedBlocks.inf' nonempty Prod.snd ∧
      scan.maxX = changedBlocks.sup' nonempty Prod.fst ∧
      scan.maxY = changedBlocks.sup' nonempty Prod.snd := by
  have inGrid : ∀ block ∈ (blockOrder blocksX blocksY).filter
      (fun block => changed block.1 block.2), block.1 < blocksX ∧ block.2 < blocksY :=
    fun _ member => mem_blockOrder.mp (List.mem_filter.mp member).1
  simp only [scanGrid_eq_foldl, foldl_record_minX, foldl_record_minY, foldl_record_maxX,
    foldl_record_maxY]
  simp only [← toFinset_changedOrder changed] at nonempty ⊢
  exact ⟨foldl_lower_eq_inf' _ (fun block member => (inGrid block member).1) nonempty,
    foldl_lower_eq_inf' _ (fun block member => (inGrid block member).2) nonempty,
    foldl_upper_eq_sup' _ nonempty, foldl_upper_eq_sup' _ nonempty⟩

end Grid

end Mousetrap.Motion
