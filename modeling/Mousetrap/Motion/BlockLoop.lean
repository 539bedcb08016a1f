import Mousetrap.Motion.Types
import Mathlib.Algebra.Order.BigOperators.Group.Finset
import Mathlib.Tactic.Ring

/-!
# The block loop of `MotionDetector::detect`

Lines 110–142 of `motion_detect.h`: two loops over the block grid, and inside
each block two loops over its pixels.  The machine arithmetic is kept as the C
code has it: the pixel index is formed in `int` and stored in a `uint32_t`, the
difference sum is a `uint32_t`, `pixelsInBlock` a `uint16_t` and `avgDiff` a
`uint8_t`.  A read outside a buffer and the division by a zero `pixelsInBlock`
are faults.

When every read is inside both buffers the monadic loops are pure folds; the
lemmas below say so once, and compute the difference sum of a block as the
spec's double sum over its pixels.
-/

namespace Mousetrap.Motion

/-- `buf[idx]`, which the C code reads without a bound check. -/
def readByte (buf : List (BitVec 8)) (idx : Nat) : Except MotionFault (BitVec 8) :=
  match buf[idx]? with
  | some byte => .ok byte
  | none => .error .outOfBounds

/-- `uint32_t idx = (by * config.blockSize + py) * width + (bx * config.blockSize + px);`
The product is formed in 32-bit `int` and converted to `uint32_t`, which on the
ESP32 leaves it equal to the exact value modulo `2 ^ 32`. -/
def pixelIndex (width blockSize bx bY px py : Nat) : Nat :=
  ((bY * blockSize + py) * width + (bx * blockSize + px)) % 2 ^ 32

/-- `abs((int)frame->buf[idx] - (int)prevFrame[idx])`. -/
def pixelDiff (cur prev : BitVec 8) : Nat :=
  ((cur.toNat : Int) - prev.toNat).natAbs

/-- The body of the `px` loop: `blockDiff += diff` in a `uint32_t`. -/
def addPixelDiff (cur prev : List (BitVec 8)) (width blockSize bx bY py : Nat)
    (blockDiff px : Nat) : Except MotionFault Nat := do
  let idx := pixelIndex width blockSize bx bY px py
  let c ← readByte cur idx
  let p ← readByte prev idx
  pure ((blockDiff + pixelDiff c p) % 2 ^ 32)

/-- The two pixel loops of block `(bx, by)`. -/
def blockDiffOf (cur prev : List (BitVec 8)) (width blockSize bx bY : Nat) :
    Except MotionFault Nat :=
  (List.range blockSize).foldlM (fun blockDiff py =>
    (List.range blockSize).foldlM (addPixelDiff cur prev width blockSize bx bY py)
      blockDiff) 0

/-- The accumulators of the block loop: `result.changedBlocks` and the corners
`minX`, `minY`, `maxX`, `maxY` of the changed blocks. -/
structure BlockScan where
  changedBlocks : Nat
  minX : Nat
  minY : Nat
  maxX : Nat
  maxY : Nat
  deriving DecidableEq, Repr

/-- Lines 135–139: count a changed block and widen the corners to it. -/
def BlockScan.record (scan : BlockScan) (bx bY : Nat) : BlockScan where
  changedBlocks := (scan.changedBlocks + 1) % 2 ^ 32
  minX := if bx < scan.minX then bx else scan.minX
  minY := if bY < scan.minY then bY else scan.minY
  maxX := if bx > scan.maxX then bx else scan.maxX
  maxY := if bY > scan.maxY then bY else scan.maxY

/-- `uint8_t avgDiff = blockDiff / pixelsInBlock;` with
`uint16_t pixelsInBlock = config.blockSize * config.blockSize;`. -/
def avgDiffOf (blockSize blockDiff : Nat) : Except MotionFault Nat :=
  let pixelsInBlock := blockSize * blockSize % 2 ^ 16
  if pixelsInBlock = 0 then .error .divByZero
  else .ok (blockDiff / pixelsInBlock % 2 ^ 8)

/-- One pass of the `bx` loop body. -/
def scanBlock (config : MotionConfig) (cur prev : List (BitVec 8)) (width : Nat)
    (scan : BlockScan) (bY bx : Nat) : Except MotionFault BlockScan := do
  let blockSize := config.blockSize.toNat
  let blockDiff ← blockDiffOf cur prev width blockSize bx bY
  let avgDiff ← avgDiffOf blockSize blockDiff
  if avgDiff > config.threshold.toNat then
    pure (scan.record bx bY)
  else
    pure scan

/-- Lines 115–142: `minX = blocksX, minY = blocksY, maxX = maxY = 0`, then the
grid in row order. -/
def scanBlocks (config : MotionConfig) (cur prev : List (BitVec 8))
    (width blocksX blocksY : Nat) : Except MotionFault BlockScan :=
  (List.range blocksY).foldlM (fun scan bY =>
    (List.range blocksX).foldlM (fun scan bx =>
      scanBlock config cur prev width scan bY bx) scan)
    ⟨0, blocksX, blocksY, 0, 0⟩

/-! ## Fault-free loops are folds -/

@[simp] theorem ok_bind {ε α β : Type} (value : α) (rest : α → Except ε β) :
    (Except.ok value >>= rest) = rest value := rfl

@[simp] theorem error_bind {ε α β : Type} (fault : ε) (rest : α → Except ε β) :
    (Except.error fault >>= rest) = Except.error fault := rfl

theorem bind_eq_ok {ε α β : Type} {first : Except ε α} {rest : α → Except ε β}
    {value : β} (bound : (first >>= rest) = .ok value) :
    ∃ middle, first = .ok middle ∧ rest middle = .ok value := by
  cases first with
  | error fault => cases bound
  | ok middle => exact ⟨middle, rfl, bound⟩

/-- What every step that returns keeps, a loop that returns keeps. -/
theorem foldlM_eq_ok_invariant {α β ε : Type} {f : β → α → Except ε β} (holds : β → Prop)
    (step : ∀ acc item acc', holds acc → f acc item = .ok acc' → holds acc')
    {items : List α} {init result : β} (start : holds init)
    (looped : items.foldlM f init = .ok result) : holds result := by
  induction items generalizing init with
  | nil => cases looped; exact start
  | cons item items induction =>
      obtain ⟨acc, stepped, rest⟩ := bind_eq_ok looped
      exact induction (step init item acc start stepped) rest

theorem foldlM_eq_ok_foldl {α β ε : Type} {f : β → α → Except ε β}
    {g : β → α → β} {items : List α}
    (step : ∀ acc item, item ∈ items → f acc item = .ok (g acc item))
    (init : β) :
    items.foldlM f init = .ok (items.foldl g init) := by
  induction items generalizing init with
  | nil => rfl
  | cons item items induction =>
      rw [List.foldlM_cons, step init item (List.mem_cons_self item items)]
      exact induction
        (fun acc later member => step acc later (List.mem_cons_of_mem item member)) _

theorem scanBlocks_changedBlocks_lt {config : MotionConfig} {cur prev : List (BitVec 8)}
    {width blocksX blocksY : Nat} {scan : BlockScan}
    (scanned : scanBlocks config cur prev width blocksX blocksY = .ok scan) :
    scan.changedBlocks < 2 ^ 32 := by
  have block : ∀ acc bY bx acc', acc.changedBlocks < 2 ^ 32 →
      scanBlock config cur prev width acc bY bx = .ok acc' → acc'.changedBlocks < 2 ^ 32 := by
    intro acc bY bx acc' small stepped
    obtain ⟨_, -, stepped⟩ := bind_eq_ok stepped
    obtain ⟨_, -, stepped⟩ := bind_eq_ok stepped
    split at stepped <;> cases stepped
    · exact Nat.mod_lt _ (by decide)
    · exact small
  exact foldlM_eq_ok_invariant (fun scan : BlockScan => scan.changedBlocks < 2 ^ 32)
    (fun acc bY acc' small row => foldlM_eq_ok_invariant _ (fun acc bx => block acc bY bx)
      small row) (show 0 < 2 ^ 32 by decide) scanned

theorem readByte_of_lt {buf : List (BitVec 8)} {idx : Nat} (inside : idx < buf.length) :
    readByte buf idx = .ok (buf.getD idx 0) := by
  simp [readByte, inside]

theorem foldl_add_mod {α : Type} (weight : α → Nat) (modulus base : Nat)
    (items : List α) :
    items.foldl (fun acc item => (acc + weight item) % modulus) (base % modulus) =
      (base + (items.map weight).sum) % modulus := by
  induction items generalizing base with
  | nil => simp
  | cons item items induction =>
      simp only [List.foldl_cons, Nat.mod_add_mod, List.map_cons, List.sum_cons]
      rw [induction, Nat.add_assoc]

theorem sum_map_range (weight : Nat → Nat) (count : Nat) :
    ((List.range count).map weight).sum = ∑ index in Finset.range count, weight index := by
  induction count with
  | zero => rfl
  | succ count induction =>
      rw [List.range_succ, List.map_append, List.sum_append, induction,
        Finset.sum_range_succ]
      simp

theorem foldl_foldl_add_mod {α β : Type} (weight : α → β → Nat) (modulus base : Nat)
    (outer : List α) (inner : List β) :
    outer.foldl (fun acc a => inner.foldl (fun acc b => (acc + weight a b) % modulus) acc)
        (base % modulus) =
      (base + (outer.map fun a => (inner.map (weight a)).sum).sum) % modulus := by
  induction outer generalizing base with
  | nil => simp
  | cons a outer induction =>
      simp only [List.foldl_cons, foldl_add_mod, List.map_cons, List.sum_cons]
      rw [induction, Nat.add_assoc]

/-! ## The difference sum of a block -/

/-- The spec's difference of block `(bx, by)`: the sum of `|C[i] - P[i]|` over its
`blockSize × blockSize` pixels, at the exact row-major index. -/
def blockSum (cur prev : List (BitVec 8)) (width blockSize bx bY : Nat) : Nat :=
  ∑ py in Finset.range blockSize, ∑ px in Finset.range blockSize,
    pixelDiff (cur.getD ((bY * blockSize + py) * width + (bx * blockSize + px)) 0)
      (prev.getD ((bY * blockSize + py) * width + (bx * blockSize + px)) 0)

section Reads

variable {cur prev : List (BitVec 8)} {width blockSize bx bY bound : Nat}

/-- The reads of one block are inside both buffers and below `2 ^ 32`. -/
def ReadsInside (cur prev : List (BitVec 8)) (width blockSize bx bY bound : Nat) : Prop :=
  bound ≤ cur.length ∧ bound ≤ prev.length ∧ bound ≤ 2 ^ 32 ∧
    ∀ px py, px < blockSize → py < blockSize →
      (bY * blockSize + py) * width + (bx * blockSize + px) < bound

theorem addPixelDiff_of_inside (inside : ReadsInside cur prev width blockSize bx bY bound)
    {py px : Nat} (rowInside : py < blockSize) (columnInside : px < blockSize)
    (blockDiff : Nat) :
    addPixelDiff cur prev width blockSize bx bY py blockDiff px =
      .ok ((blockDiff +
        pixelDiff (cur.getD ((bY * blockSize + py) * width + (bx * blockSize + px)) 0)
          (prev.getD ((bY * blockSize + py) * width + (bx * blockSize + px)) 0)) % 2 ^ 32) := by
  obtain ⟨curLong, prevLong, small, below⟩ := inside
  have index := below px py columnInside rowInside
  have exact : pixelIndex width blockSize bx bY px py =
      (bY * blockSize + py) * width + (bx * blockSize + px) :=
    Nat.mod_eq_of_lt (by omega)
  simp only [addPixelDiff, exact, readByte_of_lt (Nat.lt_of_lt_of_le index curLong),
    readByte_of_lt (Nat.lt_of_lt_of_le index prevLong)]
  rfl

theorem blockDiffOf_eq_blockSum (inside : ReadsInside cur prev width blockSize bx bY bound) :
    blockDiffOf cur prev width blockSize bx bY =
      .ok (blockSum cur prev width blockSize bx bY % 2 ^ 32) := by
  unfold blockDiffOf
  rw [foldlM_eq_ok_foldl (fun acc py rowMember =>
    foldlM_eq_ok_foldl (fun acc px columnMember =>
      addPixelDiff_of_inside inside (List.mem_range.mp rowMember)
        (List.mem_range.mp columnMember) acc) acc)]
  have folded := foldl_foldl_add_mod (fun py px =>
      pixelDiff (cur.getD ((bY * blockSize + py) * width + (bx * blockSize + px)) 0)
        (prev.getD ((bY * blockSize + py) * width + (bx * blockSize + px)) 0))
    (2 ^ 32) 0 (List.range blockSize) (List.range blockSize)
  rw [Nat.zero_mod, Nat.zero_add] at folded
  rw [folded, blockSum]
  simp only [sum_map_range]

end Reads

theorem pixelDiff_le (cur prev : BitVec 8) : pixelDiff cur prev ≤ 255 := by
  have curBound := cur.isLt
  have prevBound := prev.isLt
  simp only [pixelDiff]
  omega

theorem blockSum_le (cur prev : List (BitVec 8)) (width blockSize bx bY : Nat) :
    blockSum cur prev width blockSize bx bY ≤ 255 * (blockSize * blockSize) := by
  calc blockSum cur prev width blockSize bx bY
      ≤ ∑ _py in Finset.range blockSize, ∑ _px in Finset.range blockSize, 255 :=
        Finset.sum_le_sum fun _ _ => Finset.sum_le_sum fun _ _ => pixelDiff_le _ _
    _ = 255 * (blockSize * blockSize) := by simp; ring

/-! ## One block, and the grid -/

theorem avgDiffOf_of_le {blockSize blockDiff : Nat} (positive : 0 < blockSize)
    (small : blockSize ≤ 255) (bounded : blockDiff ≤ 255 * (blockSize * blockSize)) :
    avgDiffOf blockSize blockDiff = .ok (blockDiff / (blockSize * blockSize)) := by
  have square : blockSize * blockSize ≤ 255 * 255 := Nat.mul_le_mul small small
  have squarePositive : 0 < blockSize * blockSize := Nat.mul_pos positive positive
  have mean : blockDiff / (blockSize * blockSize) ≤ 255 :=
    Nat.div_le_of_le_mul (by rw [Nat.mul_comm]; exact bounded)
  have exact : blockSize * blockSize % 2 ^ 16 = blockSize * blockSize :=
    Nat.mod_eq_of_lt (by omega)
  simp only [avgDiffOf, exact, Nat.pos_iff_ne_zero.mp squarePositive, if_false,
    Nat.mod_eq_of_lt (show blockDiff / (blockSize * blockSize) < 2 ^ 8 by omega)]

theorem blockSum_mod (cur prev : List (BitVec 8)) {width blockSize bx bY : Nat}
    (small : blockSize ≤ 255) :
    blockSum cur prev width blockSize bx bY % 2 ^ 32 = blockSum cur prev width blockSize bx bY := by
  have square : blockSize * blockSize ≤ 255 * 255 := Nat.mul_le_mul small small
  have bounded := blockSum_le cur prev width blockSize bx bY
  exact Nat.mod_eq_of_lt (by omega)

/-- Whether block `(bx, by)` changed: its mean difference exceeds `threshold`. -/
def blockChanged (config : MotionConfig) (cur prev : List (BitVec 8)) (width bx bY : Nat) :
    Bool :=
  blockSum cur prev width config.blockSize.toNat bx bY /
      (config.blockSize.toNat * config.blockSize.toNat) > config.threshold.toNat

/-- The block loop once no read can fault. -/
def scanGrid (changed : Nat → Nat → Bool) (blocksX blocksY : Nat) : BlockScan :=
  (List.range blocksY).foldl (fun scan bY =>
    (List.range blocksX).foldl (fun scan bx =>
      if changed bx bY then scan.record bx bY else scan) scan)
    ⟨0, blocksX, blocksY, 0, 0⟩

section Grid

variable {config : MotionConfig} {cur prev : List (BitVec 8)} {width bound : Nat}

theorem scanBlock_of_inside (positive : 0 < config.blockSize.toNat)
    (small : config.blockSize.toNat ≤ 255) {bx bY : Nat}
    (inside : ReadsInside cur prev width config.blockSize.toNat bx bY bound) (scan : BlockScan) :
    scanBlock config cur prev width scan bY bx =
      .ok (if blockChanged config cur prev width bx bY then scan.record bx bY else scan) := by
  simp only [scanBlock, blockDiffOf_eq_blockSum inside, blockSum_mod cur prev small, ok_bind,
    avgDiffOf_of_le positive small (blockSum_le _ _ _ _ _ _), blockChanged, decide_eq_true_eq]
  split <;> rfl

theorem scanBlocks_of_inside (positive : 0 < config.blockSize.toNat)
    (small : config.blockSize.toNat ≤ 255) {blocksX blocksY : Nat}
    (inside : ∀ bx bY, bx < blocksX → bY < blocksY →
      ReadsInside cur prev width config.blockSize.toNat bx bY bound) :
    scanBlocks config cur prev width blocksX blocksY =
      .ok (scanGrid (blockChanged config cur prev width) blocksX blocksY) :=
  foldlM_eq_ok_foldl (fun scan bY rowMember =>
    foldlM_eq_ok_foldl (fun scan bx columnMember =>
      scanBlock_of_inside positive small
        (inside bx bY (List.mem_range.mp columnMember) (List.mem_range.mp rowMember)) scan)
      scan) _

end Grid

theorem blockEnd_le {coordinate extent blockSize : Nat}
    (inGrid : coordinate < extent / blockSize) : (coordinate + 1) * blockSize ≤ extent :=
  (Nat.mul_le_mul_right blockSize inGrid).trans (Nat.div_mul_le_self extent blockSize)

theorem blockPixel_lt {width height blockSize bx bY px py : Nat}
    (column : bx < width / blockSize) (row : bY < height / blockSize)
    (columnInside : px < blockSize) (rowInside : py < blockSize) :
    (bY * blockSize + py) * width + (bx * blockSize + px) < width * height := by
  have across : bx * blockSize + px < width := by
    have := blockEnd_le column
    rw [Nat.succ_mul] at this
    omega
  have down : bY * blockSize + py + 1 ≤ height := by
    have := blockEnd_le row
    rw [Nat.succ_mul] at this
    omega
  calc (bY * blockSize + py) * width + (bx * blockSize + px)
      < (bY * blockSize + py) * width + width := Nat.add_lt_add_left across _
    _ = (bY * blockSize + py + 1) * width := (Nat.succ_mul _ _).symm
    _ ≤ height * width := Nat.mul_le_mul_right width down
    _ = width * height := Nat.mul_comm _ _

theorem frameArea_lt (width height : BitVec 16) : width.toNat * height.toNat < 2 ^ 32 :=
  calc width.toNat * height.toNat < 2 ^ 16 * 2 ^ 16 :=
        Nat.mul_lt_mul'' width.isLt height.isLt
    _ = 2 ^ 32 := by norm_num

theorem readsInside_of_grid {cur prev : List (BitVec 8)} {width height : BitVec 16}
    {blockSize bx bY : Nat} (curLong : width.toNat * height.toNat ≤ cur.length)
    (prevLong : width.toNat * height.toNat ≤ prev.length)
    (column : bx < width.toNat / blockSize) (row : bY < height.toNat / blockSize) :
    ReadsInside cur prev width.toNat blockSize bx bY (width.toNat * height.toNat) :=
  ⟨curLong, prevLong, Nat.le_of_lt (frameArea_lt width height),
    fun _ _ columnInside rowInside => blockPixel_lt column row columnInside rowInside⟩

end Mousetrap.Motion
