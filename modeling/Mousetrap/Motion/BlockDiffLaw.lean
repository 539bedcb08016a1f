import Mousetrap.Motion.Detect

/-!
# The law of the block-difference path

For a block size from 1 to 255 the `uint16_t` product `pixelsInBlock` is the
true block area, so the comparison path of `detect` finds what the spec
describes: `S` is the set of grid blocks whose mean absolute difference exceeds
`threshold`, the counter is `|S|`, and a non-empty `S` yields the smallest
block-aligned rectangle covering it.  The law holds for every frame size,
including sizes that the block size does not divide.

The box's share of the frame and the confidence are computed in `float`, and the
size filter compares the rounded share.  A box of exactly `maxSizePercent` of the
frame can therefore round above the bound and be filtered, as the last theorem of
the first section shows.
-/

namespace Mousetrap.Motion

open Mousetrap.Machine

/-- The changed blocks `S` of comparing `cur` with `prev`, both `width × height`. -/
def changedBlocksOf (config : MotionConfig) (width height : Nat)
    (cur prev : List (BitVec 8)) : Finset (Nat × Nat) :=
  changedSet (blockChanged config cur prev width) (width / config.blockSize.toNat)
    (height / config.blockSize.toNat)

/-- What the spec says of the result of comparing two `width × height` frames whose
changed blocks are `changed`. -/
structure BlockDiffLaw (config : MotionConfig) (width height : Nat)
    (changed : Finset (Nat × Nat)) (result : MotionResult) : Prop where
  totalBlocks : result.totalBlocks.toNat =
    width / config.blockSize.toNat * (height / config.blockSize.toNat)
  changedBlocks : result.changedBlocks.toNat = changed.card
  unchanged : changed = ∅ →
    result.detected = false ∧ result.sizeFiltered = false ∧
      result.x = 0 ∧ result.y = 0 ∧ result.width = 0 ∧ result.height = 0
  box : ∀ nonempty : changed.Nonempty,
    result.x.toNat = config.blockSize.toNat * changed.inf' nonempty Prod.fst ∧
      result.y.toNat = config.blockSize.toNat * changed.inf' nonempty Prod.snd ∧
      result.width.toNat = config.blockSize.toNat *
        (changed.sup' nonempty Prod.fst - changed.inf' nonempty Prod.fst + 1) ∧
      result.height.toNat = config.blockSize.toNat *
        (changed.sup' nonempty Prod.snd - changed.inf' nonempty Prod.snd + 1)
  inside :
    result.x.toNat + result.width.toNat ≤
        config.blockSize.toNat * (width / config.blockSize.toNat) ∧
      result.y.toNat + result.height.toNat ≤
        config.blockSize.toNat * (height / config.blockSize.toNat)
  sizePercent : changed.Nonempty →
    result.sizePercent = round32 (round64 (round32
      (round32 (round32 result.width.toNat * round32 result.height.toNat) /
        round32 (round32 width * round32 height)) * 100))
  detected : changed.Nonempty →
    result.detected = decide (config.minSizePercent ≤ result.sizePercent ∧
      result.sizePercent ≤ config.maxSizePercent)
  sizeFiltered : changed.Nonempty → result.sizeFiltered = !result.detected
  confidence : changed.Nonempty →
    result.confidence = min 1 (round32 (round32 (round32 changed.card /
      round32 (width / config.blockSize.toNat * (height / config.blockSize.toNat) : Nat)) * 5))

theorem sizeFilter_keeps (sizePercent low high : ℚ) :
    (!(if sizePercent < low then true else if sizePercent > high then true else false)) =
      decide (low ≤ sizePercent ∧ sizePercent ≤ high) := by
  by_cases below : sizePercent < low
  · simp [below, not_le.mpr below]
  · by_cases above : sizePercent > high
    · simp [below, above, not_le.mpr above]
    · simp [below, above, not_lt.mp below, not_lt.mp above]

theorem boxSide_toNat {low high blockSize bound : Nat} (ordered : low ≤ high)
    (fits : (high + 1) * blockSize ≤ bound) (small : bound < 2 ^ 16) :
    (BitVec.ofInt 16 (((high : Int) - low + 1) * blockSize)).toNat =
      blockSize * (high - low + 1) := by
  have cast :
      ((high : Int) - low + 1) * blockSize = (((high - low + 1) * blockSize : Nat) : Int) := by
    push_cast [Nat.cast_sub ordered]
    ring
  have shorter : (high - low + 1) * blockSize ≤ (high + 1) * blockSize :=
    Nat.mul_le_mul_right _ (by omega)
  rw [cast, BitVec.ofInt_natCast, BitVec.toNat_ofNat, Nat.mod_eq_of_lt (by omega), Nat.mul_comm]

theorem corner_toNat {corner blockSize bound : Nat} (fits : (corner + 1) * blockSize ≤ bound)
    (small : bound < 2 ^ 16) :
    (BitVec.ofNat 16 (corner * blockSize)).toNat = blockSize * corner := by
  have : corner * blockSize ≤ (corner + 1) * blockSize := Nat.mul_le_mul_right _ (by omega)
  rw [BitVec.toNat_ofNat, Nat.mod_eq_of_lt (by omega), Nat.mul_comm]

theorem changedSet_card_le (changed : Nat → Nat → Bool) (blocksX blocksY : Nat) :
    (changedSet changed blocksX blocksY).card ≤ blocksX * blocksY :=
  (Finset.card_filter_le _ _).trans (by simp)

theorem mem_changedSet {changed : Nat → Nat → Bool} {blocksX blocksY : Nat} {block : Nat × Nat}
    (member : block ∈ changedSet changed blocksX blocksY) :
    block.1 < blocksX ∧ block.2 < blocksY := by
  simp only [changedSet, Finset.mem_filter, Finset.mem_product, Finset.mem_range] at member
  exact member.1

theorem boxAxis_toNat {changed : Finset (Nat × Nat)} (nonempty : changed.Nonempty)
    (coordinate : Nat × Nat → Nat) (extent : BitVec 16) {blockSize : Nat}
    (inGrid : ∀ block ∈ changed, coordinate block < extent.toNat / blockSize) :
    let low := changed.inf' nonempty coordinate
    let high := changed.sup' nonempty coordinate
    (BitVec.ofNat 16 (low * blockSize)).toNat = blockSize * low ∧
      (BitVec.ofInt 16 (((high : Int) - low + 1) * blockSize)).toNat =
        blockSize * (high - low + 1) ∧
      blockSize * low + blockSize * (high - low + 1) ≤
        blockSize * (extent.toNat / blockSize) := by
  intro low high
  have ⟨_, member⟩ := nonempty
  have ordered : low ≤ high :=
    (Finset.inf'_le coordinate member).trans (Finset.le_sup' coordinate member)
  have highInGrid : high < extent.toNat / blockSize := (Finset.sup'_lt_iff nonempty).mpr inGrid
  have fits := blockEnd_le highInGrid
  refine ⟨corner_toNat ((Nat.mul_le_mul_right _ (Nat.succ_le_succ ordered)).trans fits)
    extent.isLt,
    boxSide_toNat ordered fits extent.isLt, ?_⟩
  rw [← Nat.mul_add]
  exact Nat.mul_le_mul_left _ (by omega)

/-- The law for a scan of the grid of a `width × height` frame: whatever the size
filter and the counter decide, `resultOfScan` and the zero result follow the spec. -/
theorem scanResult_law (config : MotionConfig) (width height : BitVec 16)
    (changed : Nat → Nat → Bool) :
    let blockSize := config.blockSize.toNat
    let blocksX := width.toNat / blockSize
    let blocksY := height.toNat / blockSize
    let scan := scanGrid changed blocksX blocksY
    let totalBlocks := BitVec.ofNat 32 (blocksX * blocksY)
    BlockDiffLaw config width.toNat height.toNat (changedSet changed blocksX blocksY)
      (if scan.changedBlocks > 0 then
        resultOfScan config width.toNat height.toNat totalBlocks scan
      else { MotionResult.zero with totalBlocks }) := by
  intro blockSize blocksX blocksY scan totalBlocks
  have area := frameArea_lt width height
  have gridArea : blocksX * blocksY ≤ width.toNat * height.toNat :=
    Nat.mul_le_mul (Nat.div_le_self _ _) (Nat.div_le_self _ _)
  have cardBound := changedSet_card_le changed blocksX blocksY
  have count : scan.changedBlocks = (changedSet changed blocksX blocksY).card := by
    rw [scanGrid_changedBlocks, Nat.mod_eq_of_lt (by omega)]
  have total : totalBlocks.toNat = blocksX * blocksY := by
    simp only [totalBlocks, BitVec.toNat_ofNat]
    exact Nat.mod_eq_of_lt (by omega)
  by_cases nonempty : (changedSet changed blocksX blocksY).Nonempty
  · have counted : scan.changedBlocks > 0 := count ▸ Finset.card_pos.mpr nonempty
    rw [if_pos counted]
    obtain ⟨lowX, lowY, highX, highY⟩ : scan.minX = _ ∧ scan.minY = _ ∧ scan.maxX = _ ∧
        scan.maxY = _ := scanGrid_corners changed blocksX blocksY nonempty
    obtain ⟨cornerX, boxX, insideX⟩ := boxAxis_toNat nonempty Prod.fst width
      fun _ inSet => (mem_changedSet inSet).1
    obtain ⟨cornerY, boxY, insideY⟩ := boxAxis_toNat nonempty Prod.snd height
      fun _ inSet => (mem_changedSet inSet).2
    have changedCount : (BitVec.ofNat 32 scan.changedBlocks).toNat =
        (changedSet changed blocksX blocksY).card := by
      rw [BitVec.toNat_ofNat, count, Nat.mod_eq_of_lt (by omega)]
    exact { totalBlocks := total
            changedBlocks := changedCount
            unchanged := fun empty => absurd empty (Finset.nonempty_iff_ne_empty.mp nonempty)
            box := fun _ => by
              simp only [resultOfScan, lowX, lowY, highX, highY]
              exact ⟨cornerX, cornerY, boxX, boxY⟩
            inside := by
              simp only [resultOfScan, lowX, lowY, highX, highY, cornerX, cornerY, boxX, boxY]
              exact ⟨insideX, insideY⟩
            sizePercent := fun _ => rfl
            detected := fun _ => sizeFilter_keeps _ _ _
            sizeFiltered := fun _ => by simp [resultOfScan]
            confidence := fun _ => by simp only [resultOfScan, confidenceOf, changedCount, total] }
  · have empty : changedSet changed blocksX blocksY = ∅ :=
      Finset.not_nonempty_iff_eq_empty.mp nonempty
    have noCount : ¬ scan.changedBlocks > 0 := by simp [count, empty]
    rw [if_neg noCount]
    exact { totalBlocks := total
            changedBlocks := by simp [MotionResult.zero, empty]
            unchanged := fun _ => ⟨rfl, rfl, rfl, rfl, rfl, rfl⟩
            box := fun present => absurd present nonempty
            inside := by simp [MotionResult.zero]
            sizePercent := fun present => absurd present nonempty
            detected := fun present => absurd present nonempty
            sizeFiltered := fun present => absurd present nonempty
            confidence := fun present => absurd present nonempty }

theorem compareFrames_law {d : MotionDetector} {prevFrame cur : List (BitVec 8)}
    {frame : CameraFb} (now : BitVec 32) (positive : 0 < d.config.blockSize.toNat)
    (small : d.config.blockSize.toNat ≤ 255)
    (curLong : frame.width.toNat * frame.height.toNat ≤ cur.length)
    (prevLong : frame.width.toNat * frame.height.toNat ≤ prevFrame.length) :
    ∃ result d', d.compareFrames prevFrame frame cur now = .ok (result, d') ∧
      BlockDiffLaw d.config frame.width.toNat frame.height.toNat
        (changedBlocksOf d.config frame.width.toNat frame.height.toNat cur prevFrame) result := by
  have scanned := scanBlocks_of_inside positive small fun _ _ column row =>
    readsInside_of_grid curLong prevLong column row
  have copied : memcpy prevFrame cur (frame.width.toNat * frame.height.toNat) =
      .ok (cur.take (frame.width.toNat * frame.height.toNat) ++
        prevFrame.drop (frame.width.toNat * frame.height.toNat)) := by
    simp [memcpy, curLong, prevLong]
  exact ⟨_, _, by
    simp only [MotionDetector.compareFrames, Nat.pos_iff_ne_zero.mp positive, if_false, scanned,
      copied, ok_bind]
    rfl, scanResult_law d.config frame.width frame.height _⟩

/-- A valid grayscale frame that reaches the comparison against a stored baseline of
its own size gets the result the spec describes, for every block size from 1 to 255. -/
theorem detect_follows_blockDiffLaw {d : MotionDetector} {statics : JpegStatics}
    {frame : CameraFb} {cur prev : List (BitVec 8)} {gateNow acceptNow : BitVec 32}
    {alloc : AllocOracle} (positive : 0 < d.config.blockSize.toNat)
    (small : d.config.blockSize.toNat ≤ 255) (stored : d.prevFrame = some prev)
    (sameWidth : d.prevWidth = frame.width) (sameHeight : d.prevHeight = frame.height)
    (prevSize : prev.length = frame.width.toNat * frame.height.toNat)
    (present : frame.buf = some cur)
    (curSize : frame.width.toNat * frame.height.toNat ≤ cur.length)
    (nonEmpty : frame.len ≠ 0) (gateOpen : d.coolingDown gateNow = false)
    (grayscale : frame.format = .grayscale) :
    ∃ result d',
      d.detect statics (some frame) gateNow acceptNow alloc = .ok (result, d', statics) ∧
      BlockDiffLaw d.config frame.width.toNat frame.height.toNat
        (changedBlocksOf d.config frame.width.toNat frame.height.toNat cur prev) result := by
  obtain ⟨result, d', compared, law⟩ :=
    compareFrames_law acceptNow positive small curSize (Nat.le_of_eq prevSize.symm)
  refine ⟨result, d', ?_, law⟩
  rw [MotionDetector.detect_of_grayscale present nonEmpty gateOpen grayscale,
    MotionDetector.detectGrayscale_of_stored stored sameWidth sameHeight, compared]
  rfl

/-- The spec's 64×64 example: a baseline of zeros and one 16×16 block set to 100. -/
theorem detect_follows_blockDiffLaw_spec_example :
    ∃ result d', MotionDetector.detect
        ⟨MotionConfig.default, some (List.replicate 4096 0), 64, 64, 0⟩ JpegStatics.initial
        (some ⟨some ((List.range 4096).map fun index =>
          if index % 64 < 16 ∧ index / 64 < 16 then 100 else 0), 4096, 64, 64, .grayscale⟩)
        5000 5000 ⟨true, true⟩ = .ok (result, d', JpegStatics.initial) ∧
      BlockDiffLaw MotionConfig.default 64 64
        (changedBlocksOf MotionConfig.default 64 64
          ((List.range 4096).map fun index =>
            if index % 64 < 16 ∧ index / 64 < 16 then 100 else 0)
          (List.replicate 4096 0)) result :=
  detect_follows_blockDiffLaw (by decide) (by decide) rfl rfl rfl
    (by simp only [List.length_replicate]; decide) rfl
    (by simp only [List.length_map, List.length_range]; decide) (by decide) (by decide) rfl

set_option maxRecDepth 4000 in
/-- With `blockSize = 1` a 10×1 frame whose first three pixels changed gets a 3×1 box,
exactly 30 % of the frame and so within the default `maxSizePercent = 30`; the `float`
share rounds to 30.0000019, above the bound, and the detection is filtered. -/
theorem detect_filters_box_at_max_size :
    ∃ result d', MotionDetector.detect
        ⟨{ MotionConfig.default with blockSize := 1 }, some (List.replicate 10 0), 10, 1, 0⟩
        JpegStatics.initial
        (some ⟨some ([255, 255, 255] ++ List.replicate 7 0), 10, 10, 1, .grayscale⟩)
        5000 5000 ⟨true, true⟩ = .ok (result, d', JpegStatics.initial) ∧
      100 * result.width.toNat * result.height.toNat = 30 * (10 * 1) ∧
      MotionConfig.default.maxSizePercent = 30 ∧ 30 < result.sizePercent ∧
      result.sizeFiltered = true ∧ result.detected = false := by
  refine ⟨_, _, rfl, by decide, rfl, ?_⟩
  with_unfolding_all decide

/-! ## Block sizes the `uint16_t` area cannot hold -/

section Wrap

variable {config : MotionConfig} {cur prev : List (BitVec 8)} {width bound : Nat}

theorem scanBlock_of_wrapped_area
    (wraps : config.blockSize.toNat * config.blockSize.toNat % 2 ^ 16 = 0) {bx bY : Nat}
    (inside : ReadsInside cur prev width config.blockSize.toNat bx bY bound) (scan : BlockScan) :
    scanBlock config cur prev width scan bY bx = .error .divByZero := by
  have wrapped : config.blockSize.toNat * config.blockSize.toNat % 65536 = 0 := wraps
  simp [scanBlock, blockDiffOf_eq_blockSum inside, avgDiffOf, wrapped]

theorem scanBlocks_of_wrapped_area
    (wraps : config.blockSize.toNat * config.blockSize.toNat % 2 ^ 16 = 0)
    (inside : ReadsInside cur prev width config.blockSize.toNat 0 0 bound) (blocksX blocksY : Nat) :
    scanBlocks config cur prev width (blocksX + 1) (blocksY + 1) = .error .divByZero := by
  simp only [scanBlocks, List.range_succ_eq_map, List.foldlM_cons,
    scanBlock_of_wrapped_area wraps inside, error_bind]

end Wrap

/-- A block size whose square is a multiple of `2 ^ 16` (256, 512, ...) leaves
`pixelsInBlock = 0`, and the first block of a frame at least one block wide and high
divides by zero. -/
theorem compareFrames_of_wrapped_area {d : MotionDetector} {prevFrame cur : List (BitVec 8)}
    {frame : CameraFb} (now : BitVec 32) (positive : 0 < d.config.blockSize.toNat)
    (wraps : d.config.blockSize.toNat * d.config.blockSize.toNat % 2 ^ 16 = 0)
    (wide : d.config.blockSize.toNat ≤ frame.width.toNat)
    (high : d.config.blockSize.toNat ≤ frame.height.toNat)
    (curLong : frame.width.toNat * frame.height.toNat ≤ cur.length)
    (prevLong : frame.width.toNat * frame.height.toNat ≤ prevFrame.length) :
    d.compareFrames prevFrame frame cur now = .error .divByZero := by
  have column := Nat.div_pos wide positive
  have row := Nat.div_pos high positive
  obtain ⟨blocksX, across⟩ : ∃ blocksX,
      frame.width.toNat / d.config.blockSize.toNat = blocksX + 1 :=
    ⟨_, (Nat.succ_pred_eq_of_pos column).symm⟩
  obtain ⟨blocksY, down⟩ : ∃ blocksY,
      frame.height.toNat / d.config.blockSize.toNat = blocksY + 1 :=
    ⟨_, (Nat.succ_pred_eq_of_pos row).symm⟩
  simp only [MotionDetector.compareFrames, Nat.pos_iff_ne_zero.mp positive, if_false, across, down,
    scanBlocks_of_wrapped_area wraps (readsInside_of_grid curLong prevLong column row), error_bind]

/-- With `blockSize = 256` a 256×256 grayscale frame compared against a stored frame of
its size faults: `pixelsInBlock = 256 * 256` wraps to 0 in its `uint16_t`. -/
theorem detect_blockSize_256_divides_by_zero :
    MotionDetector.detect
      ⟨{ MotionConfig.default with blockSize := 256 }, some (List.replicate 65536 0), 256, 256,
        0⟩
      JpegStatics.initial (some ⟨some (List.replicate 65536 0), 65536, 256, 256, .grayscale⟩)
      5000 5000 ⟨true, true⟩ = .error .divByZero := by
  rw [MotionDetector.detect_of_grayscale rfl (by decide) (by decide) rfl,
    MotionDetector.detectGrayscale_of_stored rfl rfl rfl,
    compareFrames_of_wrapped_area 5000 (by decide) (by decide) (by decide) (by decide)
      (by simp only [List.length_replicate]; decide) (by simp only [List.length_replicate]; decide)]
  rfl

end Mousetrap.Motion
