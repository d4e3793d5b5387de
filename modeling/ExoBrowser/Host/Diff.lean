import ExoBrowser.Host.Frame

/-!
# Frame differences

`diff_regions`: the rectangles in which two frames of one geometry differ.
-/

set_option autoImplicit false

namespace ExoBrowser.Host

open Library Proto

/-! ## Columns of a row -/

/-- `position(|(pa, pb)| pa != pb)` of two slices. -/
def position {γ : Type} [DecidableEq γ] (sa sb : List γ) : Option Nat :=
  (sa.zip sb).findIdx? fun pair => pair.1 ≠ pair.2

def rposition {γ : Type} [DecidableEq γ] (sa sb : List γ) : Option Nat :=
  ((sa.zip sb).reverse.findIdx? fun pair => pair.1 ≠ pair.2).map
    fun i => (sa.zip sb).length - 1 - i

/-- The bounds `left` and `right` of the columns that differ, `left > right` where
there are none yet. -/
structure ColBounds where
  left : Nat
  right : Nat
deriving DecidableEq, Repr

/-- The body of `update_row_bounds`, which the source writes out for words and for chunks. -/
def updateBounds {γ : Type} [DecidableEq γ] (sa sb : List γ) (w : Nat) (bounds : ColBounds) :
    Run ColBounds :=
  if bounds.left > bounds.right then
    match position sa sb with
    | some lx => return { left := lx, right := (rposition sa sb).getD lx }
    | none => return bounds
  else do
    let left ← (if bounds.left > 0 then do
        let pa ← Checked.slice sa 0 bounds.left
        let pb ← Checked.slice sb 0 bounds.left
        return if pa ≠ pb then (position pa pb).getD bounds.left else bounds.left
      else return bounds.left : Run Nat)
    let right ← (if bounds.right + 1 < w then do
        let pa ← Checked.slice sa (bounds.right + 1) sa.length
        let pb ← Checked.slice sb (bounds.right + 1) sb.length
        return if pa ≠ pb then
            ((rposition pa pb).map (bounds.right + 1 + ·)).getD bounds.right
          else bounds.right
      else return bounds.right : Run Nat)
    return { left, right }

def asWords (row : Bytes) : List UInt32 :=
  (asChunks row).1.map fun chunk => UInt32.ofNat (ofLeBytes chunk.toBytes)

/-- `aligned` says whether both rows happen to lie at addresses that are multiples of four. -/
def updateRowBounds (aligned : Bool) (ra rb : Bytes) (w : Nat) (bounds : ColBounds) :
    Run ColBounds :=
  if bounds.left = 0 ∧ bounds.right + 1 ≥ w then return bounds
  else if aligned then updateBounds (asWords ra) (asWords rb) w bounds
  else updateBounds (asChunks ra).1 (asChunks rb).1 w bounds

/-! ## Rows of a frame -/

structure DiffInput where
  a : Bytes
  b : Bytes
  w : Nat
  h : Nat
  s : Nat
  aligned : Nat → Bool

namespace DiffInput

variable (input : DiffInput)

def rowA (y : Nat) : Run Bytes := Checked.slice input.a (y * input.s) (y * input.s + input.w * 4)

def rowB (y : Nat) : Run Bytes := Checked.slice input.b (y * input.s) (y * input.s + input.w * 4)

structure DirtyRows where
  dirty : List Bool
  count : Nat
  firstDirty : Nat
  lastDirty : Nat
deriving DecidableEq

def scanRow (rows : DirtyRows) (y : Nat) : Run DirtyRows := do
  let ra ← input.rowA y
  let rb ← input.rowB y
  if ra ≠ rb then
    return {
      dirty := rows.dirty ++ [true]
      count := rows.count + 1
      firstDirty := if rows.firstDirty = input.h then y else rows.firstDirty
      lastDirty := y }
  else return { rows with dirty := rows.dirty ++ [false] }

def scanRows : Run DirtyRows :=
  (List.range input.h).foldlM input.scanRow
    { dirty := [], count := 0, firstDirty := input.h, lastDirty := 0 }

/-- The column bounds over some rows with their dirty flags. They end where the
bounds are as wide as the frame. -/
def boundRows : List (Bool × Nat) → ColBounds → Run ColBounds
  | [], bounds => return bounds
  | (isD, yy) :: rows, bounds =>
      if isD then do
        let ra ← input.rowA yy
        let rb ← input.rowB yy
        let bounds ← updateRowBounds (input.aligned yy) ra rb input.w bounds
        if bounds.left = 0 ∧ bounds.right + 1 ≥ input.w then return bounds
        else boundRows rows bounds
      else boundRows rows bounds

/-- `dirty.iter().enumerate().take(bot + 1).skip(top)`, from no bounds at all. -/
def boundRun (dirty : List Bool) (top bot : Nat) : Run ColBounds :=
  input.boundRows ((dirty.zipIdx.take (bot + 1)).drop top) { left := input.w, right := 0 }

end DiffInput

/-! ## Runs of rows -/

def gap : Nat := 4

/-- `(1..=gap).find(|&k| y + k <= last_dirty && dirty[y + k])`. -/
def lookAhead (dirty : List Bool) (lastDirty y : Nat) : List Nat → Run (Option Nat)
  | [] => return none
  | k :: ks =>
      if y + k ≤ lastDirty then do
        if ← Checked.index dirty (y + k) then return some k else lookAhead dirty lastDirty y ks
      else lookAhead dirty lastDirty y ks

/-- The inner loop: extend a run that ends at `end` so far, the next row being `y`. -/
def extendPass (dirty : List Bool) (lastDirty : Nat) : Nat × Nat → Run (Pass (Nat × Nat) (Nat × Nat))
  | (last, y) =>
      if y ≤ lastDirty then do
        if ← Checked.index dirty y then return .again (y, y + 1)
        else
          match ← lookAhead dirty lastDirty y (List.range' 1 gap) with
          | some k => return .again (last, y + k)
          | none => return .leave (last, y)
      else return .leave (last, y)

def runPass (dirty : List Bool) (lastDirty : Nat) :
    List (Nat × Nat) × Nat → Run (Pass (List (Nat × Nat) × Nat) (List (Nat × Nat)))
  | (runs, y) =>
      if y ≤ lastDirty then do
        if ← Checked.index dirty y then do
          let (last, next) ← loop (extendPass dirty lastDirty) (lastDirty + 2) (y, y + 1)
          return .again (runs ++ [(y, last)], next)
        else return .again (runs, y + 1)
      else return .leave runs

def collectRuns (dirty : List Bool) (firstDirty lastDirty : Nat) : Run (List (Nat × Nat)) :=
  loop (runPass dirty lastDirty) (lastDirty + 2) ([], firstDirty)

def ColBounds.region (bounds : ColBounds) (top bot : Nat) : Region :=
  { x := UInt16.ofNat bounds.left, y := UInt16.ofNat top,
    w := UInt16.ofNat (bounds.right - bounds.left + 1), h := UInt16.ofNat (bot - top + 1) }

def DiffInput.runRegion (input : DiffInput) (dirty : List Bool) (out : List Region)
    (run : Nat × Nat) : Run (List Region) := do
  let bounds ← input.boundRun dirty run.1 run.2
  if bounds.right ≥ bounds.left then return out ++ [bounds.region run.1 run.2] else return out

def DiffInput.diffRegions (input : DiffInput) : Run (List Region) := do
  let rows ← input.scanRows
  if rows.count = 0 then return []
  else if rows.count * 4 ≥ input.h then do
    let bounds ← input.boundRun rows.dirty rows.firstDirty rows.lastDirty
    if bounds.right ≥ bounds.left then return [bounds.region rows.firstDirty rows.lastDirty]
    else return [{
      x := 0, y := UInt16.ofNat rows.firstDirty, w := UInt16.ofNat input.w
      h := UInt16.ofNat (rows.lastDirty - rows.firstDirty + 1) }]
  else do
    let runs ← collectRuns rows.dirty rows.firstDirty rows.lastDirty
    runs.foldlM (input.runRegion rows.dirty) []

/-- Two framebuffers of one geometry. Where they lie in memory is not known. -/
def diffRegions (aligned : Nat → Bool) (a b : Bytes) (width height stride : Nat) :
    Run (List Region) :=
  DiffInput.diffRegions { a, b, w := width, h := height, s := stride, aligned }

end ExoBrowser.Host
