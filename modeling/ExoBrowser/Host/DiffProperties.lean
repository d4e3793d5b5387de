import ExoBrowser.Host.Diff
import ExoBrowser.Proto.PixelsProperties
import Mathlib.Data.Nat.Count

/-!
# Frame difference laws

The rectangles of `diff_regions` lie in the frame, bound the pixels that differ in
their rows, and miss none.
-/

set_option autoImplicit false

namespace ExoBrowser.Host

open Library Proto

/-! ## Columns of a row -/

section Columns

variable {γ : Type} [DecidableEq γ] {sa sb : List γ}

omit [DecidableEq γ] in
private theorem length_zip (sameLength : sa.length = sb.length) :
    (sa.zip sb).length = sa.length := by
  rw [List.length_zip, sameLength, Nat.min_self]

private theorem zip_ne_iff (sameLength : sa.length = sb.length) {j : Nat}
    (inside : j < (sa.zip sb).length) :
    decide ((sa.zip sb)[j].1 ≠ (sa.zip sb)[j].2) = true ↔ sa[j]? ≠ sb[j]? := by
  have left : j < sa.length := length_zip sameLength ▸ inside
  rw [List.getElem_zip, List.getElem?_eq_getElem left,
    List.getElem?_eq_getElem (sameLength ▸ left : j < sb.length)]
  simp

omit [DecidableEq γ] in
private theorem equal_behind (sameLength : sa.length = sb.length) {j : Nat}
    (outside : (sa.zip sb).length ≤ j) : sa[j]? = sb[j]? := by
  rw [length_zip sameLength] at outside
  rw [List.getElem?_eq_none outside, List.getElem?_eq_none (sameLength ▸ outside)]

private theorem position_some {lx : Nat} (sameLength : sa.length = sb.length)
    (found : position sa sb = some lx) :
    lx < sa.length ∧ sa[lx]? ≠ sb[lx]? ∧ ∀ j < lx, sa[j]? = sb[j]? := by
  obtain ⟨inside, differs, first⟩ := List.findIdx?_eq_some_iff_getElem.mp found
  refine ⟨length_zip sameLength ▸ inside, (zip_ne_iff sameLength inside).mp differs, ?_⟩
  intro j before
  by_contra differ
  exact first j before ((zip_ne_iff sameLength (Nat.lt_trans before inside)).mpr differ)

private theorem position_none (sameLength : sa.length = sb.length)
    (absent : position sa sb = none) (j : Nat) : sa[j]? = sb[j]? := by
  by_cases inside : j < (sa.zip sb).length
  · have same := List.findIdx?_eq_none_iff.mp absent _ (List.getElem_mem inside)
    by_contra differ
    rw [(zip_ne_iff sameLength inside).mpr differ] at same
    cases same
  · exact equal_behind sameLength (Nat.not_lt.mp inside)

private theorem rposition_some {rx : Nat} (sameLength : sa.length = sb.length)
    (found : rposition sa sb = some rx) :
    rx < sa.length ∧ sa[rx]? ≠ sb[rx]? ∧ ∀ j, rx < j → sa[j]? = sb[j]? := by
  obtain ⟨i, fromEnd, rfl⟩ := Option.map_eq_some_iff.mp found
  obtain ⟨inside, differs, first⟩ := List.findIdx?_eq_some_iff_getElem.mp fromEnd
  rw [List.length_reverse] at inside
  rw [List.getElem_reverse] at differs
  refine ⟨by rw [← length_zip sameLength]; omega, (zip_ne_iff sameLength (by omega)).mp differs, ?_⟩
  intro j behind
  by_cases within : j < (sa.zip sb).length
  · by_contra differ
    refine first ((sa.zip sb).length - 1 - j) (by omega) ?_
    rw [List.getElem_reverse]
    have back : (sa.zip sb).length - 1 - ((sa.zip sb).length - 1 - j) = j := by omega
    simp only [back]
    exact (zip_ne_iff sameLength within).mpr differ
  · exact equal_behind sameLength (Nat.not_lt.mp within)

private theorem rposition_none (sameLength : sa.length = sb.length)
    (absent : rposition sa sb = none) (j : Nat) : sa[j]? = sb[j]? := by
  by_cases inside : j < (sa.zip sb).length
  · have same := List.findIdx?_eq_none_iff.mp (Option.map_eq_none_iff.mp absent) _
      (List.mem_reverse.mpr (List.getElem_mem inside))
    by_contra differ
    rw [(zip_ne_iff sameLength inside).mpr differ] at same
    cases same
  · exact equal_behind sameLength (Nat.not_lt.mp inside)

/-- The bounds are the first and the last column that satisfies `differs`, or `w` and
zero where there is none. -/
def TightBounds (w : Nat) (differs : Nat → Prop) (bounds : ColBounds) : Prop :=
  (bounds = { left := w, right := 0 } ∧ ∀ col, ¬ differs col) ∨
    (differs bounds.left ∧ differs bounds.right ∧ bounds.right < w ∧
      ∀ col, differs col → bounds.left ≤ col ∧ col ≤ bounds.right)

theorem TightBounds.full {w : Nat} {differs more : Nat → Prop} {bounds : ColBounds} (w_pos : 0 < w)
    (tight : TightBounds w differs bounds) (wide : bounds.left = 0 ∧ bounds.right + 1 ≥ w)
    (keeps : ∀ col, differs col → more col) (inside : ∀ col, more col → col < w) :
    TightBounds w more bounds := by
  rcases tight with ⟨rfl, _⟩ | ⟨left_differs, right_differs, right_lt, _⟩
  · exact absurd wide.1 (Nat.ne_of_gt w_pos)
  · refine .inr ⟨keeps _ left_differs, keeps _ right_differs, right_lt, fun col differ => ?_⟩
    have col_lt := inside col differ
    exact ⟨by omega, by omega⟩

private theorem searchLeft_returns (sameLength : sa.length = sb.length) {left : Nat}
    (inside : left ≤ sa.length) :
    Checked.Returns (if left > 0 then do
        let pa ← Checked.slice sa 0 left
        let pb ← Checked.slice sb 0 left
        return if pa ≠ pb then (position pa pb).getD left else left
      else return left : Run Nat)
      fun found => found ≤ left ∧ (found < left → sa[found]? ≠ sb[found]?) ∧
        ∀ j < found, sa[j]? = sb[j]? := by
  by_cases some_left : left > 0
  · rw [if_pos some_left]
    refine .step (Checked.slice_eq_ok (Nat.zero_le _) inside) ?_
    refine .step (Checked.slice_eq_ok (Nat.zero_le _) (sameLength ▸ inside)) ?_
    rw [List.drop_zero, List.drop_zero, Nat.sub_zero, Checked.returns_pure]
    have takenLength : (sa.take left).length = (sb.take left).length := by
      rw [List.length_take, List.length_take, sameLength]
    have taken : ∀ j < left, ((sa.take left)[j]? = (sb.take left)[j]? ↔ sa[j]? = sb[j]?) := by
      intro j before
      rw [List.getElem?_take_of_lt before, List.getElem?_take_of_lt before]
    by_cases differ : sa.take left ≠ sb.take left
    · rw [if_pos differ]
      cases search : position (sa.take left) (sb.take left) with
      | none =>
          exact absurd (List.ext_getElem? (position_none takenLength search)) differ
      | some lx =>
          obtain ⟨within, here, first⟩ := position_some takenLength search
          rw [List.length_take] at within
          have before : lx < left := by omega
          simp only [Option.getD_some]
          refine ⟨Nat.le_of_lt before, fun _ same => here ((taken lx before).mpr same), ?_⟩
          exact fun j earlier => (taken j (by omega)).mp (first j earlier)
    · rw [if_neg differ]
      refine ⟨Nat.le_refl left, fun self => absurd self (Nat.lt_irrefl left), fun j before => ?_⟩
      exact (taken j before).mp (congrArg (·[j]?) (not_not.mp differ))
  · rw [if_neg some_left]
    exact ⟨left, rfl, Nat.le_refl left, fun self => absurd self (Nat.lt_irrefl left),
      fun j before => absurd before (by omega)⟩

private theorem searchRight_returns (sameLength : sa.length = sb.length) {right w : Nat}
    (width : sa.length = w) (inside : right < w) :
    Checked.Returns (if right + 1 < w then do
        let pa ← Checked.slice sa (right + 1) sa.length
        let pb ← Checked.slice sb (right + 1) sb.length
        return if pa ≠ pb then ((rposition pa pb).map (right + 1 + ·)).getD right else right
      else return right : Run Nat)
      fun found => right ≤ found ∧ found < w ∧ (right < found → sa[found]? ≠ sb[found]?) ∧
        ∀ j, found < j → sa[j]? = sb[j]? := by
  by_cases some_right : right + 1 < w
  · rw [if_pos some_right]
    refine .step (Checked.slice_eq_ok (by omega) (Nat.le_refl _)) ?_
    refine .step (Checked.slice_eq_ok (by omega) (Nat.le_refl _)) ?_
    rw [← List.length_drop, List.take_length, ← List.length_drop, List.take_length,
      Checked.returns_pure]
    have droppedLength : (sa.drop (right + 1)).length = (sb.drop (right + 1)).length := by
      rw [List.length_drop, List.length_drop, sameLength]
    have dropped : ∀ j, ((sa.drop (right + 1))[j]? = (sb.drop (right + 1))[j]? ↔
        sa[right + 1 + j]? = sb[right + 1 + j]?) := by
      intro j
      rw [List.getElem?_drop, List.getElem?_drop]
    by_cases differ : sa.drop (right + 1) ≠ sb.drop (right + 1)
    · rw [if_pos differ]
      cases search : rposition (sa.drop (right + 1)) (sb.drop (right + 1)) with
      | none =>
          exact absurd (List.ext_getElem? (rposition_none droppedLength search)) differ
      | some rx =>
          obtain ⟨within, here, last⟩ := rposition_some droppedLength search
          rw [List.length_drop] at within
          simp only [Option.map_some, Option.getD_some]
          refine ⟨by omega, by omega, fun _ same => here ((dropped rx).mpr same), fun j behind => ?_⟩
          have reached := (dropped (j - (right + 1))).mp (last _ (by omega))
          rwa [(by omega : right + 1 + (j - (right + 1)) = j)] at reached
    · rw [if_neg differ]
      refine ⟨Nat.le_refl right, inside, fun self => absurd self (Nat.lt_irrefl right),
        fun j behind => ?_⟩
      have reached := (dropped (j - (right + 1))).mp (congrArg (·[j - (right + 1)]?) (not_not.mp differ))
      rwa [(by omega : right + 1 + (j - (right + 1)) = j)] at reached
  · rw [if_neg some_right]
    refine ⟨right, rfl, Nat.le_refl right, inside, fun self => absurd self (Nat.lt_irrefl right),
      fun j behind => ?_⟩
    rw [List.getElem?_eq_none (by omega), List.getElem?_eq_none (by omega)]

theorem updateBounds_returns {w : Nat} {differs : Nat → Prop} {bounds : ColBounds}
    (w_pos : 0 < w) (width_a : sa.length = w) (width_b : sb.length = w)
    (tight : TightBounds w differs bounds) :
    Checked.Returns (updateBounds sa sb w bounds)
      (TightBounds w fun col => differs col ∨ sa[col]? ≠ sb[col]?) := by
  have sameLength : sa.length = sb.length := width_a.trans width_b.symm
  unfold updateBounds
  rcases tight with ⟨rfl, none_yet⟩ | ⟨left_differs, right_differs, right_lt, bound⟩
  · rw [if_pos w_pos]
    cases search : position sa sb with
    | none =>
        refine ⟨_, rfl, .inl ⟨rfl, fun col differ => ?_⟩⟩
        exact differ.elim (none_yet col) fun here => here (position_none sameLength search col)
    | some lx =>
        obtain ⟨inside, here, first⟩ := position_some sameLength search
        cases searchLast : rposition sa sb with
        | none => exact absurd (rposition_none sameLength searchLast lx) here
        | some rx =>
            obtain ⟨insideLast, hereLast, last⟩ := rposition_some sameLength searchLast
            refine ⟨_, rfl, .inr ⟨.inr here, .inr hereLast, width_a ▸ insideLast, fun col differ => ?_⟩⟩
            have differ := differ.resolve_left (none_yet col)
            constructor
            · by_contra before
              exact differ (first col (Nat.not_le.mp before))
            · by_contra behind
              exact differ (last col (Nat.not_le.mp behind))
  · have ordered := bound bounds.right right_differs
    rw [if_neg (Nat.not_lt.mpr ordered.1)]
    refine (searchLeft_returns sameLength (by omega)).bind fun left leftFound => ?_
    refine (searchRight_returns sameLength width_a right_lt).bind fun right rightFound => ?_
    obtain ⟨left_le, left_here, first⟩ := leftFound
    obtain ⟨right_ge, right_lt', right_here, last⟩ := rightFound
    refine ⟨_, rfl, .inr ⟨?_, ?_, right_lt', fun col differ => ?_⟩⟩
    · rcases Nat.lt_or_eq_of_le left_le with moved | same
      · exact .inr (left_here moved)
      · simp only [same]
        exact .inl left_differs
    · rcases Nat.lt_or_eq_of_le right_ge with moved | same
      · exact .inr (right_here moved)
      · simp only [← same]
        exact .inl right_differs
    · rcases differ with before | here
      · have inside := bound col before
        exact ⟨Nat.le_trans left_le inside.1, Nat.le_trans inside.2 right_ge⟩
      · constructor
        · by_contra outside
          exact here (first col (Nat.not_le.mp outside))
        · by_contra outside
          exact here (last col (Nat.not_le.mp outside))

end Columns

/-! ## Pixels of a row -/

section Pixels

theorem Chunk.toBytes_injective {left right : Chunk} (same : left.toBytes = right.toBytes) :
    left = right := by
  cases left
  cases right
  simpa [Chunk.toBytes] using same

theorem asChunks_getElem {row : Bytes} {col : Nat} (inside : col < row.length / 4) :
    ∃ chunk, (asChunks row).1[col]? = some chunk ∧ chunk.toBytes = (row.drop (4 * col)).take 4 := by
  induction row using asChunks.induct generalizing col with
  | case1 b g r a rest ih =>
      cases col with
      | zero => exact ⟨⟨b, g, r, a⟩, rfl, rfl⟩
      | succ col =>
          obtain ⟨chunk, found, bytes⟩ := ih (by simp at inside; omega : col < rest.length / 4)
          refine ⟨chunk, found, ?_⟩
          rw [bytes, Nat.mul_succ]
          rfl
  | case2 short few =>
      have counted := (length_asChunks short).1
      simp only [asChunks, List.length_nil] at counted
      omega

variable {ra rb : Bytes} {w : Nat}

theorem chunk_ne_iff {col : Nat} (width_a : ra.length = w * 4) (width_b : rb.length = w * 4) :
    (asChunks ra).1[col]? ≠ (asChunks rb).1[col]? ↔
      col < w ∧ (ra.drop (4 * col)).take 4 ≠ (rb.drop (4 * col)).take 4 := by
  by_cases inside : col < w
  · obtain ⟨left, foundLeft, bytesLeft⟩ := asChunks_getElem (by omega : col < ra.length / 4)
    obtain ⟨right, foundRight, bytesRight⟩ := asChunks_getElem (by omega : col < rb.length / 4)
    rw [foundLeft, foundRight, ← bytesLeft, ← bytesRight]
    constructor
    · exact fun differ => ⟨inside, fun same => differ (congrArg some (Chunk.toBytes_injective same))⟩
    · exact fun differ same => differ.2 (congrArg Chunk.toBytes (Option.some.inj same))
  · have lengths := (length_asChunks ra).1
    have lengths' := (length_asChunks rb).1
    rw [List.getElem?_eq_none (by omega), List.getElem?_eq_none (by omega)]
    exact ⟨fun differ => absurd rfl differ, fun differ => absurd differ.1 inside⟩

theorem length_chunks {row : Bytes} (width : row.length = w * 4) : (asChunks row).1.length = w := by
  rw [(length_asChunks row).1]
  omega

theorem row_ne_iff (width_a : ra.length = w * 4) (width_b : rb.length = w * 4) :
    ra ≠ rb ↔ ∃ col : Nat, (asChunks ra).1[col]? ≠ (asChunks rb).1[col]? := by
  have noTail {row : Bytes} (width : row.length = w * 4) : (asChunks row).2 = [] := by
    rw [← List.length_eq_zero_iff, (length_asChunks row).2]
    omega
  constructor
  · intro differ
    by_contra same
    have chunks : (asChunks ra).1 = (asChunks rb).1 :=
      List.ext_getElem? fun col => by_contra fun here => same ⟨col, here⟩
    apply differ
    rw [← asChunks_eq ra, ← asChunks_eq rb, chunks, noTail width_a, noTail width_b]
  · rintro ⟨col, differ⟩ same
    exact differ (by rw [same])

private theorem word_injective {left right : Chunk}
    (same : UInt32.ofNat (ofLeBytes left.toBytes) = UInt32.ofNat (ofLeBytes right.toBytes)) :
    left = right := by
  have small (chunk : Chunk) : ofLeBytes chunk.toBytes < 2 ^ 32 := by
    have bound := ofLeBytes_lt chunk.toBytes
    rw [Chunk.length_toBytes] at bound
    exact bound
  have values := congrArg UInt32.toNat same
  rw [UInt32.toNat_ofNat_of_lt' (small left), UInt32.toNat_ofNat_of_lt' (small right)] at values
  exact Chunk.toBytes_injective (ofLeBytes_inj rfl values)

theorem word_ne_iff {col : Nat} :
    (asWords ra)[col]? ≠ (asWords rb)[col]? ↔ (asChunks ra).1[col]? ≠ (asChunks rb).1[col]? := by
  rw [asWords, asWords, List.getElem?_map, List.getElem?_map]
  constructor
  · exact fun differ same => differ (congrArg _ same)
  · exact fun differ same => differ (Option.map_injective (fun _ _ => word_injective) same)

/-- Either view of two rows updates the bounds by the columns whose chunks differ. -/
theorem updateRowBounds_returns {aligned : Bool} {differs : Nat → Prop} {bounds : ColBounds}
    (w_pos : 0 < w) (width_a : ra.length = w * 4) (width_b : rb.length = w * 4)
    (inside : ∀ col, differs col → col < w) (tight : TightBounds w differs bounds) :
    Checked.Returns (updateRowBounds aligned ra rb w bounds)
      (TightBounds w fun col => differs col ∨ (asChunks ra).1[col]? ≠ (asChunks rb).1[col]?) := by
  have lengthWords {row : Bytes} (width : row.length = w * 4) : (asWords row).length = w := by
    rw [asWords, List.length_map, length_chunks width]
  unfold updateRowBounds
  by_cases full : bounds.left = 0 ∧ bounds.right + 1 ≥ w
  · rw [if_pos full]
    refine ⟨bounds, rfl, tight.full w_pos full (fun col => .inl) fun col differ => ?_⟩
    exact differ.elim (inside col) fun here => ((chunk_ne_iff width_a width_b).mp here).1
  · rw [if_neg full]
    cases aligned with
    | false =>
        exact updateBounds_returns w_pos (length_chunks width_a) (length_chunks width_b) tight
    | true =>
        have updated := updateBounds_returns w_pos (lengthWords width_a) (lengthWords width_b) tight
        simp only [word_ne_iff] at updated
        exact updated

end Pixels

/-! ## Rows of a frame -/

namespace DiffInput

structure Sound (input : DiffInput) : Prop where
  w_pos : 0 < input.w
  w_le : input.w ≤ 65535
  h_le : input.h ≤ 65535
  stride_ge : 4 * input.w ≤ input.s
  length_a : input.s * input.h ≤ input.a.length
  length_b : input.s * input.h ≤ input.b.length

def Differs (input : DiffInput) (y col : Nat) : Prop :=
  y < input.h ∧ col < input.w ∧
    pixelAt input.a input.s col y ≠ pixelAt input.b input.s col y

def RowDiffers (input : DiffInput) (y : Nat) : Prop := ∃ col, input.Differs y col

instance (input : DiffInput) (y col : Nat) : Decidable (input.Differs y col) :=
  inferInstanceAs (Decidable (_ ∧ _ ∧ _ ≠ _))

instance (input : DiffInput) : DecidablePred input.RowDiffers := fun y =>
  decidable_of_iff (∃ col < input.w, input.Differs y col)
    ⟨fun ⟨col, _, differs⟩ => ⟨col, differs⟩, fun ⟨col, differs⟩ => ⟨col, differs.2.1, differs⟩⟩

variable {input : DiffInput}

private theorem row_end (sound : input.Sound) {y : Nat} (row : y < input.h) :
    y * input.s + input.w * 4 ≤ input.s * input.h := by
  have stride := sound.stride_ge
  calc y * input.s + input.w * 4 ≤ y * input.s + input.s := by omega
    _ = (y + 1) * input.s := by ring
    _ ≤ input.h * input.s := Nat.mul_le_mul_right _ row
    _ = input.s * input.h := Nat.mul_comm _ _

private theorem row_pixel {pixels : Bytes} {w s y col : Nat} (inside : col < w) :
    (((pixels.drop (y * s)).take (w * 4)).drop (4 * col)).take 4 = pixelAt pixels s col y := by
  rw [pixelAt, List.drop_take, List.drop_drop, List.take_take, Nat.min_eq_left (by omega)]

theorem rows_eq_ok (sound : input.Sound) {y : Nat} (row : y < input.h) :
    ∃ ra rb, input.rowA y = .ok ra ∧ input.rowB y = .ok rb ∧ ra.length = input.w * 4 ∧
      rb.length = input.w * 4 ∧
      ∀ col, (asChunks ra).1[col]? ≠ (asChunks rb).1[col]? ↔ input.Differs y col := by
  have ends := row_end sound row
  have length_a := sound.length_a
  have length_b := sound.length_b
  have width {pixels : Bytes} (long : input.s * input.h ≤ pixels.length) :
      ((pixels.drop (y * input.s)).take (input.w * 4)).length = input.w * 4 := by
    rw [List.length_take, List.length_drop]
    omega
  refine ⟨_, _, Checked.slice_add_eq_ok (by omega), Checked.slice_add_eq_ok (by omega),
    width length_a, width length_b, fun col => ?_⟩
  rw [chunk_ne_iff (width length_a) (width length_b)]
  constructor
  · rintro ⟨inside, differ⟩
    rw [row_pixel inside, row_pixel inside] at differ
    exact ⟨row, inside, differ⟩
  · rintro ⟨_, inside, differ⟩
    rw [row_pixel inside, row_pixel inside]
    exact ⟨inside, differ⟩

structure Scanned (input : DiffInput) (n : Nat) (rows : DirtyRows) : Prop where
  length : rows.dirty.length = n
  flags : ∀ y < n, rows.dirty[y]? = some (decide (input.RowDiffers y))
  counted : rows.count = Nat.count input.RowDiffers n
  extent : (rows.count = 0 ∧ rows.firstDirty = input.h ∧ ∀ y < n, ¬ input.RowDiffers y) ∨
    (0 < rows.count ∧ rows.firstDirty < n ∧ rows.lastDirty < n ∧
      input.RowDiffers rows.firstDirty ∧ input.RowDiffers rows.lastDirty ∧
      ∀ y < n, input.RowDiffers y → rows.firstDirty ≤ y ∧ y ≤ rows.lastDirty)

theorem scanRow_returns (sound : input.Sound) {y : Nat} (row : y < input.h) {rows : DirtyRows}
    (scanned : Scanned input y rows) :
    Checked.Returns (input.scanRow rows y) (Scanned input (y + 1)) := by
  obtain ⟨ra, rb, foundA, foundB, width_a, width_b, columns⟩ := rows_eq_ok sound row
  obtain ⟨length, flags, counted, extent⟩ := scanned
  have differs_iff : ra ≠ rb ↔ input.RowDiffers y := by
    rw [row_ne_iff width_a width_b]
    exact exists_congr columns
  have flagged {flag : Bool} (agrees : flag = decide (input.RowDiffers y)) :
      ∀ row < y + 1, (rows.dirty ++ [flag])[row]? = some (decide (input.RowDiffers row)) := by
    intro row small
    rcases Nat.lt_succ_iff_lt_or_eq.mp small with before | same
    · rw [List.getElem?_append_left (by omega)]
      exact flags row before
    · rw [same, List.getElem?_append_right (by omega), length, Nat.sub_self]
      exact congrArg some agrees
  refine .step foundA (.step foundB ?_)
  by_cases differ : ra ≠ rb
  · rw [if_pos differ]
    have rowDiffers := differs_iff.mp differ
    refine ⟨_, rfl, by simp [length], flagged (by simp [rowDiffers]),
      by simp [Nat.count_succ, counted, rowDiffers], .inr ?_⟩
    rcases extent with ⟨none_yet, first, clean⟩ | ⟨some_yet, first_lt, last_lt, first_dirty, _, between⟩
    · simp only [first, if_true]
      refine ⟨by omega, Nat.lt_succ_self y, Nat.lt_succ_self y, rowDiffers, rowDiffers, ?_⟩
      intro other small dirty
      rcases Nat.lt_succ_iff_lt_or_eq.mp small with before | same
      · exact absurd dirty (clean other before)
      · exact ⟨same.ge, same.le⟩
    · have kept : rows.firstDirty ≠ input.h := by omega
      simp only [kept, if_false]
      refine ⟨by omega, by omega, Nat.lt_succ_self y, first_dirty, rowDiffers, ?_⟩
      intro other small dirty
      rcases Nat.lt_succ_iff_lt_or_eq.mp small with before | same
      · exact ⟨(between other before dirty).1, Nat.le_of_lt before⟩
      · exact ⟨by omega, same.le⟩
  · rw [if_neg differ]
    have clean := mt differs_iff.mpr differ
    refine ⟨_, rfl, by simp [length], flagged (by simp [clean]),
      by simp [Nat.count_succ, counted, clean], ?_⟩
    rcases extent with ⟨none_yet, first, cleanBefore⟩ |
      ⟨some_yet, first_lt, last_lt, first_dirty, last_dirty, between⟩
    · refine .inl ⟨none_yet, first, fun other small => ?_⟩
      rcases Nat.lt_succ_iff_lt_or_eq.mp small with before | same
      · exact cleanBefore other before
      · exact same ▸ clean
    · refine .inr ⟨some_yet, Nat.lt_succ_of_lt first_lt, Nat.lt_succ_of_lt last_lt, first_dirty,
        last_dirty, fun other small dirty => ?_⟩
      rcases Nat.lt_succ_iff_lt_or_eq.mp small with before | same
      · exact between other before dirty
      · exact absurd (same ▸ dirty) clean

theorem scanRows_returns (sound : input.Sound) :
    Checked.Returns input.scanRows (Scanned input input.h) :=
  Checked.Returns.foldlM_range (Scanned input) input.h
    (fun _ row _ scanned => scanRow_returns sound row scanned)
    ⟨rfl, nofun, rfl, .inl ⟨rfl, rfl, nofun⟩⟩

/-- The bounds over some rows are tight for the pixels that differ in them. -/
theorem boundRows_returns (sound : input.Sound) {rows : List (Bool × Nat)}
    (inFrame : ∀ row ∈ rows, row.2 < input.h) {differs : Nat → Prop} {bounds : ColBounds}
    (inside : ∀ col, differs col → col < input.w) (tight : TightBounds input.w differs bounds) :
    Checked.Returns (input.boundRows rows bounds) (TightBounds input.w fun col =>
      differs col ∨ ∃ y, (true, y) ∈ rows ∧ input.Differs y col) := by
  induction rows generalizing differs bounds with
  | nil =>
      refine ⟨bounds, rfl, ?_⟩
      simpa using tight
  | cons row rows ih =>
      obtain ⟨isD, yy⟩ := row
      have inRest := fun other member => inFrame other (List.mem_cons_of_mem _ member)
      rw [boundRows]
      cases isD with
      | false =>
          rw [if_neg Bool.false_ne_true]
          have rest := ih inRest inside tight
          simpa using rest
      | true =>
          obtain ⟨ra, rb, foundA, foundB, width_a, width_b, columns⟩ :=
            rows_eq_ok sound (inFrame (true, yy) List.mem_cons_self)
          rw [if_pos rfl]
          refine .step foundA (.step foundB ?_)
          refine (updateRowBounds_returns sound.w_pos width_a width_b inside tight).bind
            fun updated updatedTight => ?_
          simp only [columns] at updatedTight
          have updatedInside : ∀ col, differs col ∨ input.Differs yy col → col < input.w :=
            fun col differ => differ.elim (inside col) fun here => here.2.1
          have merged : (fun col => (differs col ∨ input.Differs yy col) ∨
              ∃ y, (true, y) ∈ rows ∧ input.Differs y col) =
              fun col => differs col ∨ ∃ y, (true, y) ∈ (true, yy) :: rows ∧ input.Differs y col := by
            funext col
            simp [or_assoc, or_and_right, exists_or]
          rw [← merged]
          by_cases full : updated.left = 0 ∧ updated.right + 1 ≥ input.w
          · rw [if_pos full]
            refine ⟨updated, rfl, updatedTight.full sound.w_pos full (fun col => .inl) ?_⟩
            exact fun col differ => differ.elim (updatedInside col) fun ⟨_, _, here⟩ => here.2.1
          · rw [if_neg full]
            exact ih inRest updatedInside updatedTight

end DiffInput

end ExoBrowser.Host
