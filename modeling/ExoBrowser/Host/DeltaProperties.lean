import ExoBrowser.Host.DiffCoverProperties
import ExoBrowser.Host.State

/-!
# What one frame publishes

The messages that the pump publishes for a frame lead every picture of the frame
before it to this one, as long as no rectangle is sent at half resolution.
-/

set_option autoImplicit false

namespace ExoBrowser.Host

open Library Proto

/-! ## Pixels of a rectangle -/

private theorem pixelAt_append_row {out row : Bytes} {w n col y : Nat} (col_lt : col < w)
    (length : out.length = n * (4 * w)) (y_le : y ≤ n) :
    pixelAt (out ++ row) (4 * w) col y =
      if y = n then (row.drop (4 * col)).take 4 else pixelAt out (4 * w) col y := by
  unfold pixelAt
  by_cases here : y = n
  · rw [if_pos here, here, ← length, ← List.drop_drop, List.drop_left]
  · rw [if_neg here]
    have rowEnd : (y + 1) * (4 * w) ≤ n * (4 * w) := Nat.mul_le_mul_right _ (by omega)
    rw [Nat.succ_mul] at rowEnd
    rw [List.drop_append_of_le_length (by omega), List.take_append_of_le_length]
    rw [List.length_drop]
    omega

/-- The bytes of a rectangle inside a frame are its pixels, row by row. -/
theorem extractSubrect_returns {f : Frame} (wellFormed : f.WellFormed) {region : Region}
    (cols_inside : region.x.toNat + region.w.toNat ≤ f.width)
    (rows_inside : region.y.toNat + region.h.toNat ≤ f.height) :
    Checked.Returns (extractSubrect f.pixels f.stride region) fun sub =>
      sub.length = region.h.toNat * (4 * region.w.toNat) ∧
        ∀ col < region.w.toNat, ∀ row < region.h.toNat,
          pixelAt sub (4 * region.w.toNat) col row =
            f.pixel (region.x.toNat + col) (region.y.toNat + row) := by
  refine Checked.Returns.foldlM_range (fun n (sub : Bytes) =>
    sub.length = n * (4 * region.w.toNat) ∧ ∀ col < region.w.toNat, ∀ row < n,
      pixelAt sub (4 * region.w.toNat) col row =
        f.pixel (region.x.toNat + col) (region.y.toNat + row)) region.h.toNat ?_
    ⟨by rw [List.length_nil, Nat.zero_mul], fun _ _ _ row_lt => absurd row_lt (Nat.not_lt_zero _)⟩
  intro yy yy_lt out ⟨length, pixels⟩
  have rowEnd : (region.y.toNat + yy) * f.stride + f.stride ≤ f.pixels.length := by
    rw [wellFormed.pixels_length, ← Nat.succ_mul, Nat.mul_comm f.stride]
    exact Nat.mul_le_mul_right _ (by omega)
  have stride_ge := wellFormed.stride_ge
  refine .step (Checked.slice_add_eq_ok (by omega)) ?_
  rw [Checked.returns_pure]
  have rowLength : ((f.pixels.drop ((region.y.toNat + yy) * f.stride + region.x.toNat * 4)).take
      (region.w.toNat * 4)).length = 4 * region.w.toNat := by
    rw [List.length_take, List.length_drop]
    omega
  refine ⟨by rw [List.length_append, length, rowLength, Nat.succ_mul yy], ?_⟩
  intro col col_lt row row_lt
  rw [pixelAt_append_row col_lt length (Nat.lt_succ_iff.mp row_lt)]
  by_cases here : row = yy
  · rw [if_pos here, here, List.drop_take, List.take_take, List.drop_drop,
      Nat.min_eq_left (by omega), Frame.pixel, pixelAt]
    congr 2
    ring
  · rw [if_neg here]
    exact pixels col col_lt row (by omega)

/-! ## Edits of messages -/

def BelowQ2 : Message → Prop
  | .subframe _ _ _ w h _ _ _ _ => w.toNat * h.toNat < q2Area
  | _ => True

instance : DecidablePred BelowQ2 := fun m => by
  cases m <;> unfold BelowQ2 <;> infer_instance

theorem receivedPixels_of_ne {target : Target} {compression : UInt8} {w h : Nat} {pixels : Bytes}
    (other : compression ≠ Compression.lz4DeltaQ2) :
    receivedPixels target compression w h pixels = pixels := if_neg other

/-- Below the area of half resolution a message shows the pixels that were sent. -/
def Faithful (m : Message) : Prop := BelowQ2 m → ∀ target, editOf target m = sentEdit m

theorem editsOf_eq_sentEdits {messages : List Message} (faithful : ∀ m ∈ messages, Faithful m)
    (small : ∀ m ∈ messages, BelowQ2 m) (target : Target) : editsOf target messages = sentEdits messages :=
  List.filterMap_congr fun m member => faithful m member (small m member) target

theorem faithful_rawFrame (f : Frame) (tsUs : UInt64) : Faithful (f.rawFrame tsUs) := by
  intro _ target
  have lossless : Compression.zstd ≠ Compression.lz4DeltaQ2 := by decide
  simp only [Frame.rawFrame, editOf, sentEdit, receivedPixels_of_ne lossless]

theorem sentEdit_rawFrame {f : Frame} (wellFormed : f.WellFormed) (tsUs : UInt64) :
    sentEdit (f.rawFrame tsUs) =
      some (.replace { width := f.width, height := f.height, pixel := f.pixel }) := by
  simp only [Frame.rawFrame, sentEdit, wellFormed.toNat_width, wellFormed.toNat_height, f.toNat_stride]
  rfl

variable {target : Target}

theorem editOf_rawFrame {f : Frame} (wellFormed : f.WellFormed) (tsUs : UInt64) :
    editOf target (f.rawFrame tsUs) =
      some (.replace { width := f.width, height := f.height, pixel := f.pixel }) :=
  (faithful_rawFrame f tsUs trivial target).trans (sentEdit_rawFrame wellFormed tsUs)

theorem regionCompression_ne {region : Region} (small : region.w.toNat * region.h.toNat < q2Area) :
    regionCompression region ≠ Compression.lz4DeltaQ2 := by
  unfold regionCompression
  rw [if_neg (Nat.not_le.mpr small)]
  split <;> decide

/-- The message shows a rectangle of the frame. -/
structure SubframeOf (f : Frame) (region : Region) (m : Message) : Prop where
  patches : ∃ pixel, sentEdit m = some (.patch region.rect pixel) ∧
    ∀ col < region.w.toNat, ∀ row < region.h.toNat,
      pixel col row = f.pixel (region.x.toNat + col) (region.y.toNat + row)
  faithful : Faithful m

theorem subframe_returns {f : Frame} (wellFormed : f.WellFormed) (tsUs : UInt64) {region : Region}
    (cols_inside : region.x.toNat + region.w.toNat ≤ f.width)
    (rows_inside : region.y.toNat + region.h.toNat ≤ f.height) :
    Checked.Returns (f.subframe tsUs region) (SubframeOf f region) := by
  unfold Frame.subframe
  refine (extractSubrect_returns wellFormed cols_inside rows_inside).bind fun sub ⟨_, pixels⟩ => ?_
  refine ⟨_, rfl, ⟨pixelAt sub (4 * region.w.toNat), ?_, pixels⟩, fun small target => ?_⟩
  · simp only [sentEdit, region.toNat_stride]
    rfl
  · simp only [editOf, sentEdit, receivedPixels_of_ne (regionCompression_ne small)]

/-! ## From one frame to the next -/

theorem sound_of_sameGeom {aligned : Nat → Bool} {prev f : Frame} (prevWellFormed : prev.WellFormed)
    (wellFormed : f.WellFormed) (same : prev.sameGeom f) :
    DiffInput.Sound { a := prev.pixels, b := f.pixels, w := f.width, h := f.height, s := f.stride, aligned } where
  w_pos := wellFormed.width_pos
  w_le := wellFormed.width_le
  h_le := wellFormed.height_le
  stride_ge := wellFormed.stride_ge
  length_a := by
    rw [prevWellFormed.pixels_length, same.2.1, same.2.2]
  length_b := wellFormed.pixels_length.ge

theorem sentEdits_rawFrame {f : Frame} (wellFormed : f.WellFormed) (tsUs : UInt64) :
    sentEdits [f.rawFrame tsUs] = [.replace { width := f.width, height := f.height, pixel := f.pixel }] := by
  simp [sentEdits, sentEdit_rawFrame wellFormed]

theorem leads_rawFrame {f : Frame} (wellFormed : f.WellFormed) (tsUs : UInt64)
    (before : Nat → Nat → Bytes) :
    Leads f.width f.height before f.pixel (sentEdits [f.rawFrame tsUs]) := by
  rw [sentEdits_rawFrame wellFormed]
  constructor
  · intro edit member
    rw [List.mem_singleton.mp member]
    exact ⟨rfl, rfl, fun _ _ _ _ => rfl⟩
  · intro col _ row _ _
    exact ⟨_, List.mem_cons_self, trivial⟩

/-- The pump publishes the whole frame, or each of the rectangles that cover what differs. -/
theorem deltaMessages_cases (aligned : Nat → Bool) {prev f : Frame}
    (prevWellFormed : prev.WellFormed) (wellFormed : f.WellFormed) (same : prev.sameGeom f)
    (tsUs : UInt64) :
    Checked.Returns (prev.deltaMessages aligned f tsUs) fun published =>
      published = [f.rawFrame tsUs] ∨ ∃ regions,
        DiffInput.Covered
            { a := prev.pixels, b := f.pixels, w := f.width, h := f.height, s := f.stride, aligned }
            regions ∧
          regions.mapM (f.subframe tsUs) = .ok published := by
  unfold Frame.deltaMessages
  refine (DiffInput.diffRegions_returns (sound_of_sameGeom prevWellFormed wellFormed same)).bind
    fun regions covered => ?_
  by_cases empty : regions = []
  · rw [if_pos empty]
    subst empty
    exact ⟨[], rfl, .inr ⟨[], covered, rfl⟩⟩
  · rw [if_neg empty]
    simp only
    split
    · exact ⟨_, rfl, .inl rfl⟩
    · obtain ⟨published, result, _⟩ := Checked.Returns.mapM fun region member =>
        subframe_returns wellFormed tsUs (covered.boxes region member).cols_inside
          (covered.boxes region member).rows_inside
      exact ⟨published, result, .inr ⟨regions, covered, result⟩⟩

theorem covered_differs {aligned : Nat → Bool} {prev f : Frame} (same : prev.sameGeom f)
    {regions : List Region} (covered : DiffInput.Covered
      { a := prev.pixels, b := f.pixels, w := f.width, h := f.height, s := f.stride, aligned } regions)
    {col row : Nat} (col_lt : col < f.width) (row_lt : row < f.height)
    (differ : prev.pixel col row ≠ f.pixel col row) :
    ∃ region ∈ regions, region.rect.Contains col row := by
  refine covered.covers row col ⟨row_lt, col_lt, ?_⟩
  rw [Frame.pixel, same.2.2] at differ
  exact differ

/-- The pump's messages for a frame of the same geometry lead to it. -/
theorem deltaMessages_returns (aligned : Nat → Bool) {prev f : Frame} (prevWellFormed : prev.WellFormed)
    (wellFormed : f.WellFormed) (same : prev.sameGeom f) (tsUs : UInt64) :
    Checked.Returns (prev.deltaMessages aligned f tsUs) fun published =>
      Leads f.width f.height prev.pixel f.pixel (sentEdits published) ∧ ∀ m ∈ published, Faithful m := by
  obtain ⟨published, result, sent⟩ :=
    deltaMessages_cases aligned prevWellFormed wellFormed same tsUs
  refine ⟨published, result, ?_⟩
  rcases sent with rfl | ⟨regions, covered, mapped⟩
  · exact ⟨leads_rawFrame wellFormed tsUs prev.pixel,
      List.forall_mem_singleton.mpr (faithful_rawFrame f tsUs)⟩
  · obtain ⟨found, result, sent, received⟩ := Checked.Returns.mapM fun region member =>
      subframe_returns wellFormed tsUs (covered.boxes region member).cols_inside
        (covered.boxes region member).rows_inside
    cases mapped.symm.trans result
    refine ⟨⟨?_, ?_⟩, fun m member => ?_⟩
    · intro edit member
      obtain ⟨m, published_m, found⟩ := List.mem_filterMap.mp member
      obtain ⟨region, _, part⟩ := received m published_m
      obtain ⟨pixel, edit_eq, pixels⟩ := part.patches
      rw [edit_eq] at found
      cases found
      intro col _ row _ inside
      obtain ⟨left, right, top, bottom⟩ : region.x.toNat ≤ col ∧
        col < region.x.toNat + region.w.toNat ∧ region.y.toNat ≤ row ∧
        row < region.y.toNat + region.h.toNat := inside
      have moved := pixels (col - region.x.toNat) (by omega) (row - region.y.toNat) (by omega)
      rwa [Nat.add_sub_cancel' left, Nat.add_sub_cancel' top] at moved
    · intro col col_lt row row_lt differ
      obtain ⟨region, member, inside⟩ := covered_differs same covered col_lt row_lt differ
      obtain ⟨m, published_m, part⟩ := sent region member
      obtain ⟨pixel, edit_eq, _⟩ := part.patches
      exact ⟨_, List.mem_filterMap.mpr ⟨m, published_m, edit_eq⟩, inside⟩
    · obtain ⟨region, _, part⟩ := received m member
      exact part.faithful

/-- So do the edits of a client, if no rectangle is sent at half resolution. -/
theorem deltaMessages_leads (target : Target) {prev f : Frame} {published : List Message}
    (sent : Leads f.width f.height prev.pixel f.pixel (sentEdits published) ∧ ∀ m ∈ published, Faithful m)
    (small : ∀ m ∈ published, BelowQ2 m) :
    Leads f.width f.height prev.pixel f.pixel (editsOf target published) := by
  rw [editsOf_eq_sentEdits sent.2 small]
  exact sent.1

end ExoBrowser.Host
