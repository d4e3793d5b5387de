import ExoBrowser.Host.DiffCoverProperties

/-!
# Frame differences exactly

What the rectangles of `diff_regions` are, for all frames that it can be called with.
-/

set_option autoImplicit false

namespace ExoBrowser.Host

open Library Proto Checked

namespace DiffInput

variable {input : DiffInput} {regions : List Region}

def dirtyRows (input : DiffInput) : Nat := Nat.count input.RowDiffers input.h

/-- The rectangles are a cover of the pixels that differ, each once. The last three say how
the rows are grouped, on the path for few rows and on the one for many. -/
structure ExactCover (input : DiffInput) (regions : List Region) : Prop where
  empty_iff : regions = [] ↔ ∀ y col, ¬ input.Differs y col
  boxes : ∀ region ∈ regions, input.IsBox region
  covers_once : ∀ y col, input.Differs y col →
    ∃! i : Nat, ∃ region : Region, regions[i]? = some region ∧ region.rect.Contains col y
  ordered : regions.Pairwise fun region later => region.y.toNat + region.h.toNat ≤ later.y.toNat
  single : input.h ≤ input.dirtyRows * 4 → regions.length ≤ 1
  gaps : ∀ (i : Nat) (region next : Region), regions[i]? = some region → regions[i + 1]? = some next →
    region.y.toNat + region.h.toNat + 5 ≤ next.y.toNat ∧
      ∀ y, region.y.toNat + region.h.toNat ≤ y → y < next.y.toNat → ¬ input.RowDiffers y
  dense : input.dirtyRows * 4 < input.h → ∀ region ∈ regions, ∀ y, region.y.toNat ≤ y →
    y + 5 ≤ region.y.toNat + region.h.toNat → ∃ k < 5, input.RowDiffers (y + k)

theorem IsBox.h_pos {region : Region} (isBox : input.IsBox region) : 0 < region.h.toNat := by
  obtain ⟨y, above, below, differs⟩ := isBox.left
  obtain ⟨_, _, top, bottom⟩ := isBox.bounds y _ above below differs
  exact Nat.pos_of_lt_add_right (Nat.lt_of_le_of_lt top bottom)

theorem IsBox.last_lt {region : Region} (isBox : input.IsBox region) {y : Nat} :
    region.rows.2 < y ↔ region.y.toNat + region.h.toNat ≤ y := by
  have h_pos := isBox.h_pos
  unfold Region.rows
  omega

theorem Covered.apart (covered : input.Covered regions) {i j : Nat} {region later : Region}
    (before : i < j) (here : regions[i]? = some region) (there : regions[j]? = some later) :
    region.y.toNat + region.h.toNat + 5 ≤ later.y.toNat := by
  have isBox := covered.boxes region (List.mem_of_getElem? here)
  obtain ⟨i_lt, rfl⟩ := List.getElem?_eq_some_iff.mp here
  obtain ⟨j_lt, rfl⟩ := List.getElem?_eq_some_iff.mp there
  have apart := List.pairwise_iff_getElem.mp covered.separated i j i_lt j_lt before
  have last_lt : regions[i].rows.2 < regions[j].rows.1 - 5 := Nat.lt_sub_of_add_lt apart
  have ends := isBox.last_lt.mp last_lt
  change _ ≤ regions[j].y.toNat - 5 at ends
  change regions[i].rows.2 + 5 < regions[j].y.toNat at apart
  omega

/-- A pixel that lies in two rectangles would lie in rows of both. -/
theorem Covered.index_unique (covered : input.Covered regions) {i j : Nat} {region other : Region}
    {y col : Nat} (here : regions[i]? = some region) (there : regions[j]? = some other)
    (inside : region.rect.Contains col y) (within : other.rect.Contains col y) : i = j := by
  obtain ⟨_, _, top, bottom⟩ := inside
  obtain ⟨_, _, above, below⟩ := within
  simp only [Region.rect] at top bottom above below
  rcases Nat.lt_trichotomy i j with before | same | after
  · have apart := covered.apart before here there
    omega
  · exact same
  · have apart := covered.apart after there here
    omega

theorem Covered.clean_between (covered : input.Covered regions) {i : Nat} {region next : Region}
    (here : regions[i]? = some region) (there : regions[i + 1]? = some next) {y : Nat}
    (behind : region.y.toNat + region.h.toNat ≤ y) (before : y < next.y.toNat) :
    ¬ input.RowDiffers y := by
  rintro ⟨col, differs⟩
  obtain ⟨other, member, _, _, top, bottom⟩ := covered.covers y col differs
  obtain ⟨j, at_j⟩ := List.mem_iff_getElem?.mp member
  simp only [Region.rect] at top bottom
  -- The rectangle with the pixel is neither up to the one nor from the other on.
  rcases Nat.lt_trichotomy j i with earlier | same | later
  · have apart := covered.apart earlier at_j here
    omega
  · subst same
    cases at_j.symm.trans here
    omega
  · rcases Nat.lt_or_eq_of_le (Nat.succ_le_of_lt later) with further | following
    · have apart := covered.apart further there at_j
      omega
    · subst following
      cases at_j.symm.trans there
      omega

theorem Covered.exact (covered : input.Covered regions)
    (single : input.h ≤ input.dirtyRows * 4 → regions.length ≤ 1) : input.ExactCover regions where
  empty_iff := by
    constructor
    · rintro rfl y col differs
      obtain ⟨region, member, _⟩ := covered.covers y col differs
      cases member
    · intro clean
      refine List.eq_nil_iff_forall_not_mem.mpr fun region member => ?_
      obtain ⟨col, differs⟩ := (covered.boxes region member).top
      exact clean _ col differs
  boxes := covered.boxes
  covers_once := by
    intro y col differs
    obtain ⟨region, member, inside⟩ := covered.covers y col differs
    obtain ⟨i, here⟩ := List.mem_iff_getElem?.mp member
    refine ⟨i, ⟨region, here, inside⟩, ?_⟩
    rintro j ⟨other, there, within⟩
    exact covered.index_unique there here within inside
  ordered := by
    refine List.pairwise_iff_getElem.mpr fun i j i_lt j_lt before => ?_
    have apart := covered.apart before (List.getElem?_eq_getElem i_lt) (List.getElem?_eq_getElem j_lt)
    exact Nat.le_of_add_right_le apart
  single := single
  gaps := fun _ _ _ here there =>
    ⟨covered.apart (Nat.lt_succ_self _) here there, fun _ => covered.clean_between here there⟩
  dense := by
    intro few region member y above below
    rcases covered.dense region member with dense | ⟨_, many⟩
    · refine dense.filled y above ?_
      have last : region.rows.2 = region.y.toNat + region.h.toNat - 1 := rfl
      omega
    · exact absurd many (Nat.not_le.mpr few)

/-- Where a quarter of the rows or more differ, there is one rectangle at most. -/
theorem diffRegions_single (sound : input.Sound) (many : input.h ≤ input.dirtyRows * 4) :
    Returns input.diffRegions fun regions => regions.length ≤ 1 := by
  unfold diffRegions
  refine (scanRows_returns sound).bind fun rows scanned => ?_
  by_cases clean : rows.count = 0
  · rw [if_pos clean]
    exact ⟨[], rfl, Nat.zero_le 1⟩
  · have quarter : rows.count * 4 ≥ input.h := by
      rw [scanned.counted]
      exact many
    rw [if_neg clean, if_pos quarter]
    refine (boundRun_returns sound scanned rows.firstDirty rows.lastDirty).bind fun bounds _ => ?_
    split
    · exact ⟨_, rfl, Nat.le_refl 1⟩
    · exact ⟨_, rfl, Nat.le_refl 1⟩

end DiffInput

/-- `diff_regions` returns for all frames of one geometry whose rows are in their buffers,
wherever they lie in memory, and what it returns covers the pixels that differ exactly. -/
theorem diff_regions_exact_cover (aligned : Nat → Bool) (a b : Bytes) (width height stride : Nat)
    (width_pos : 1 ≤ width) (width_le : width ≤ 65535) (height_le : height ≤ 65535)
    (stride_ge : 4 * width ≤ stride) (length_a : stride * height ≤ a.length)
    (length_b : stride * height ≤ b.length) :
    ∃ regions, diffRegions aligned a b width height stride = .ok regions ∧
      DiffInput.ExactCover { a, b, w := width, h := height, s := stride, aligned } regions := by
  have sound : DiffInput.Sound { a, b, w := width, h := height, s := stride, aligned } :=
    ⟨width_pos, width_le, height_le, stride_ge, length_a, length_b⟩
  obtain ⟨regions, returned, covered⟩ := DiffInput.diffRegions_returns sound
  refine ⟨regions, returned, covered.exact fun many => ?_⟩
  obtain ⟨other, same, single⟩ := DiffInput.diffRegions_single sound many
  cases returned.symm.trans same
  exact single

/-- The first and the last of twelve rows differ, and get a rectangle each. -/
theorem diff_regions_exact_cover_apart :
    let a : Bytes := List.replicate 48 0
    let b : Bytes := 7 :: List.replicate 46 0 ++ [7]
    ∃ regions, diffRegions (fun _ => true) a b 1 12 4 = .ok regions ∧ regions.length = 2 ∧
      DiffInput.ExactCover { a, b, w := 1, h := 12, s := 4, aligned := fun _ => true } regions := by
  intro a b
  obtain ⟨regions, returned, exact_cover⟩ := diff_regions_exact_cover (fun _ => true) a b 1 12 4 (by decide)
    (by decide) (by decide) (by decide) (by decide) (by decide)
  have two : (diffRegions (fun _ => true) a b 1 12 4).toOption.map List.length = some 2 := by decide +kernel
  rw [returned] at two
  exact ⟨regions, returned, Option.some.inj two, exact_cover⟩

end ExoBrowser.Host
