import ExoBrowser.Host.DiffProperties

/-!
# Frame differences cover the frame

The runs of dirty rows, and the rectangles that `diff_regions` makes of them.
-/

set_option autoImplicit false

namespace ExoBrowser.Host

open Library Proto

/-! ## Runs of rows -/

/-- A run of rows: its ends are dirty, and any five rows of it hold a dirty one. -/
structure Dense (dirtyRow : Nat → Prop) (top last : Nat) : Prop where
  ordered : top ≤ last
  top_dirty : dirtyRow top
  last_dirty : dirtyRow last
  filled : ∀ y, top ≤ y → y + 4 ≤ last → ∃ k < 5, dirtyRow (y + k)

structure Flags (dirty : List Bool) (dirtyRow : Nat → Prop) (lastDirty : Nat) : Prop where
  flagged : ∀ y ≤ lastDirty, ∃ flag, dirty[y]? = some flag ∧ (flag = true ↔ dirtyRow y)
  last : ∀ y, dirtyRow y → y ≤ lastDirty

section Runs

variable {dirty : List Bool} {dirtyRow : Nat → Prop} {lastDirty : Nat}

theorem Dense.single {y : Nat} (dirtyHere : dirtyRow y) : Dense dirtyRow y y :=
  ⟨Nat.le_refl y, dirtyHere, dirtyHere, fun _ _ _ => by omega⟩

theorem Dense.extend {top last y : Nat} (dense : Dense dirtyRow top last) (behind : last < y)
    (near : y ≤ last + 5) (dirtyHere : dirtyRow y) : Dense dirtyRow top y := by
  obtain ⟨ordered, top_dirty, last_dirty, filled⟩ := dense
  refine ⟨by omega, top_dirty, dirtyHere, fun z inside fits => ?_⟩
  rcases Nat.lt_or_ge last (z + 4) with beyond | within
  · rcases Nat.lt_or_ge (z + 4) y with before | reached
    · exact ⟨last - z, by omega, by rwa [Nat.add_sub_cancel' (by omega : z ≤ last)]⟩
    · exact ⟨y - z, by omega, by rwa [Nat.add_sub_cancel' (by omega : z ≤ y)]⟩
  · exact filled z inside within

theorem lookAhead_returns (flags : Flags dirty dirtyRow lastDirty) (y start n : Nat) :
    Checked.Returns (lookAhead dirty lastDirty y (List.range' start n)) fun found =>
      match found with
      | some k => start ≤ k ∧ k < start + n ∧ dirtyRow (y + k) ∧
          ∀ j, start ≤ j → j < k → ¬ dirtyRow (y + j)
      | none => ∀ j, start ≤ j → j < start + n → ¬ dirtyRow (y + j) := by
  induction n generalizing start with
  | zero => exact ⟨none, rfl, fun j above below => by omega⟩
  | succ n ih =>
      have onward (clean : ¬ dirtyRow (y + start)) :
          Checked.Returns (lookAhead dirty lastDirty y (List.range' (start + 1) n)) fun found =>
            match found with
            | some k => start ≤ k ∧ k < start + (n + 1) ∧ dirtyRow (y + k) ∧
                ∀ j, start ≤ j → j < k → ¬ dirtyRow (y + j)
            | none => ∀ j, start ≤ j → j < start + (n + 1) → ¬ dirtyRow (y + j) := by
        have step {j : Nat} (above : start ≤ j) (rest : start + 1 ≤ j → ¬ dirtyRow (y + j)) :
            ¬ dirtyRow (y + j) := by
          rcases Nat.lt_or_eq_of_le above with later | here
          · exact rest later
          · exact here ▸ clean
        obtain ⟨found, result, described⟩ := ih (start + 1)
        refine ⟨found, result, ?_⟩
        cases found with
        | some k =>
            obtain ⟨above, below, dirtyThere, cleanBefore⟩ := described
            exact ⟨by omega, by omega, dirtyThere, fun j from_start before =>
              step from_start fun later => cleanBefore j later before⟩
        | none =>
            exact fun j from_start below => step from_start fun later => described j later (by omega)
      rw [List.range'_succ, lookAhead]
      by_cases inside : y + start ≤ lastDirty
      · rw [if_pos inside]
        obtain ⟨flag, found, agrees⟩ := flags.flagged (y + start) inside
        refine .step (Checked.index_eq_ok found) ?_
        cases flag with
        | true => exact ⟨some start, rfl, Nat.le_refl start, by omega, agrees.mp rfl, fun j _ _ => by omega⟩
        | false => exact onward fun dirtyHere => Bool.false_ne_true (agrees.mpr dirtyHere)
      · rw [if_neg inside]
        exact onward fun dirtyHere => inside (flags.last _ dirtyHere)

/-- The inner loop at the row `y`, with the run extended to `last`. -/
structure Extending (dirtyRow : Nat → Prop) (top last y : Nat) : Prop where
  dense : Dense dirtyRow top last
  behind : last < y
  clean : ∀ row, last < row → row < y → ¬ dirtyRow row
  next : y = last + 1 ∨ (dirtyRow y ∧ y ≤ last + 5)

structure Extended (dirtyRow : Nat → Prop) (top last y : Nat) : Prop where
  dense : Dense dirtyRow top last
  next : y = last + 1
  isolated : ∀ row, last < row → row ≤ last + 5 → ¬ dirtyRow row

theorem extendPass_returns (flags : Flags dirty dirtyRow lastDirty) {top : Nat}
    (state : Nat × Nat) (extending : Extending dirtyRow top state.1 state.2) :
    Checked.Returns (extendPass dirty lastDirty state)
      (Pass.Meets (fun next => Extending dirtyRow top next.1 next.2 ∧
        lastDirty + 1 - next.2 < lastDirty + 1 - state.2)
        fun result => Extended dirtyRow top result.1 result.2) := by
  obtain ⟨last, y⟩ := state
  obtain ⟨dense, behind, clean, next⟩ := extending
  simp only at dense behind clean next
  rw [extendPass]
  by_cases inside : y ≤ lastDirty
  · rw [if_pos inside]
    obtain ⟨flag, found, agrees⟩ := flags.flagged y inside
    refine .step (Checked.index_eq_ok found) ?_
    cases flag with
    | true =>
        have dirtyHere := agrees.mp rfl
        have joined : Dense dirtyRow top y := dense.extend behind (by omega) dirtyHere
        exact ⟨_, rfl, ⟨joined, Nat.lt_succ_self y, fun row above below => by omega, .inl rfl⟩, by
          simp only
          omega⟩
    | false =>
        have cleanHere : ¬ dirtyRow y := fun dirtyHere => Bool.false_ne_true (agrees.mpr dirtyHere)
        have next_eq : y = last + 1 := next.resolve_right fun dirtyNext => cleanHere dirtyNext.1
        obtain ⟨ahead, result, described⟩ := lookAhead_returns flags y 1 gap
        refine .step result ?_
        cases ahead with
        | some k =>
            obtain ⟨above, below, dirtyThere, cleanBefore⟩ := described
            have few : k < 5 := below
            refine ⟨_, rfl, ⟨dense, ?_, fun row after before => ?_, .inr ⟨dirtyThere, ?_⟩⟩, ?_⟩
            · simp only
              omega
            · simp only at before
              rcases Nat.lt_or_eq_of_le (by omega : y ≤ row) with later | here
              · have skipped := cleanBefore (row - y) (by omega) (by omega)
                rwa [Nat.add_sub_cancel' (Nat.le_of_lt later)] at skipped
              · exact here ▸ cleanHere
            · simp only
              omega
            · simp only
              omega
        | none =>
            refine ⟨_, rfl, dense, next_eq, fun row after before => ?_⟩
            simp only at after before
            rcases Nat.lt_or_eq_of_le (by omega : y ≤ row) with later | here
            · have skipped := described (row - y) (by omega) (by omega : row - y < 1 + 4)
              rwa [Nat.add_sub_cancel' (Nat.le_of_lt later)] at skipped
            · exact here ▸ cleanHere
  · rw [if_neg inside]
    have beyond {row : Nat} (after : lastDirty < row) : ¬ dirtyRow row :=
      fun dirtyThere => Nat.not_le.mpr after (flags.last row dirtyThere)
    have next_eq : y = last + 1 := next.resolve_right fun dirtyNext =>
      beyond (Nat.not_le.mp inside) dirtyNext.1
    exact ⟨_, rfl, dense, next_eq, fun row after _ => beyond (by simp only at after; omega)⟩

/-- The runs collected before the row `y`. -/
structure Collected (dirtyRow : Nat → Prop) (y : Nat) (runs : List (Nat × Nat)) : Prop where
  dense : ∀ run ∈ runs, Dense dirtyRow run.1 run.2
  before : ∀ run ∈ runs, run.2 < y
  isolated : ∀ run ∈ runs, ∀ row, run.2 < row → row ≤ run.2 + 5 → ¬ dirtyRow row
  separated : runs.Pairwise fun run later => run.2 + 5 < later.1
  covered : ∀ row < y, dirtyRow row → ∃ run ∈ runs, run.1 ≤ row ∧ row ≤ run.2

theorem Collected.skip {y : Nat} {runs : List (Nat × Nat)} (collected : Collected dirtyRow y runs)
    (clean : ¬ dirtyRow y) : Collected dirtyRow (y + 1) runs := by
  refine { collected with before := fun run member => ?_, covered := fun row small dirtyThere => ?_ }
  · exact Nat.lt_succ_of_lt (collected.before run member)
  · rcases Nat.lt_succ_iff_lt_or_eq.mp small with before | here
    · exact collected.covered row before dirtyThere
    · exact absurd (here ▸ dirtyThere) clean

theorem Collected.append {y last next : Nat} {runs : List (Nat × Nat)}
    (collected : Collected dirtyRow y runs) (extended : Extended dirtyRow y last next) :
    Collected dirtyRow next (runs ++ [(y, last)]) := by
  obtain ⟨dense, next_eq, isolated⟩ := extended
  have ordered := dense.ordered
  constructor
  · intro run member
    rcases List.mem_append.mp member with old | new
    · exact collected.dense run old
    · rw [List.mem_singleton.mp new]
      exact dense
  · intro run member
    rcases List.mem_append.mp member with old | new
    · have earlier := collected.before run old
      omega
    · rw [List.mem_singleton.mp new, next_eq]
      exact Nat.lt_succ_self last
  · intro run member
    rcases List.mem_append.mp member with old | new
    · exact collected.isolated run old
    · rw [List.mem_singleton.mp new]
      exact isolated
  · rw [List.pairwise_append]
    refine ⟨collected.separated, List.pairwise_singleton _ _, fun run old later new => ?_⟩
    rw [List.mem_singleton.mp new]
    by_contra close
    exact collected.isolated run old y (collected.before run old) (Nat.not_lt.mp close) dense.top_dirty
  · intro row small dirtyThere
    rcases Nat.lt_or_ge row y with earlier | within
    · obtain ⟨run, member, inside⟩ := collected.covered row earlier dirtyThere
      exact ⟨run, List.mem_append_left _ member, inside⟩
    · exact ⟨(y, last), List.mem_append_right _ List.mem_cons_self, within, by simp only; omega⟩

theorem runPass_returns (flags : Flags dirty dirtyRow lastDirty)
    (state : List (Nat × Nat) × Nat) (collected : Collected dirtyRow state.2 state.1) :
    Checked.Returns (runPass dirty lastDirty state)
      (Pass.Meets (fun next => Collected dirtyRow next.2 next.1 ∧
        lastDirty + 1 - next.2 < lastDirty + 1 - state.2)
        fun runs => ∃ y, lastDirty < y ∧ Collected dirtyRow y runs) := by
  obtain ⟨runs, y⟩ := state
  simp only at collected
  rw [runPass]
  by_cases inside : y ≤ lastDirty
  · rw [if_pos inside]
    obtain ⟨flag, found, agrees⟩ := flags.flagged y inside
    refine .step (Checked.index_eq_ok found) ?_
    cases flag with
    | true =>
        have single : Dense dirtyRow y y := .single (agrees.mp rfl)
        have start : Extending dirtyRow y y (y + 1) :=
          ⟨single, Nat.lt_succ_self y, fun row above below => by omega, .inl rfl⟩
        rw [if_pos rfl]
        have looped : Checked.Returns (loop (extendPass dirty lastDirty) (lastDirty + 2) (y, y + 1))
            fun result => Extended dirtyRow y result.1 result.2 :=
          loop_returns (fun state => Extending dirtyRow y state.1 state.2)
            (fun state => lastDirty + 1 - state.2) (extendPass_returns flags) start (by simp only; omega)
        obtain ⟨⟨last, next⟩, result, extended⟩ := looped
        refine .step result ⟨_, rfl, collected.append extended, ?_⟩
        have ordered := extended.dense.ordered
        have next_eq := extended.next
        simp only at ordered next_eq ⊢
        omega
    | false =>
        have clean : ¬ dirtyRow y := fun dirtyHere => Bool.false_ne_true (agrees.mpr dirtyHere)
        rw [if_neg Bool.false_ne_true]
        refine ⟨_, rfl, collected.skip clean, ?_⟩
        simp only
        omega
  · rw [if_neg inside]
    exact ⟨_, rfl, y, Nat.not_le.mp inside, collected⟩

/-- The runs hold every dirty row, and between two runs lie five clean rows or more. -/
theorem collectRuns_returns (flags : Flags dirty dirtyRow lastDirty) {firstDirty : Nat}
    (first : ∀ y, dirtyRow y → firstDirty ≤ y) :
    Checked.Returns (collectRuns dirty firstDirty lastDirty) fun runs =>
      ∃ y, lastDirty < y ∧ Collected dirtyRow y runs := by
  have start : Collected dirtyRow firstDirty [] :=
    ⟨nofun, nofun, nofun, .nil, fun row small dirtyThere =>
      absurd (first row dirtyThere) (Nat.not_le.mpr small)⟩
  exact loop_returns (fun state => Collected dirtyRow state.2 state.1)
    (fun state => lastDirty + 1 - state.2) (runPass_returns flags) start (by simp only; omega)

end Runs

/-! ## Rectangles -/

def Region.rows (region : Region) : Nat × Nat :=
  (region.y.toNat, region.y.toNat + region.h.toNat - 1)

namespace DiffInput

/-- A rectangle is the bounding box of the pixels that differ in its rows. -/
structure IsBox (input : DiffInput) (region : Region) : Prop where
  cols_inside : region.x.toNat + region.w.toNat ≤ input.w
  rows_inside : region.y.toNat + region.h.toNat ≤ input.h
  top : input.RowDiffers region.y.toNat
  bottom : input.RowDiffers (region.y.toNat + region.h.toNat - 1)
  left : ∃ y, region.rows.1 ≤ y ∧ y ≤ region.rows.2 ∧ input.Differs y region.x.toNat
  right : ∃ y, region.rows.1 ≤ y ∧ y ≤ region.rows.2 ∧
    input.Differs y (region.x.toNat + region.w.toNat - 1)
  bounds : ∀ y col, region.rows.1 ≤ y → y ≤ region.rows.2 → input.Differs y col →
    region.rect.Contains col y

structure Covered (input : DiffInput) (regions : List Region) : Prop where
  boxes : ∀ region ∈ regions, input.IsBox region
  separated : regions.Pairwise fun region later => region.rows.2 + 5 < later.rows.1
  covers : ∀ y col, input.Differs y col → ∃ region ∈ regions, region.rect.Contains col y
  dense : ∀ region ∈ regions, Dense input.RowDiffers region.rows.1 region.rows.2 ∨
    (regions = [region] ∧ input.h ≤ Nat.count input.RowDiffers input.h * 4)

variable {input : DiffInput} {rows : DirtyRows}

theorem Covered.nil (clean : ∀ y, ¬ input.RowDiffers y) : input.Covered [] where
  boxes := fun _ member => absurd member List.not_mem_nil
  separated := .nil
  covers := fun y col differs => absurd ⟨col, differs⟩ (clean y)
  dense := fun _ member => absurd member List.not_mem_nil

theorem Scanned.flagSet (scanned : Scanned input input.h rows) :
    Flags rows.dirty input.RowDiffers rows.lastDirty ∨ ∀ y, ¬ input.RowDiffers y := by
  obtain ⟨length, flags, counted, extent⟩ := scanned
  rcases extent with ⟨_, _, clean⟩ | ⟨_, _, last_lt, _, _, between⟩
  · exact .inr fun y dirtyHere => clean y dirtyHere.choose_spec.1 dirtyHere
  · refine .inl ⟨fun y inside => ⟨_, flags y (by omega), decide_eq_true_iff⟩, fun y dirtyHere => ?_⟩
    exact (between y dirtyHere.choose_spec.1 dirtyHere).2

private theorem mem_boundRun {dirty : List Bool} {top bot y : Nat} :
    (true, y) ∈ (dirty.zipIdx.take (bot + 1)).drop top ↔
      top ≤ y ∧ y ≤ bot ∧ dirty[y]? = some true := by
  rw [List.mem_iff_getElem?]
  constructor
  · rintro ⟨i, found⟩
    rw [List.getElem?_drop] at found
    have small : top + i < bot + 1 := by
      by_contra beyond
      rw [List.getElem?_take_eq_none (Nat.not_lt.mp beyond)] at found
      cases found
    rw [List.getElem?_take_of_lt small, List.getElem?_zipIdx] at found
    obtain ⟨flag, flagged, same⟩ := Option.map_eq_some_iff.mp found
    obtain ⟨rfl, rfl⟩ := Prod.mk.inj same
    exact ⟨by omega, by omega, by simpa using flagged⟩
  · rintro ⟨above, below, flagged⟩
    refine ⟨y - top, ?_⟩
    rw [List.getElem?_drop, Nat.add_sub_cancel' above, List.getElem?_take_of_lt (by omega),
      List.getElem?_zipIdx, flagged]
    simp

def RunDiffers (input : DiffInput) (top bot col : Nat) : Prop :=
  ∃ y, top ≤ y ∧ y ≤ bot ∧ input.Differs y col

theorem boundRun_returns (sound : input.Sound) (scanned : Scanned input input.h rows)
    (top bot : Nat) :
    Checked.Returns (input.boundRun rows.dirty top bot)
      (TightBounds input.w (input.RunDiffers top bot)) := by
  have inFrame : ∀ row ∈ (rows.dirty.zipIdx.take (bot + 1)).drop top, row.2 < input.h := by
    intro row member
    have indexed := List.mem_of_mem_take (List.mem_of_mem_drop member)
    have small := (List.mem_zipIdx indexed).2.1
    rw [scanned.length] at small
    omega
  have bounded := boundRows_returns sound inFrame (fun _ => False.elim)
    (.inl ⟨rfl, fun _ => id⟩ : TightBounds input.w (fun _ => False) { left := input.w, right := 0 })
  have same : (fun col => False ∨ ∃ y, (true, y) ∈ (rows.dirty.zipIdx.take (bot + 1)).drop top ∧
      input.Differs y col) = input.RunDiffers top bot := by
    funext col
    rw [false_or]
    refine propext (exists_congr fun y => ?_)
    rw [mem_boundRun, and_assoc, and_assoc]
    refine and_congr_right fun above => and_congr_right fun below => ?_
    constructor
    · exact fun found => found.2
    · intro differs
      have rowDiffers : input.RowDiffers y := ⟨col, differs⟩
      exact ⟨(scanned.flags y differs.1).trans (congrArg some (decide_eq_true rowDiffers)), differs⟩
  rw [same] at bounded
  exact bounded

theorem region_isBox (sound : input.Sound) {top bot : Nat} (ordered : top ≤ bot)
    (inside : bot < input.h) (top_dirty : input.RowDiffers top) (bot_dirty : input.RowDiffers bot)
    {bounds : ColBounds} (tight : TightBounds input.w (input.RunDiffers top bot) bounds) :
    bounds.left ≤ bounds.right ∧ (bounds.region top bot).rows = (top, bot) ∧
      input.IsBox (bounds.region top bot) := by
  have w_le := sound.w_le
  have h_le := sound.h_le
  obtain ⟨some_col, some_differs⟩ := top_dirty
  rcases tight with ⟨_, none_differ⟩ | ⟨left_differs, right_differs, right_lt, bound⟩
  · exact absurd ⟨top, Nat.le_refl top, ordered, some_differs⟩ (none_differ some_col)
  · have left_le := (bound bounds.right right_differs).1
    have fits {value : Nat} (small : value ≤ 65535) : (UInt16.ofNat value).toNat = value :=
      UInt16.toNat_ofNat_of_lt' (Nat.lt_succ_of_le small)
    have x : (bounds.region top bot).x.toNat = bounds.left := fits (by omega)
    have y : (bounds.region top bot).y.toNat = top := fits (by omega)
    have w : (bounds.region top bot).w.toNat = bounds.right - bounds.left + 1 := fits (by omega)
    have h : (bounds.region top bot).h.toNat = bot - top + 1 := fits (by omega)
    have last : top + (bot - top + 1) - 1 = bot := by omega
    have lastCol : bounds.left + (bounds.right - bounds.left + 1) - 1 = bounds.right := by omega
    have spans : (bounds.region top bot).rows = (top, bot) := by rw [Region.rows, y, h, last]
    refine ⟨left_le, spans, ?_⟩
    constructor
    · rw [x, w]
      omega
    · rw [y, h]
      omega
    · rw [y]
      exact ⟨some_col, some_differs⟩
    · rw [y, h, last]
      exact bot_dirty
    · rw [spans, x]
      exact left_differs
    · rw [spans, x, w, lastCol]
      exact right_differs
    · intro row col above below differs
      rw [spans] at above below
      have within := bound col ⟨row, above, below, differs⟩
      simp only [Rect.Contains, Region.rect, x, y, w, h]
      simp only at above below
      omega

theorem runRegion_returns (sound : input.Sound) (scanned : Scanned input input.h rows)
    {run : Nat × Nat} (dense : Dense input.RowDiffers run.1 run.2) (out : List Region) :
    Checked.Returns (input.runRegion rows.dirty out run) fun result =>
      ∃ region, result = out ++ [region] ∧ region.rows = run ∧ input.IsBox region := by
  have inside := dense.last_dirty.choose_spec.1
  unfold runRegion
  refine (boundRun_returns sound scanned run.1 run.2).bind fun bounds tight => ?_
  obtain ⟨left_le, spans, isBox⟩ :=
    region_isBox sound dense.ordered inside dense.top_dirty dense.last_dirty tight
  rw [if_pos left_le]
  exact ⟨_, rfl, _, rfl, spans, isBox⟩

/-- `diff_regions` stays in the buffers, and its rectangles cover what differs exactly. -/
theorem diffRegions_returns (sound : input.Sound) :
    Checked.Returns input.diffRegions input.Covered := by
  unfold diffRegions
  refine (scanRows_returns sound).bind fun rows scanned => ?_
  rcases scanned.extent with ⟨none_dirty, _, clean⟩ |
    ⟨some_dirty, first_lt, last_lt, first_dirty, last_dirty, between⟩
  · rw [if_pos none_dirty]
    exact ⟨[], rfl, .nil fun y dirtyHere => clean y dirtyHere.choose_spec.1 dirtyHere⟩
  · rw [if_neg (Nat.ne_of_gt some_dirty)]
    have ordered := (between rows.firstDirty first_lt first_dirty).2
    have inRows {y col : Nat} (differs : input.Differs y col) :=
      between y differs.1 ⟨col, differs⟩
    by_cases many : rows.count * 4 ≥ input.h
    · rw [if_pos many]
      refine (boundRun_returns sound scanned rows.firstDirty rows.lastDirty).bind fun bounds tight => ?_
      obtain ⟨left_le, spans, isBox⟩ :=
        region_isBox sound ordered last_lt first_dirty last_dirty tight
      rw [if_pos left_le]
      refine ⟨_, rfl, ?_, List.pairwise_singleton _ _, fun y col differs => ?_, ?_⟩
      · rintro region (_ | ⟨_, nothing⟩)
        · exact isBox
        · cases nothing
      · refine ⟨_, List.mem_cons_self, isBox.bounds y col ?_ ?_ differs⟩
        · rw [spans]
          exact (inRows differs).1
        · rw [spans]
          exact (inRows differs).2
      · rintro region (_ | ⟨_, nothing⟩)
        · exact .inr ⟨rfl, scanned.counted ▸ many⟩
        · cases nothing
    · rw [if_neg many]
      rcases scanned.flagSet with flags | clean
      · refine (collectRuns_returns flags fun y dirtyHere =>
          (between y dirtyHere.choose_spec.1 dirtyHere).1).bind fun runs ⟨y, beyond, collected⟩ => ?_
        have folded : Checked.Returns (runs.foldlM (input.runRegion rows.dirty) []) fun out =>
            out.map Region.rows = runs ∧ ∀ region ∈ out, input.IsBox region := by
          refine Checked.Returns.foldlM_append
            (fun done out => out.map Region.rows = done ∧ ∀ region ∈ out, input.IsBox region)
            (fun done run rest split out ⟨spans, boxes⟩ => ?_)
            ⟨rfl, fun _ member => absurd member List.not_mem_nil⟩
          have member : run ∈ runs := by simp [split]
          obtain ⟨_, result, region, rfl, spansHere, isBox⟩ :=
            runRegion_returns sound scanned (collected.dense run member) out
          refine ⟨_, result, by rw [List.map_append, spans, ← spansHere]; rfl, fun other added => ?_⟩
          rcases List.mem_append.mp added with old | new
          · exact boxes other old
          · rw [List.mem_singleton.mp new]
            exact isBox
        obtain ⟨out, result, spans, boxes⟩ := folded
        refine ⟨out, result, boxes, ?_, fun row col differs => ?_, fun region member => .inl ?_⟩
        · have separated := collected.separated
          rw [← spans, List.pairwise_map] at separated
          exact separated
        · obtain ⟨run, member, above, below⟩ := collected.covered row
            (Nat.lt_of_le_of_lt (inRows differs).2 beyond) ⟨col, differs⟩
          rw [← spans] at member
          obtain ⟨region, inOut, rfl⟩ := List.mem_map.mp member
          exact ⟨region, inOut, (boxes region inOut).bounds row col above below differs⟩
        · have member' : region.rows ∈ runs := spans ▸ List.mem_map_of_mem member
          exact collected.dense region.rows member'
      · exact absurd first_dirty (clean rows.firstDirty)

end DiffInput

end ExoBrowser.Host
