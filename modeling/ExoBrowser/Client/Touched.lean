import ExoBrowser.Client.DamageBounds

/-!
# What the content stage touches

Whatever the pictures are, the content stage of a render that returns draws in the rows
of the content area only, and only where it says so.
-/

set_option autoImplicit false

namespace ExoBrowser.Client

open Library Proto Checked

variable {build : Build}

namespace Window

variable {window : Window} {buffer : List UInt32}

/-- A drawing in the content area, of which every cell is reported. -/
structure Drew (window : Window) (before after : List UInt32 × List DamageRect) : Prop where
  confined : Confined window.bw.toNat
    (fun col row => window.Content col row ∧ ∃ rect ∈ after.2, rect.Covers col row) before.1 after.1
  kept : ∀ rect ∈ before.2, rect ∈ after.2

namespace Drew

variable {before between after : List UInt32 × List DamageRect}

theorem refl (canvas : List UInt32 × List DamageRect) : window.Drew canvas canvas where
  confined := .refl _ _ _
  kept _ member := member

theorem trans (first : window.Drew before between) (second : window.Drew between after) :
    window.Drew before after where
  confined := by
    refine .trans (first.confined.mono fun col _ row here => ?_) second.confined
    obtain ⟨inside, rect, member, covers⟩ := here
    exact ⟨inside, rect, second.kept rect member, covers⟩
  kept rect member := second.kept rect (first.kept rect member)

theorem patched {region : Nat → Nat → Prop} {value : Nat → Nat → UInt32}
    (patched : window.Patched region value before after)
    (within : ∀ col row, region col row → window.Content col row) : window.Drew before after where
  confined := patched.painted.toConfined.mono fun col col_lt row here =>
    ⟨within col row here, patched.covered col col_lt row here⟩
  kept := patched.kept

theorem reported {start : List UInt32} (drew : window.Drew before after)
    (reported : window.Reported start before) : window.Reported start after :=
  reported.confined drew.confined drew.kept fun _ _ _ here => here.2

end Drew

/-! ## Rows -/

theorem copyRow_confined {pixels : Bytes} {srcStart row copyW : Nat} (inWindow : row < window.contentH.toNat)
    (columns : copyW ≤ window.bw.toNat) :
    Yields (copyRow pixels srcStart (window.rowStart row) copyW buffer)
      (Confined window.bw.toNat window.Content buffer) := by
  refine .bind fun src _ => .bind fun dst sliced => ?_
  have length : dst.length ≤ copyW := by
    unfold Checked.slice at sliced
    split at sliced
    case isTrue =>
        cases sliced
        simp
    case isFalse => cases sliced
  have height := chromeH_add_contentH (by omega : 0 < window.contentH.toNat)
  refine confined_overwrite fun col col_lt line above below => ?_
  rw [length_copyBgraRowToU32] at below
  have last : cell window.bw.toNat col line < (chromeH.toNat + row + 1) * window.bw.toNat := by
    rw [Nat.succ_mul]
    unfold rowStart at below
    omega
  obtain ⟨top, bottom⟩ := (row_lt_of_cell col_lt).mp ⟨above, last⟩
  exact ⟨by omega, by omega⟩

theorem drawRows_confined {copyW copyH : Nat} {row : Nat → List UInt32 → Run (List UInt32)}
    (some : 0 < window.contentH.toNat) (rows : copyH ≤ window.contentH.toNat)
    (copies : ∀ y < copyH, ∀ canvas,
      Yields (row y canvas) (Confined window.bw.toNat window.Content canvas)) :
    Yields (window.drawRows copyW copyH row buffer) (Confined window.bw.toNat window.Content buffer) := by
  have height := chromeH_add_contentH some
  unfold drawRows
  refine .bind fun drawn copied => ?_
  have kept : Confined window.bw.toNat window.Content buffer drawn := by
    refine Yields.foldlM (Confined window.bw.toNat window.Content buffer) ?_ (.refl _ _ _) drawn copied
    intro canvas confined y member
    have y_lt : y < copyH := List.mem_range.mp member
    refine .bind fun next taken => ?_
    have both := confined.trans (copies y y_lt canvas next taken)
    refine .ite (fun narrow => ?_) fun _ => .pure both
    intro filled returned
    refine both.trans (confined_fill (fun col col_lt line above below => ?_) filled returned)
    have start : (chromeH.toNat + y) * window.bw.toNat ≤ cell window.bw.toNat col line := by
      unfold rowStart at above
      omega
    have stop : cell window.bw.toNat col line < (chromeH.toNat + y + 1) * window.bw.toNat := by
      rw [Nat.succ_mul]
      exact below
    obtain ⟨top, bottom⟩ := (row_lt_of_cell col_lt).mp ⟨start, stop⟩
    exact ⟨by omega, by omega⟩
  refine .ite (fun short => ?_) fun _ => .pure kept
  intro filled returned
  refine kept.trans (confined_fill (fun col col_lt line above below => ?_) filled returned)
  have stop : cell window.bw.toNat col line < window.bh.toNat * window.bw.toNat := by
    rw [Nat.mul_comm]
    exact below
  obtain ⟨top, bottom⟩ := (row_lt_of_cell col_lt).mp ⟨above, stop⟩
  exact ⟨by omega, bottom⟩

theorem drawFrame_confined (f : GfxFrame) (some : 0 < window.contentH.toNat) :
    Yields (window.drawFrame f buffer) (Confined window.bw.toNat window.Content buffer) := by
  have wide := toNat_min32 f.width window.bw
  have tall := toNat_min32 f.height window.contentH
  refine drawRows_confined some (by omega) fun y y_lt canvas => copyRow_confined (by omega) (by omega)

end Window

/-! ## The stage -/

namespace BrowserCore

variable {core : BrowserCore} {buffer : List UInt32} {damage : List DamageRect}

theorem drew_contentRect {drawn : List UInt32} (some : 0 < core.window.contentH.toNat)
    (confined : Confined core.window.bw.toNat core.window.Content buffer drawn) :
    core.window.Drew (buffer, damage) (drawn, damage ++ [core.window.contentRect]) where
  confined := by
    refine confined.mono fun col col_lt row inside => ⟨inside, core.window.contentRect, ?_, ?_⟩
    · simp
    · have height := Window.chromeH_add_contentH some
      obtain ⟨top, bottom⟩ := inside
      refine ⟨Nat.zero_le _, by simpa [Window.contentRect] using col_lt, top, ?_⟩
      change row < chromeH.toNat + core.window.contentH.toNat
      omega
  kept _ member := List.mem_append_left _ member

theorem renderWhole_drew (intact : core.Intact) (narrow : core.Narrow)
    (some : 0 < core.window.contentH.toNat) :
    Yields (core.renderWhole build buffer damage) (core.window.Drew (buffer, damage)) := by
  unfold renderWhole
  split
  case h_1 f _ =>
      exact .bind fun drawn drew => .pure (drew_contentRect some (Window.drawFrame_confined f some drawn drew))
  case h_2 =>
      refine .ite (fun _ => ?_) fun _ => .pure (.refl _)
      rw [intact.activeBuf]
      refine .bind fun start product => .bind fun drawn filled => .pure (drew_contentRect some ?_)
      have chrome : chromeH.toNat = 96 := rfl
      have wide := narrow.wide
      have small : chromeH.toNat * core.window.bw.toNat < 2 ^ 32 := by
        rw [chrome]
        omega
      rw [Build.mul32, if_pos (.inl small)] at product
      cases product
      refine confined_fill (fun col col_lt row above below => ?_) drawn filled
      rw [UInt32.toNat_mul, Nat.mod_eq_of_lt small] at above
      have stop : cell core.window.bw.toNat col row < core.window.bh.toNat * core.window.bw.toNat := by
        rw [Nat.mul_comm]
        exact below
      exact (row_lt_of_cell col_lt).mp ⟨above, stop⟩

theorem renderContent_drew (intact : core.Intact) (narrow : core.Narrow)
    (some : 0 < core.window.contentH.toNat) (holds : core.window.needed ≤ buffer.length) :
    Yields (core.renderContent build buffer damage) (core.window.Drew (buffer, damage)) := by
  have room {canvas : List UInt32 × List DamageRect} (drew : core.window.Drew (buffer, damage) canvas) :
      core.window.needed ≤ canvas.1.length := drew.confined.length ▸ holds
  have content {x y w h : UInt32} (col row : Nat) (copied : core.window.Copied x y w h col row) :
      core.window.Content col row := copied.2.1
  refine .bind fun whole first => .bind fun subframes second => ?_
  have whole := renderWhole_drew intact narrow some whole first
  have subframes := Yields.foldlM (core.window.Drew (buffer, damage)) (fun canvas drew s _ next returned =>
    drew.trans (.patched ((Window.drawSubframe_returnsIf (room drew)).good next returned) content))
    whole subframes second
  refine Yields.foldlM (core.window.Drew (buffer, damage)) ?_ subframes
  rintro canvas drew ⟨tx, ty, hash⟩ _ next returned
  cases found : core.tileCache hash with
  | none =>
      simp only [Window.drawTile, found] at returned
      cases returned
      exact drew
  | some tile =>
      have size := intact.cached hash tile found
      have patched := (Window.drawTile_returnsIf found size (room drew)).good next returned
      exact drew.trans (.patched patched content)

end BrowserCore

end ExoBrowser.Client
