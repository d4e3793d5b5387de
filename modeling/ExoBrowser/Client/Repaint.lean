import ExoBrowser.Client.Layers
import ExoBrowser.Client.StripProperties

/-!
# Repaints

What is composed for a tab while it is active, and what a render shows of it when the whole
content area is dirty and no frame is pending. No call ever stores a buffer for a tab.
-/

set_option autoImplicit false

namespace ExoBrowser.Client

open Library Proto Checked

/-! ## Pictures of tabs -/

/-- The events that came for the ids of tabs, in the order of their arrival. -/
abbrev Received := UInt32 → List RenderEvent

/-- What an event leaves of itself in a log: a frame or a subframe that is kept. -/
def RenderEvent.logged : RenderEvent → List RenderEvent
  | .frame f => if f.Taken then [.frame f] else []
  | .subframe s => if s.Taken then [.subframe s] else []
  | _ => []

/-- An event is for the tab that is active when it comes. -/
def RenderEvent.receivedBy (event : RenderEvent) (tabId : UInt32) (received : Received) : Received :=
  fun key => if key = tabId then received key ++ event.logged else received key

def receiveMessage (build : Build) : BrowserCore × Received → Message → BrowserCore × Received
  | (core, received), msg =>
      ((core.applyMessage build msg).toOption.getD core,
        match RenderEvent.fromProtoMessage msg with
        | some event => event.receivedBy core.activeTabId received
        | none => received)

/-- The logs of the tabs after a call. The messages of a chunk may switch tabs in turn. -/
def CoreEvent.received (build : Build) (target : Target) (core : BrowserCore) (received : Received) :
    CoreEvent → Received
  | .told event => event.receivedBy core.activeTabId received
  | .ingested inbuf =>
      match core.ingestWireBytes build target inbuf with
      | .ok result => (result.applied.foldl (receiveMessage build) (core, received)).2
      | .error _ => received
  | _ => received

/-- What a frame or a subframe makes of a pixel. -/
def RenderEvent.over (col row : Nat) (colour : UInt32) : RenderEvent → UInt32
  | .frame f => Window.framePixel f col row
  | .subframe s => Window.underSubframe col row colour s
  | _ => colour

/-- The picture composed from frames and subframes. -/
def composed (events : List RenderEvent) (col row : Nat) : UInt32 :=
  events.foldl (RenderEvent.over col row) background

theorem composed_append_subframes (earlier : List RenderEvent) (subframes : List GfxSubframe) (col row : Nat) :
    composed (earlier ++ subframes.map .subframe) col row =
      subframes.foldl (Window.underSubframe col row) (composed earlier col row) := by
  unfold composed
  rw [List.foldl_append, List.foldl_map]
  rfl

/-! ## Pixels under subframes -/

section Pixels

variable {subframes : List GfxSubframe} {col row : Nat}

theorem underSubframes_uncovered (bare : ∀ s ∈ subframes, ¬ Window.Covers s.x s.y s.w s.h col row)
    (colour : UInt32) : subframes.foldl (Window.underSubframe col row) colour = colour := by
  induction subframes generalizing colour with
  | nil => rfl
  | cons s rest ih =>
      rw [List.foldl_cons, ih fun later member => bare later (List.mem_cons_of_mem s member)]
      exact if_neg (bare s List.mem_cons_self)

/-- Below the last subframe that covers a pixel nothing is seen. -/
theorem underSubframes_covered (covered : ∃ s ∈ subframes, Window.Covers s.x s.y s.w s.h col row)
    (colour other : UInt32) : subframes.foldl (Window.underSubframe col row) colour =
      subframes.foldl (Window.underSubframe col row) other := by
  induction subframes generalizing colour other with
  | nil =>
      obtain ⟨s, member, _⟩ := covered
      cases member
  | cons s rest ih =>
      simp only [List.foldl_cons]
      by_cases first : Window.Covers s.x s.y s.w s.h col row
      · simp only [Window.underSubframe, if_pos first]
      · obtain ⟨later, member, covers⟩ := covered
        cases member with
        | head => exact absurd covers first
        | tail _ member => exact ih ⟨later, member, covers⟩ _ _

theorem underSubframes_eq_iff {colour other : UInt32} :
    subframes.foldl (Window.underSubframe col row) colour = subframes.foldl (Window.underSubframe col row) other ↔
      colour = other ∨ ∃ s ∈ subframes, Window.Covers s.x s.y s.w s.h col row := by
  by_cases covered : ∃ s ∈ subframes, Window.Covers s.x s.y s.w s.h col row
  · exact iff_of_true (underSubframes_covered covered colour other) (.inr covered)
  · have bare : ∀ s ∈ subframes, ¬ Window.Covers s.x s.y s.w s.h col row :=
      fun s member covers => covered ⟨s, member, covers⟩
    rw [underSubframes_uncovered bare, underSubframes_uncovered bare, or_iff_left covered]

theorem underTiles_without_pixels {tileCache : UInt64 → Option (List UInt32)}
    {tiles : List (UInt32 × UInt32 × UInt64)} (unknown : ∀ pending ∈ tiles, tileCache pending.2.2 = none)
    (colour : UInt32) : tiles.foldl (Window.underTile tileCache col row) colour = colour := by
  induction tiles with
  | nil => rfl
  | cons pending rest ih =>
      have skipped : Window.underTile tileCache col row colour pending = colour := by
        unfold Window.underTile
        rw [unknown pending List.mem_cons_self]
      rw [List.foldl_cons, skipped]
      exact ih fun later member => unknown later (List.mem_cons_of_mem pending member)

end Pixels

/-! ## Repaints -/

namespace BrowserCore

instance (core : BrowserCore) (size : Nat) : Decidable (core.Accepts size) :=
  inferInstanceAs (Decidable (¬ (_ ∨ _ ∨ _)))

/-- A render draws the whole content area anew because it is dirty, and not for a frame. -/
def Repaints (core : BrowserCore) (size : Nat) : Prop :=
  core.Accepts size ∧ core.window.contentH > 0 ∧ core.fullContentDirty = true ∧ core.pendingFrames = []

instance (core : BrowserCore) (size : Nat) : Decidable (core.Repaints size) :=
  inferInstanceAs (Decidable (_ ∧ _ ∧ _ ∧ _))

end BrowserCore

/-- The content area after a call that repaints it. A toast is laid over it afterwards. -/
def CoreEvent.repainted (build : Build) (painter : Painter) (core : BrowserCore) :
    CoreEvent → Option (List UInt32)
  | .rendered buffer =>
      if core.Repaints buffer.length then
        (core.renderLayers build painter buffer).toOption.map fun next => next.2.1
      else none
  | _ => none

/-! ## Screens -/

/-- A core, with what its tabs received while they were active and what the last call repainted. -/
structure Screen where
  core : BrowserCore
  received : Received
  repainted : Option (List UInt32)

inductive ScreenEvent where
  | exposed
  | called (event : CoreEvent)

/-- A window system asks for everything to be drawn again, or there is a call. -/
inductive ScreenStep (build : Build) (target : Target) (painter : Painter) :
    Step Screen ScreenEvent Message where
  | exposed {screen} : ScreenStep build target painter screen .exposed []
      { screen with
        core := { screen.core with chromeDirty := true, fullContentDirty := true }
        repainted := none }
  | called {screen event encoded next} : coreStep build target painter screen.core event encoded next →
      ScreenStep build target painter screen (.called event) encoded
        { core := next
          received := event.received build target screen.core screen.received
          repainted := event.repainted build painter screen.core }

/-- The steps in a window of one size. -/
def screenStep (build : Build) (target : Target) (painter : Painter) (width height : UInt32) :
    Step Screen ScreenEvent Message :=
  (ScreenStep build target painter).keeping fun screen => screen.core.winSize = (width, height)

namespace Screen

def start (width height : UInt32) (initialUrl : String) (editing : Bool) : Screen where
  core := .newNoStd width height initialUrl editing
  received _ := []
  repainted := none

/-- What the active tab received while it was active. -/
def receivedActive (screen : Screen) : List RenderEvent :=
  screen.received screen.core.activeTabId

/-- What was repainted is the picture composed for the active tab. -/
def Restored (screen : Screen) : Prop :=
  ∀ content ∈ screen.repainted, screen.core.window.Displays content (composed screen.receivedActive)

/-- Before a repaint, the pending subframes and tiles over the background make all of the picture
composed for the active tab. -/
def AllPending (screen : Screen) : ScreenEvent → Prop
  | .called (.rendered buffer) => screen.core.Repaints buffer.length →
      ∀ col < screen.core.window.bw.toNat, ∀ row < screen.core.window.contentH.toNat,
        composed screen.receivedActive col row = screen.core.overlaid col row background
  | _ => True

/-- The subframes that are pending are the last events that the active tab received. No pending tile
has pixels. -/
structure OwnPending (screen : Screen) (earlier : List RenderEvent) : Prop where
  received : screen.receivedActive = earlier ++ screen.core.pendingSubframes.map .subframe
  tiles : ∀ pending ∈ screen.core.pendingTiles, screen.core.tileCache pending.2.2 = none

/-- Earlier events left a pixel blank, or a pending subframe covers it. -/
def Renewed (screen : Screen) (earlier : List RenderEvent) (col row : Nat) : Prop :=
  composed earlier col row = background ∨
    ∃ s ∈ screen.core.pendingSubframes, Window.Covers s.x s.y s.w s.h col row

/-- Before a repaint, only subframes for the active tab are pending, and they cover anew every pixel
that is not left blank by what it received before them. -/
def NothingLost (screen : Screen) : ScreenEvent → Prop
  | .called (.rendered buffer) => screen.core.Repaints buffer.length →
      ∃ earlier, screen.OwnPending earlier ∧
        ∀ col < screen.core.window.bw.toNat, ∀ row < screen.core.window.contentH.toNat,
          screen.Renewed earlier col row
  | _ => True

variable {screen : Screen} {event : ScreenEvent} {earlier : List RenderEvent}

theorem OwnPending.renewed_iff (own : screen.OwnPending earlier) (col row : Nat) :
    composed screen.receivedActive col row = screen.core.overlaid col row background ↔
      screen.Renewed earlier col row := by
  unfold BrowserCore.overlaid
  rw [own.received, composed_append_subframes, underTiles_without_pixels own.tiles]
  exact underSubframes_eq_iff

theorem NothingLost.allPending (unlost : screen.NothingLost event) : screen.AllPending event := by
  cases event with
  | exposed => trivial
  | called call =>
      cases call with
      | rendered buffer =>
          intro repaints col col_lt row row_lt
          obtain ⟨earlier, own, renewed⟩ := unlost repaints
          exact (own.renewed_iff col row).mpr (renewed col col_lt row row_lt)
      | _ => trivial

theorem AllPending.nothingLost (pending : screen.AllPending event) (own : screen.OwnPending earlier) :
    screen.NothingLost event := by
  cases event with
  | exposed => trivial
  | called call =>
      cases call with
      | rendered buffer =>
          intro repaints
          refine ⟨earlier, own, fun col col_lt row row_lt => ?_⟩
          exact (own.renewed_iff col row).mp (pending repaints col col_lt row row_lt)
      | _ => trivial

end Screen

/-- What holds of every screen in a window of one size. -/
structure Screen.Sized (screen : Screen) (width height : UInt32) : Prop where
  intact : screen.core.Intact
  size : screen.core.winSize = (width, height)

section Steps

variable {build : Build} {target : Target} {painter : Painter} {screen next : Screen}
  {event : ScreenEvent} {encoded : List Message}

theorem ScreenStep.intact (stepped : ScreenStep build target painter screen event encoded next)
    (intact : screen.core.Intact) : next.core.Intact := by
  cases stepped with
  | exposed => exact { intact with }
  | called returned => exact intact.apply _ _ returned

theorem BrowserCore.underlay_repaints {core : BrowserCore} {buffer : List UInt32}
    (repaints : core.Repaints buffer.length) (col row : Nat) :
    (core.underlay buffer).pixel col row = background := by
  obtain ⟨_, _, dirty, noFrames⟩ := repaints
  unfold underlay wholePixel
  simp only [noFrames, dirty, List.getLast?_nil, if_true]

/-- The layers of a repaint: what is pending over the background. -/
theorem BrowserCore.renderLayers_repaints {core next : BrowserCore} {buffer drawn : List UInt32}
    {damage : List DamageRect} (intact : core.Intact) (repaints : core.Repaints buffer.length)
    (returned : core.renderInto build painter buffer = .ok (next, drawn, damage)) :
    ∃ laid, core.renderLayers build painter buffer = .ok laid ∧
      core.window.Displays laid.2.1 fun col row => core.overlaid col row background := by
  obtain ⟨accepts, visible, dirty, noFrames⟩ := repaints
  have tall := UInt32.lt_iff_toNat_lt.mp visible
  have holds : core.window.needed ≤ buffer.length := by
    unfold Accepts at accepts
    omega
  rw [renderInto_eq_layers accepts tall] at returned
  obtain ⟨laid, layers, _⟩ := bind_eq_ok returned
  have noneWhole : ∀ f ∈ core.pendingFrames,
      Window.Whole f.width.toNat f.height.toNat f.stride.toNat f.pixels := by
    rw [noFrames]
    exact nofun
  have shown := ((renderLayers_shown intact noneWhole tall holds fun _ => dirty).good laid layers).2.2
  refine ⟨laid, layers, fun col col_lt row row_lt => ?_⟩
  refine (shown col col_lt row row_lt).trans ?_
  simp only [underlay_repaints ⟨accepts, visible, dirty, noFrames⟩]

theorem CoreEvent.repainted_shown {core next : BrowserCore} {buffer drawn : List UInt32}
    {damage : List DamageRect} (intact : core.Intact) (repaints : core.Repaints buffer.length)
    (returned : core.renderInto build painter buffer = .ok (next, drawn, damage)) :
    ∃ content, CoreEvent.repainted build painter core (.rendered buffer) = some content ∧
      core.window.Displays content fun col row => core.overlaid col row background := by
  obtain ⟨laid, layers, shown⟩ := core.renderLayers_repaints intact repaints returned
  refine ⟨laid.2.1, (if_pos repaints).trans ?_, shown⟩
  rw [layers]
  rfl

/-- Of each step the condition decides whether what it repaints is the picture. -/
theorem ScreenStep.restored_iff (stepped : ScreenStep build target painter screen event encoded next)
    (intact : screen.core.Intact) (same : next.core.winSize = screen.core.winSize) :
    next.Restored ↔ screen.AllPending event := by
  cases stepped with
  | exposed => exact iff_of_true nofun trivial
  | @called _ call _ core returned =>
      cases call with
      | rendered buffer =>
          by_cases repaints : screen.core.Repaints buffer.length
          · obtain ⟨⟨after, drawn, damage⟩, rendered, result⟩ := bind_eq_ok returned
            cases result
            obtain ⟨content, left, shown⟩ := CoreEvent.repainted_shown intact repaints rendered
            have active : after.activeTabId = screen.core.activeTabId :=
              congrArg Strip.activeTabId (BrowserCore.strip_renderInto buffer _ rendered)
            have window : after.window = screen.core.window := by
              unfold BrowserCore.window
              rw [same]
            simp only [Screen.Restored, Screen.AllPending, Screen.receivedActive, left, window, active, Option.mem_some_iff,
              forall_eq']
            constructor
            · intro restored _ col col_lt row row_lt
              have drawn := (shown col col_lt row row_lt).symm.trans (restored col col_lt row row_lt)
              exact (Option.some.inj drawn).symm
            · intro pending col col_lt row row_lt
              refine (shown col col_lt row row_lt).trans ?_
              exact congrArg some (pending repaints col col_lt row row_lt).symm
          · have left : CoreEvent.repainted build painter screen.core (.rendered buffer) = none := if_neg repaints
            refine iff_of_true ?_ fun repainted => absurd repainted repaints
            simp only [Screen.Restored, left]
            exact nofun
      | _ => exact iff_of_true nofun trivial

/-- As long as only subframes for the active tab are pending, nothing but what was drawn and is
not covered anew keeps a repaint from the picture. -/
theorem ScreenStep.restored_iff_nothingLost {earlier : List RenderEvent}
    (stepped : ScreenStep build target painter screen event encoded next) (intact : screen.core.Intact)
    (same : next.core.winSize = screen.core.winSize) (own : screen.OwnPending earlier) :
    next.Restored ↔ screen.NothingLost event :=
  (stepped.restored_iff intact same).trans ⟨fun pending => pending.nothingLost own, fun unlost => unlost.allPending⟩

end Steps

/-- In a window of one size, the runs whose repaints all show the picture composed for the active
tab are the runs whose repaints all come while everything of that picture is pending, but for the
background: what was drawn of it before is lost. -/
theorem repaints_restore_iff (build : Build) (target : Target) (painter : Painter) (width height : UInt32)
    (initialUrl : String) (editing : Bool) (events : List ScreenEvent) (encoded : List Message)
    (screen : Screen) :
    Runs ((screenStep build target painter width height).keeping Screen.Restored)
        (.start width height initialUrl editing) events encoded screen ↔
      Runs ((screenStep build target painter width height).guarded Screen.AllPending)
        (.start width height initialUrl editing) events encoded screen := by
  have sized : (Screen.start width height initialUrl editing).Sized width height :=
    ⟨.newNoStd width height initialUrl editing, rfl⟩
  refine Runs.keeping_iff_guarded_within (Screen.Sized · width height) sized ?_ nofun ?_
  · exact fun screen event added next sized ⟨stepped, size⟩ => ⟨stepped.intact sized.intact, size⟩
  · exact fun screen event added next sized _ ⟨stepped, size⟩ =>
      stepped.restored_iff sized.intact (size.trans sized.size.symm)

/-! ## Two runs -/

def whiteFrame : GfxFrame := { width := 1, height := 1, stride := 4, pixels := [255, 255, 255, 255] }

def whiteSubframe : GfxSubframe :=
  { x := 0, y := 0, w := 1, h := 1, stride := 4, pixels := [255, 255, 255, 255] }

/-- A new window, drawn never or to be drawn again. -/
def pendingCore (frames : List GfxFrame) (subframes : List GfxSubframe) (seen : UInt64) : BrowserCore :=
  { BrowserCore.newNoStd 640 480 "https://example.com" false with
    pendingFrames := frames
    pendingSubframes := subframes
    pendingDamage := subframes.map fun s => { x := s.x, y := s.y, w := s.w, h := s.h }
    framesSeen := seen }

section Pending

variable {frames : List GfxFrame} {subframes : List GfxSubframe} {seen : UInt64}

theorem pendingCore_intact (white : ∀ f ∈ frames, f = whiteFrame)
    (whiteToo : ∀ s ∈ subframes, s = whiteSubframe) : (pendingCore frames subframes seen).Intact :=
  { BrowserCore.Intact.newNoStd 640 480 "https://example.com" false with
    frames := fun f member => by
      rw [white f member]
      decide
    subframes := fun s member => by
      rw [whiteToo s member]
      decide }

theorem pendingCore_renders (white : ∀ f ∈ frames, f = whiteFrame)
    (whiteToo : ∀ s ∈ subframes, s = whiteSubframe) {buffer : List UInt32}
    (length : buffer.length = 640 * 480) :
    ∃ drawn damage,
      (pendingCore frames subframes seen).renderInto ⟨true⟩ (noStdPainter ⟨true⟩ fun _ => none) buffer =
        .ok ({ (pendingCore [] [] seen).contentDone with chromeDirty := false }, drawn, damage) ∧
      drawn.length = 640 * 480 := by
  have intact : (pendingCore frames subframes seen).Intact := pendingCore_intact white whiteToo
  have window : (pendingCore frames subframes seen).window = ⟨640, 480⟩ := rfl
  have accepts : (pendingCore frames subframes seen).Accepts buffer.length := by
    unfold BrowserCore.Accepts
    rw [length, window]
    decide
  have whole : ∀ f ∈ (pendingCore frames subframes seen).pendingFrames,
      Window.Whole f.width.toNat f.height.toNat f.stride.toNat f.pixels := by
    intro f member
    rw [white f member]
    exact ⟨by decide, by decide⟩
  have visible : 0 < (pendingCore frames subframes seen).window.contentH.toNat := by
    rw [window]
    decide
  have drawable : (pendingCore frames subframes seen).Drawable ⟨true⟩ := by
    refine ⟨fun s member => ?_, fun _ => ?_, fun _ s member => ?_, fun _ => nofun⟩
    · rw [whiteToo s member]
      exact ⟨by decide, by decide⟩
    · rw [window]
      decide
    · rw [whiteToo s member]
      decide
  have draws : (noStdPainter ⟨true⟩ fun _ => none).Draws ⟨640, 480⟩ :=
    noStdPainter_draws (by decide) (by decide)
  have drew : ReturnsIf _ ((pendingCore frames subframes seen).renderInto ⟨true⟩
      (noStdPainter ⟨true⟩ fun _ => none) buffer) _ :=
    BrowserCore.renderInto_shown intact whole visible accepts (fun _ => rfl) rfl
  obtain ⟨⟨next, drawn, damage⟩, returned⟩ := drew.returns ⟨drawable, fun _ => draws _ rfl rfl buffer length⟩
  obtain ⟨same, kept, _⟩ := drew.good _ returned
  cases same
  exact ⟨drawn, damage, returned, kept.trans length⟩

end Pending

theorem ScreenStep.rendered {build : Build} {target : Target} {painter : Painter} {screen : Screen}
    {next : BrowserCore} {buffer drawn : List UInt32} {damage : List DamageRect}
    (returned : screen.core.renderInto build painter buffer = .ok (next, drawn, damage)) :
    ScreenStep build target painter screen (.called (.rendered buffer)) []
      { core := next
        received := screen.received
        repainted := CoreEvent.repainted build painter screen.core (.rendered buffer) } := by
  refine .called ?_
  change (screen.core.renderInto build painter buffer >>= fun result => pure (result.1, [])) = _
  rw [returned]
  rfl

/-! ## Repaints and runs -/

end ExoBrowser.Client
