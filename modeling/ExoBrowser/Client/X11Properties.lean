import ExoBrowser.Client.X11Present

/-!
# What the X11 window shows

After every turn of the loop the window of the server shows the framebuffer, if it owes no
`Expose`, and the framebuffer shows the toolbar of the core as it is.
-/

set_option autoImplicit false

namespace ExoBrowser.Client

open Library Proto Checked

variable {config : X11Config}

/-! ## New sizes -/

theorem toNat_max32 (left right : UInt32) : (max left right).toNat = max left.toNat right.toNat := by
  have chosen : max left right = if left ≤ right then right else left := rfl
  rcases Nat.le_total left.toNat right.toNat with below | above
  · rw [chosen, if_pos (UInt32.le_iff_toNat_le.mpr below), Nat.max_eq_right below]
  · rw [chosen, Nat.max_eq_left above]
    split
    case isTrue below => exact Nat.le_antisymm above (UInt32.le_iff_toNat_le.mp below)
    case isFalse => rfl

namespace BrowserCore

variable {core : BrowserCore}

theorem onResize_winSize (w h : UInt32) :
    (core.onResize w h).winSize = (max w 64, max h (chromeH + 64)) := by
  unfold onResize
  simp only
  split
  case isTrue => rfl
  case isFalse same => exact not_not.mp same

/-- A new size leaves nothing of what was drawn. -/
theorem onResize_cases (w h : UInt32) :
    core.onResize w h = core ∨
      (core.onResize w h).chromeDirty = true ∧ (core.onResize w h).fullContentDirty = true := by
  unfold onResize
  simp only
  split
  case isTrue => exact .inr ⟨rfl, rfl⟩
  case isFalse => exact .inl rfl

theorem onResize_roomy {w h : UInt32} (w_high : w.toNat ≤ 65535) (h_high : h.toNat ≤ 65535) :
    (core.onResize w h).Roomy := by
  have size := core.onResize_winSize w h
  have wide : (core.onResize w h).window.bw.toNat = max w.toNat 64 := by
    rw [window, size, toNat_max32]
    rfl
  have tall : (core.onResize w h).window.bh.toNat = max h.toNat 160 := by
    rw [window, size, toNat_max32]
    rfl
  have chrome : chromeH.toNat = 96 := rfl
  exact ⟨by omega, by omega, by omega, by omega⟩

theorem Roomy.congr {next : BrowserCore} (roomy : core.Roomy) (same : next.winSize = core.winSize) :
    next.Roomy := by
  have window : next.window = core.window := by rw [BrowserCore.window, same]; rfl
  exact ⟨window ▸ roomy.wide, window ▸ roomy.tall, window ▸ roomy.narrow.wide, window ▸ roomy.narrow.tall⟩

end BrowserCore

theorem resizeWords_length_eq (words : List UInt32) (length : Nat) :
    (resizeWords words length).length = length := by
  unfold resizeWords
  simp only [List.length_append, List.length_take, List.length_replicate]
  omega

theorem resizeWords_of_length {words : List UInt32} {length : Nat} (same : words.length = length) :
    resizeWords words length = words := by
  subst same
  simp [resizeWords]

/-! ## In a turn -/

/-- What holds while a turn polls: what is not as the window shows it is marked. -/
structure Tracks (config : X11Config) (title : String) (drawable : Drawable) (owed : Nat)
    (core : BrowserCore) (framebuffer : List UInt32) : Prop where
  intact : core.Intact
  roomy : core.Roomy
  length : framebuffer.length = core.window.needed
  fresh : core.chromeDirty = true ∨
    core.drawChrome config.build config.font framebuffer = .ok framebuffer
  titled : core.chromeDirty = true ∨ core.windowTitle = title
  mirrored : 0 < owed ∨ core.chromeDirty = true ∧ core.fullContentDirty = true ∨
    drawable.Mirrors core.window framebuffer

namespace Tracks

variable {title : String} {drawable : Drawable} {owed : Nat} {core next : BrowserCore}
  {framebuffer : List UInt32}

theorem refreshed (tracks : Tracks config title drawable owed core framebuffer)
    (refreshed : Refreshed core next) (intact : next.Intact) :
    Tracks config title drawable owed next framebuffer := by
  have window : next.window = core.window := by rw [BrowserCore.window, refreshed.size]; rfl
  constructor
  case intact => exact intact
  case roomy => exact tracks.roomy.congr refreshed.size
  case length => exact tracks.length.trans (by rw [window])
  case fresh =>
      cases refreshed.toolbar with
      | inl dirty => exact .inl dirty
      | inr kept =>
          refine tracks.fresh.imp refreshed.dirty fun shown => ?_
          exact (congrFun (BrowserCore.drawChrome_congr kept.1) framebuffer).trans shown
  case titled =>
      cases refreshed.title with
      | inl dirty => exact .inl dirty
      | inr same => exact tracks.titled.imp refreshed.dirty same.trans
  case mirrored =>
      refine tracks.mirrored.imp id (Or.imp (fun both => ?_) fun mirrors => ?_)
      · exact ⟨refreshed.dirty both.1, refreshed.content both.2⟩
      · rw [window]
        exact mirrors

theorem exposed (tracks : Tracks config title drawable owed core framebuffer) (later : Nat) :
    Tracks config title drawable later { core with chromeDirty := true, fullContentDirty := true }
      framebuffer where
  intact := { tracks.intact with }
  roomy := tracks.roomy.congr rfl
  length := tracks.length
  fresh := .inl rfl
  titled := .inl rfl
  mirrored := .inr (.inl ⟨rfl, rfl⟩)

theorem resized (tracks : Tracks config title drawable owed core framebuffer) {w h : UInt32}
    (w_high : w.toNat ≤ 65535) (h_high : h.toNat ≤ 65535) :
    Tracks config title drawable owed (core.onResize w h)
      (resizeWords framebuffer (core.onResize w h).window.needed) := by
  cases core.onResize_cases w h with
  | inl same =>
      rw [same, resizeWords_of_length tracks.length]
      exact tracks
  | inr both =>
      exact {
        intact := tracks.intact.onResize w h
        roomy := BrowserCore.onResize_roomy w_high h_high
        length := resizeWords_length_eq _ _
        fresh := .inl both.1
        titled := .inl both.1
        mirrored := .inr (.inl both) }

theorem onPointerMove (tracks : Tracks config title drawable owed core framebuffer) (x y : Int32) :
    Tracks config title drawable owed (core.onPointerMove x y) framebuffer :=
  tracks.refreshed (.onPointerMove x y) (@BrowserCore.Intact.input config.build _ tracks.intact (.motion x y) _ rfl)

theorem onScroll (tracks : Tracks config title drawable owed core framebuffer) (dx dy : Int32) :
    Tracks config title drawable owed (core.onScroll dx dy) framebuffer :=
  tracks.refreshed (.onScroll dx dy) (@BrowserCore.Intact.input config.build _ tracks.intact (.scroll dx dy) _ rfl)

theorem x11ButtonPress (tracks : Tracks config title drawable owed core framebuffer) (detail : UInt8)
    (x y : Int16) : Yields (core.x11ButtonPress config.build detail x y) fun result =>
      Tracks config title drawable owed result.1 framebuffer := by
  refine .ite (fun _ => .bind fun next pressed => .pure ?_) fun _ => ?_
  · exact tracks.refreshed (.onMouseButton next pressed) (tracks.intact.onMouseButton next pressed)
  refine .ite (fun _ => .pure (tracks.onScroll _ _)) fun _ => ?_
  refine .ite (fun _ => .pure (tracks.onScroll _ _)) fun _ => ?_
  refine .ite (fun _ => .pure (tracks.onScroll _ _)) fun _ => ?_
  exact .ite (fun _ => .pure (tracks.onScroll _ _)) fun _ => .pure tracks

/-- What one event does. Only an `Expose` settles what is owed. -/
theorem handle (event : X11Event) {polled : X11Polled} {later : Nat}
    (tracks : Tracks config title drawable owed polled.core polled.framebuffer)
    (settles : event ≠ .expose → later = owed) :
    Yields (event.handle config polled) fun result => ∀ next ∈ result,
      Tracks config title drawable later next.core next.framebuffer := by
  have modified (mods : UInt32) :
      Tracks config title drawable owed { polled.core with mods } polled.framebuffer :=
    tracks.refreshed (.kept rfl rfl (.inl rfl) rfl) { tracks.intact with }
  cases event with
  | expose =>
      refine .pure ?_
      rintro _ ⟨⟩
      exact tracks.exposed later
  | configureNotify width height =>
      cases settles (by simp)
      have w_high : width.toUInt32.toNat ≤ 65535 := by
        rw [UInt16.toNat_toUInt32]
        exact Nat.le_of_lt_succ width.toNat_lt
      have h_high : height.toUInt32.toNat ≤ 65535 := by
        rw [UInt16.toNat_toUInt32]
        exact Nat.le_of_lt_succ height.toNat_lt
      have resized := tracks.resized w_high h_high
      refine .ite (fun _ => .bind fun needed product => .pure ?_) fun _ => .pure ?_
      · rintro _ ⟨⟩
        have narrow := resized.roomy.narrow
        have area : (polled.core.onResize width.toUInt32 height.toUInt32).window.bw.toNat *
            (polled.core.onResize width.toUInt32 height.toUInt32).window.bh.toNat < 2 ^ 32 :=
          Nat.lt_of_le_of_lt (Nat.mul_le_mul narrow.wide narrow.tall) (by decide)
        have value : needed.toNat =
            (polled.core.onResize width.toUInt32 height.toUInt32).window.needed := by
          rw [Build.mul32, if_pos (.inl area)] at product
          cases product
          rw [UInt32.toNat_mul]
          exact Nat.mod_eq_of_lt area
        rw [value]
        exact resized
      · rintro _ ⟨⟩
        exact tracks
  | motionNotify x y state =>
      cases settles (by simp)
      refine .pure ?_
      rintro _ ⟨⟩
      exact (modified _).onPointerMove _ _
  | buttonPress detail x y state =>
      cases settles (by simp)
      refine .bind fun result pressed => .pure ?_
      rintro _ ⟨⟩
      exact (modified _).x11ButtonPress detail x y result pressed
  | buttonRelease detail x y state =>
      cases settles (by simp)
      refine .ite (fun _ => .bind fun core released => .pure ?_) fun _ => .pure ?_
      · rintro _ ⟨⟩
        exact (modified _).refreshed (.onMouseButton core released)
          ((modified _).intact.onMouseButton core released)
      · rintro _ ⟨⟩
        exact modified _
  | key pressed detail state =>
      cases settles (by simp)
      refine .bind ?_
      rintro ⟨core, quits⟩ typed
      refine .pure ?_
      rintro _ ⟨⟩
      exact (modified _).refreshed (.onKey _ typed) ((modified _).intact.onKey _ typed)
  | clientMessage word =>
      cases settles (by simp)
      refine .pure ?_
      split
      case isTrue => exact fun _ absent => absurd absent (Option.not_mem_none _)
      case isFalse =>
        rintro _ ⟨⟩
        exact tracks
  | other =>
      cases settles (by simp)
      refine .pure ?_
      rintro _ ⟨⟩
      exact tracks

theorem poll (events : List X11Event) {polled : X11Polled} {owed : Nat}
    (tracks : Tracks config title drawable owed polled.core polled.framebuffer) :
    Yields (X11Event.poll config polled events) fun result => ∀ next ∈ result,
      Tracks config title drawable (owed - events.count .expose) next.core next.framebuffer := by
  induction events generalizing polled owed with
  | nil =>
      refine .pure ?_
      rintro _ ⟨⟩
      exact tracks
  | cons event rest ih =>
      refine .bind fun result handled => ?_
      cases result with
      | none => exact .pure fun _ absent => absurd absent (Option.not_mem_none _)
      | some next =>
          by_cases exposes : event = .expose
          · subst exposes
            have settled : Tracks config title drawable (owed - 1) next.core next.framebuffer :=
              handle .expose tracks (fun differs => absurd rfl differs) (some next) handled next rfl
            rw [List.count_cons_self, Nat.add_comm, ← Nat.sub_sub]
            exact ih settled
          · rw [List.count_cons_of_ne exposes]
            exact ih (handle event tracks (fun _ => rfl) (some next) handled next rfl)

theorem receive (waiting : List RenderEvent)
    (tracks : Tracks config title drawable owed core framebuffer) :
    Yields (core.receive config.build waiting) fun result => ∀ next ∈ result,
      Tracks config title drawable owed next framebuffer := by
  induction waiting generalizing core with
  | nil =>
      refine .pure ?_
      rintro _ ⟨⟩
      exact tracks
  | cons event rest ih =>
      refine .bind fun ⟨next, goesOn⟩ handled => .ite (fun _ => ?_) fun _ =>
        .pure fun _ absent => absurd absent (Option.not_mem_none _)
      refine ih (tracks.refreshed (.handleRenderEvent event _ handled) ?_)
      exact tracks.intact.handleRenderEvent event _ handled

end Tracks

/-! ## Between turns -/

/-- A window within the coordinates of X11, and tabs that can be counted. -/
structure X11Loop.Moderate (state : X11Loop) : Prop where
  wide : state.core.window.bw.toNat ≤ 2 ^ 15
  tall : state.core.window.bh.toNat ≤ 2 ^ 15
  few : state.core.tabs.length < 2 ^ 20

/-- What holds between the turns. -/
structure X11.Settled (config : X11Config) (x11 : X11) : Prop where
  intact : x11.client.core.Intact
  roomy : x11.client.core.Roomy
  length : x11.client.framebuffer.length = x11.client.core.window.needed
  clean : x11.client.core.chromeDirty = false
  fresh : x11.client.core.drawChrome config.build config.font x11.client.framebuffer =
    .ok x11.client.framebuffer
  titled : x11.client.core.windowTitle = x11.client.lastTitle
  named : x11.window.wmName = x11.client.lastTitle
  mirrored : 0 < x11.window.exposures ∨
    x11.window.drawable.Mirrors x11.client.core.window x11.client.framebuffer

theorem foldl_putImage (requests : List PutImage) (window : X11Window) :
    (requests.map X11Request.putImage).foldl X11Window.apply window =
      { window with
        drawable := requests.foldl (fun drawn request => request.onto drawn) window.drawable } := by
  induction requests generalizing window with
  | nil => rfl
  | cons request rest ih =>
      rw [List.map_cons, List.foldl_cons, ih]
      rfl

theorem foldl_apply_exposures (requests : List X11Request) (window : X11Window) (owed : Nat) :
    { requests.foldl X11Window.apply window with exposures := owed } =
      requests.foldl X11Window.apply { window with exposures := owed } := by
  induction requests generalizing window with
  | nil => rfl
  | cons request rest ih =>
      rw [List.foldl_cons, List.foldl_cons, ih]
      cases request with
      | wmName title => rfl
      | putImage request => rfl

/-- What was drawn and presented shows in the window. -/
theorem mirrors_of_presented {window : Window} {framebuffer drawn : List UInt32}
    {damage : List DamageRect} {requests : List PutImage} {drawable : Drawable}
    (reported : window.Reported framebuffer (drawn, damage))
    (copies : ∀ request ∈ requests, request.Copies window.bw.toNat drawn)
    (covers : ∀ col row : Nat, (∃ request ∈ requests, request.Covers col row) ↔
      ∃ rect ∈ damage, rect.Covers col row)
    (shown : drawable.Mirrors window framebuffer ∨ ∀ col < window.bw.toNat, ∀ row < window.bh.toNat,
      ∃ rect ∈ damage, rect.Covers col row) :
    Drawable.Mirrors (requests.foldl (fun drawn request => request.onto drawn) drawable) window drawn := by
  intro col col_lt row row_lt
  have laid := foldl_onto copies drawable col row
  by_cases covered : ∃ request ∈ requests, request.Covers col row
  · rw [if_pos covered] at laid
    exact laid
  · rw [if_neg covered] at laid
    rw [covers] at covered
    have mirrors := shown.resolve_right fun all => covered (all col col_lt row row_lt)
    have kept := not_not.mp (mt (reported.covered col col_lt row) covered)
    rw [laid, kept]
    exact mirrors col col_lt row row_lt

/-- A turn that draws leaves a window that shows the framebuffer, in which the toolbar is fresh. -/
theorem redraw_settles {state next : X11Loop} {window : X11Window} {title : String}
    {images : List X11Request}
    (tracks : Tracks config title window.drawable window.exposures state.core state.framebuffer)
    (returned : state.redraw config = .ok (next, images)) (moderate : next.Moderate)
    (titled : state.core.windowTitle = state.lastTitle) (named : window.wmName = state.lastTitle) :
    X11.Settled config { client := next, window := images.foldl X11Window.apply window } := by
  obtain ⟨⟨core, drawn, damage⟩, rendered, rest⟩ := bind_eq_ok returned
  obtain ⟨requests, presented, same⟩ := bind_eq_ok rest
  cases same
  obtain ⟨wide, tall, few⟩ := moderate
  have tabs : core.tabs = state.core.tabs := by
    obtain ⟨base, left, dirty, toastLeft, contentDirty, kept, same⟩ :=
      BrowserCore.renderInto_eq_ok rendered
    rw [same]
    rcases kept with rfl | rfl
    · rfl
    · rfl
  have after := BrowserCore.renderInto_rendered tracks.intact tracks.roomy (by rw [← tabs]; exact few)
    (Nat.le_of_eq tracks.length.symm) _ rendered
  have sameWindow : core.window = state.core.window := by rw [BrowserCore.window, after.winSize]; rfl
  have length : drawn.length = core.window.needed :=
    after.reported.length.trans (tracks.length.trans (by rw [sameWindow]))
  have near : ∀ rect ∈ damage, rect.Near core.window := by
    rw [sameWindow]
    exact after.near
  obtain ⟨found, presents, copies, covers⟩ :=
    @presentX11Damage_returns config.build core.window drawn damage near ⟨wide, tall, length⟩
  have same := presented.symm.trans presents
  cases same
  rw [foldl_putImage]
  constructor
  case intact => exact tracks.intact.renderInto _ _ rendered
  case roomy => exact tracks.roomy.congr after.winSize
  case length => exact length
  case clean => exact after.clean
  case fresh => exact after.fresh tracks.fresh
  case titled => exact after.title.trans titled
  case named => exact named
  case mirrored =>
      refine tracks.mirrored.imp id fun shown => ?_
      have reported : core.window.Reported state.framebuffer (drawn, damage) := sameWindow ▸ after.reported
      refine mirrors_of_presented reported copies covers ?_
      rw [sameWindow]
      exact shown.symm.imp id fun both => after.covered both.1 both.2

/-- A turn leaves the window settled. -/
theorem turn_settles {x11 : X11} (settled : x11.Settled config) {events : List X11Event}
    {arrived : Arrived} {next : X11Loop} {requests : List X11Request}
    (returned : x11.client.turn config events arrived = .ok (some (next, requests)))
    (moderate : next.Moderate) :
    X11.Settled config {
      client := next
      window := { requests.foldl X11Window.apply x11.window with
        exposures := x11.window.exposures - events.count .expose } } := by
  obtain ⟨client, window⟩ := x11
  obtain ⟨intact, roomy, length, clean, fresh, titled, named, mirrored⟩ := settled
  simp only at intact roomy length clean fresh titled named mirrored returned ⊢
  have start : Tracks config client.lastTitle window.drawable window.exposures client.core
      client.framebuffer := ⟨intact, roomy, length, .inr fresh, .inr titled, mirrored.imp id .inr⟩
  obtain ⟨polled, polls, rest⟩ := bind_eq_ok returned
  cases polled with
  | none => cases rest
  | some polled =>
      have tracks := start.poll events _ polls polled rfl
      cases heard : arrived.events? with
      | none =>
          simp only [heard] at rest
          cases rest
      | some waiting =>
          simp only [heard] at rest
          obtain ⟨received, receives, rest⟩ := bind_eq_ok rest
          cases received with
          | none => cases rest
          | some core =>
              replace tracks := tracks.receive waiting _ receives core rfl
              rw [foldl_apply_exposures]
              simp only at rest
              split at rest
              case isTrue =>
                  obtain ⟨⟨drawn, made⟩, draws, same⟩ := bind_eq_ok rest
                  cases same
                  obtain ⟨⟨after, images⟩, redraws, same⟩ := bind_eq_ok draws
                  cases same
                  rw [List.foldl_append]
                  refine @redraw_settles config _ _ _ client.lastTitle _ ?_ redraws moderate rfl ?_
                  · split
                    case isTrue => exact tracks
                    case isFalse => exact tracks
                  · split
                    case isTrue => rfl
                    case isFalse unchanged => exact named.trans (not_not.mp unchanged).symm
              case isFalse quiet =>
                  cases rest
                  obtain ⟨_, _, clean, full, _⟩ : waiting.isEmpty = true ∧ polled.dirty = false ∧
                      core.chromeDirty = false ∧ core.fullContentDirty = false ∧
                      core.pendingDamage = [] := by simpa using quiet
                  have notDirty : ¬ core.chromeDirty = true := by simp [clean]
                  constructor
                  case intact => exact tracks.intact
                  case roomy => exact tracks.roomy
                  case length => exact tracks.length
                  case clean => exact clean
                  case fresh => exact tracks.fresh.resolve_left notDirty
                  case titled => exact tracks.titled.resolve_left notDirty
                  case named => exact named
                  case mirrored => exact tracks.mirrored.imp id fun shown =>
                    shown.resolve_left fun both => notDirty both.1

/-! ## Runs -/

theorem redraw_kept {state next : X11Loop} {images : List X11Request}
    (returned : state.redraw config = .ok (next, images)) :
    ∃ base left dirty toastLeft contentDirty, (base = state.core ∨ base = state.core.contentDone) ∧
      next.core = { base with
        audioPlayingFramesLeft := left
        chromeDirty := dirty
        statusToastFramesLeft := toastLeft
        fullContentDirty := contentDirty } := by
  obtain ⟨⟨core, drawn, damage⟩, rendered, rest⟩ := bind_eq_ok returned
  obtain ⟨requests, presented, same⟩ := bind_eq_ok rest
  cases same
  exact BrowserCore.renderInto_eq_ok rendered

/-- A window that is opened, before it is drawn. -/
def X11Loop.opened (width height : UInt32) (initialUrl : String) (editing : Bool) : X11Loop where
  core := .newNoStd width height initialUrl editing
  framebuffer := List.replicate (width.toNat * height.toNat) background
  lastTitle := "ExoBrowser"

theorem opened_tracks {width height : UInt32} {initialUrl : String} {editing : Bool}
    (wide : 64 ≤ width.toNat) (tall : chromeH.toNat + 64 ≤ height.toNat) (narrow : width.toNat ≤ 65535)
    (low : height.toNat ≤ 65535) (drawable : Drawable) (owed : Nat) :
    Tracks config "ExoBrowser" drawable owed (X11Loop.opened width height initialUrl editing).core
      (X11Loop.opened width height initialUrl editing).framebuffer where
  intact := .newNoStd width height initialUrl editing
  roomy := ⟨wide, tall, narrow, low⟩
  length := List.length_replicate
  fresh := .inl rfl
  titled := .inr rfl
  mirrored := .inr (.inl ⟨rfl, rfl⟩)

theorem start_eq_redraw {width height : UInt32} {initialUrl : String} {editing : Bool}
    (narrow : width.toNat ≤ 65535) (low : height.toNat ≤ 65535) :
    X11Loop.start config width height initialUrl editing =
      (X11Loop.opened width height initialUrl editing).redraw config := by
  have area : width.toNat * height.toNat < 2 ^ 32 :=
    Nat.lt_of_le_of_lt (Nat.mul_le_mul narrow low) (by decide)
  unfold X11Loop.start
  rw [Build.mul32, if_pos (.inl area), ok_bind, UInt32.toNat_mul, Nat.mod_eq_of_lt area]
  rfl

/-- The window is settled before the first turn. -/
theorem begin_settles {width height : UInt32} {initialUrl : String} {editing : Bool}
    {first : X11Loop × List X11Request} (wide : 64 ≤ width.toNat)
    (tall : chromeH.toNat + 64 ≤ height.toNat) (narrow : width.toNat ≤ 2 ^ 15)
    (low : height.toNat ≤ 2 ^ 15)
    (started : X11Loop.start config width height initialUrl editing = .ok first) (blank : Drawable) :
    X11.Settled config (.begin blank first) ∧ first.1.Moderate := by
  obtain ⟨loop, images⟩ := first
  rw [start_eq_redraw (by omega) (by omega)] at started
  have moderate : loop.Moderate := by
    obtain ⟨base, left, dirty, toastLeft, contentDirty, kept, same⟩ := redraw_kept started
    have kept : loop.core.winSize = (width, height) ∧ loop.core.tabs.length = 1 := by
      rw [same]
      cases kept with
      | inl same => rw [same]; exact ⟨rfl, rfl⟩
      | inr same => rw [same]; exact ⟨rfl, rfl⟩
    obtain ⟨size, one⟩ := kept
    have window : loop.core.window = ⟨width, height⟩ := by rw [BrowserCore.window, size]
    exact ⟨by rw [window]; exact narrow, by rw [window]; exact low, by rw [one]; decide⟩
  refine ⟨?_, moderate⟩
  exact @redraw_settles config _ _ { drawable := blank, wmName := "ExoBrowser", exposures := 0 } _ _
    (opened_tracks wide tall (by omega) (by omega) blank 0) started moderate rfl rfl

theorem redraw_returns {state : X11Loop} {title : String} {drawable : Drawable} {owed : Nat}
    (tracks : Tracks config title drawable owed state.core state.framebuffer)
    (wide : state.core.window.bw.toNat ≤ 2 ^ 15) (tall : state.core.window.bh.toNat ≤ 2 ^ 15)
    (few : state.core.tabs.length < 2 ^ 20) (rows : state.core.RowsFit)
    (calm : state.core.Calm config.build) : ∃ result, state.redraw config = .ok result := by
  have holds : state.core.window.needed ≤ state.framebuffer.length := Nat.le_of_eq tracks.length.symm
  obtain ⟨⟨core, drawn, damage⟩, rendered⟩ := (@BrowserCore.renderInto_reported config.build config.font _ _
    tracks.intact rows tracks.roomy.narrow few (tracks.roomy.accepts holds)).returns calm
  have after := BrowserCore.renderInto_rendered tracks.intact tracks.roomy few holds _ rendered
  have sameWindow : core.window = state.core.window := by rw [BrowserCore.window, after.winSize]; rfl
  have length : drawn.length = core.window.needed :=
    after.reported.length.trans (tracks.length.trans (by rw [sameWindow]))
  have near : ∀ rect ∈ damage, rect.Near core.window := by
    rw [sameWindow]
    exact after.near
  obtain ⟨requests, presented, _⟩ := @presentX11Damage_returns config.build core.window drawn damage near
    ⟨sameWindow ▸ wide, sameWindow ▸ tall, length⟩
  refine ⟨({ state with core, framebuffer := drawn }, requests.map .putImage), ?_⟩
  unfold X11Loop.redraw
  rw [rendered, ok_bind]
  change presentX11Damage config.build core.window.bw drawn damage >>= _ = _
  rw [presented]
  rfl

def plainConfig : X11Config where
  build := ⟨true⟩
  font := fun _ => none
  keymap := { minKeycode := 8, keysymsPerKeycode := 1, keysyms := [] }
  wmDeleteWindow := 0

end ExoBrowser.Client
