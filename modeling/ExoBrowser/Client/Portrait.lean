import ExoBrowser.Client.Composition
import ExoBrowser.Host.Screen

/-!
# What messages make of the content area

A core with the toolbar of the `no_std` build portrays a picture: its next render shows it.
Frames and rectangles edit the picture as they edit that of any other subscriber, and the
other messages that reach a client on one tab leave it.
-/

set_option autoImplicit false

namespace ExoBrowser.Client

open Library Proto Checked

variable {build : Build} {font : BasicFonts}

/-! ## Messages as edits -/

namespace Window

/-- The content area of a window. -/
def view (window : Window) : View Bytes UInt32 where
  width := window.bw.toNat
  height := window.contentH.toNat
  beside := background
  shade pixel := bgrWord pixel 0

/-- What a message makes of the picture in the content area. -/
def depicted (window : Window) (picture : Picture UInt32) (m : Message) : Picture UInt32 :=
  match RenderEvent.fromProtoMessage m with
  | some event => window.pictured picture event
  | none => picture

variable {window : Window}

theorem bgrWord_pixelAt (pixels : Bytes) (stride col row : Nat) :
    bgrWord (Host.pixelAt pixels stride col row) 0 = bgrWord pixels (row * stride + 4 * col) :=
  bgrWord_slice (i := 0) (by decide)

theorem framed_eq_view (window : Window) (f : GfxFrame) :
    window.framed f = {
      width := window.view.width
      height := window.view.height
      pixel := window.view.target f.width.toNat f.height.toNat
        (Host.pixelAt f.pixels f.stride.toNat) } := by
  unfold framed framePixel View.target
  congr 1
  funext col row
  simp only [view, bgrWord_pixelAt]

end Window

/-- What a client on one tab can be sent: frames with whole rows and no tiles, and nothing that
opens, closes or selects a tab. -/
def Portrayable (m : Message) : Prop :=
  match RenderEvent.fromProtoMessage m with
  | some (.frame f) => (RenderEvent.frame f).Pictorial
  | some (.subframe s) => (RenderEvent.subframe s).Pictorial
  | some (.tileRef ..) | some (.tabCreated ..) | some (.tabClosed _) | some (.tabActivated _) => False
  | _ => True

/-- The pixels arrive as they were sent. -/
def Lossless : Message → Prop
  | .rawFrame _ _ _ _ _ compression _ => compression ≠ Compression.lz4DeltaQ2
  | .subframe _ _ _ _ _ _ _ compression _ => compression ≠ Compression.lz4DeltaQ2
  | _ => True

section Edits

variable {window : Window} {target : Target}

/-- A client shows what any subscriber shows. -/
theorem replay_seenEdits_singleton {m : Message} (lossless : Lossless m) (picture : Picture UInt32) :
    replay (Host.seenEdits window.view target [m]) (some picture) = some (window.depicted picture m) := by
  unfold Host.seenEdits Host.editsOf
  cases m with
  | rawFrame tsUs w h stride format compression pixels =>
      simp only [List.filterMap_cons, Host.editOf, Host.receivedPixels_of_ne lossless,
        List.filterMap_nil, List.map_cons, List.map_nil, replay_cons, replay_nil]
      refine congrArg some ?_
      exact (Window.framed_eq_view window { width := w.toUInt32, height := h.toUInt32, stride, pixels }).symm
  | subframe tsUs x y w h stride format compression pixels =>
      simp only [List.filterMap_cons, Host.editOf, Host.receivedPixels_of_ne lossless,
        List.filterMap_nil, List.map_cons, List.map_nil, replay_cons, replay_nil, View.edit, Edit.apply,
        Option.map_some]
      refine congrArg some ?_
      unfold Window.depicted
      simp only [RenderEvent.fromProtoMessage, Window.pictured, Window.overlaid]
      simp only [Window.view, Window.bgrWord_pixelAt]
      rfl
  | welcome protoVersion sessionId features cursorTrackId url =>
      simp only [Window.depicted, RenderEvent.fromProtoMessage]
      cases url.isEmpty <;> rfl
  | _ => rfl

theorem replay_seenEdits {messages : List Message} (lossless : ∀ m ∈ messages, Lossless m)
    (picture : Picture UInt32) :
    replay (Host.seenEdits window.view target messages) (some picture) =
      some (messages.foldl window.depicted picture) := by
  induction messages generalizing picture with
  | nil => rfl
  | cons m messages ih =>
      obtain ⟨here, rest⟩ := List.forall_mem_cons.mp lossless
      rw [← List.singleton_append, Host.seenEdits_append, replay_append,
        replay_seenEdits_singleton here picture]
      exact ih rest _

end Edits

/-! ## Cores that portray -/

namespace BrowserCore

/-- The next render shows the picture in the content area. -/
structure Portrays (core : BrowserCore) (window : Window) (canvas : List UInt32)
    (picture : Picture UInt32) : Prop where
  window : core.window = window
  few : core.tabs.length < 2 ^ 20
  intact : core.Intact
  rows : core.RowsFit
  subframes : ∀ s ∈ core.pendingSubframes,
    s.x.toNat + s.w.toNat < 2 ^ 32 ∧ s.y.toNat + s.h.toNat < 2 ^ 32
  tiles : core.pendingTiles = []
  toast : core.statusToastFramesLeft = 0
  length : canvas.length = core.window.needed
  due : (core.due canvas).Shows picture.width picture.height picture.pixel

/-- Nothing that the content area is drawn from is changed. -/
structure Undisturbed (core next : BrowserCore) : Prop where
  pictures : SamePictures core next
  winSize : next.winSize = core.winSize
  tabs : next.tabs.length = core.tabs.length
  content : next.fullContentDirty = core.fullContentDirty
  toast : next.statusToastFramesLeft = core.statusToastFramesLeft

variable {core next : BrowserCore} {window : Window} {canvas : List UInt32} {picture : Picture UInt32}

namespace Undisturbed

theorem due (undisturbed : core.Undisturbed next) : next.due canvas = core.due canvas := by
  obtain ⟨pictures, winSize, _, content, _⟩ := undisturbed
  unfold BrowserCore.due underlay wholePixel BrowserCore.window
  rw [pictures.pendingSubframes, pictures.pendingFrames, winSize, content]

theorem portrays (undisturbed : core.Undisturbed next) (portrays : core.Portrays window canvas picture) :
    next.Portrays window canvas picture where
  window := by
    rw [BrowserCore.window, undisturbed.winSize]
    exact portrays.window
  few := undisturbed.tabs ▸ portrays.few
  intact := portrays.intact.same undisturbed.pictures
  rows := by
    constructor
    · rw [undisturbed.pictures.pendingFrames]
      exact portrays.rows.frames
    · rw [undisturbed.pictures.pendingSubframes]
      exact portrays.rows.subframes
  subframes := by
    rw [undisturbed.pictures.pendingSubframes]
    exact portrays.subframes
  tiles := undisturbed.pictures.pendingTiles.trans portrays.tiles
  toast := undisturbed.toast.trans portrays.toast
  length := by
    rw [BrowserCore.window, undisturbed.winSize]
    exact portrays.length
  due := undisturbed.due ▸ portrays.due

end Undisturbed

theorem length_modifyFirst (tabId : UInt32) (change : TabInfo → TabInfo) (tabs : List TabInfo) :
    (modifyFirst tabId change tabs).length = tabs.length := by
  induction tabs with
  | nil => rfl
  | cons tab tabs ih =>
      unfold modifyFirst
      split
      case isTrue => rfl
      case isFalse => exact congrArg Nat.succ ih

/-- What is shown beside the content area is told in these. -/
def Aside : RenderEvent → Prop
  | .audio .. | .cursorShape _ | .loadState _ | .initialUrl _ | .title _ | .urlChanged _
  | .tabTitle .. | .tabUrl .. | .quit => True
  | _ => False

theorem undisturbed_of_aside {event : RenderEvent} (aside : Aside event) :
    Yields (core.handleRenderEvent build event) fun result => core.Undisturbed result.1 := by
  have pictures {result : BrowserCore × Bool} (pictureless : event.Pictureless)
      (handled : core.handleRenderEvent build event = .ok result) : SamePictures core result.1 :=
    samePictures_handleRenderEvent pictureless result handled
  intro result handled
  cases event with
  | audio ptsUs channels sampleRate data =>
      have same := pictures trivial handled
      obtain ⟨played, queued, pure⟩ := bind_eq_ok handled
      cases pure
      obtain ⟨duration, _, timed⟩ := bind_eq_ok queued
      obtain ⟨master, _, pure⟩ := bind_eq_ok timed
      cases pure
      exact ⟨same, rfl, rfl, rfl, rfl⟩
  | cursorShape shape =>
      have same := pictures trivial handled
      cases handled
      exact ⟨same, rfl, rfl, rfl, rfl⟩
  | loadState load =>
      have same := pictures trivial handled
      cases handled
      exact ⟨same, rfl, length_modifyFirst _ _ _, rfl, rfl⟩
  | initialUrl url =>
      have same := pictures trivial handled
      cases handled
      exact ⟨same, rfl, length_modifyFirst _ _ _, rfl, rfl⟩
  | title newTitle =>
      have same := pictures trivial handled
      cases handled
      exact ⟨same, rfl, length_modifyFirst _ _ _, rfl, rfl⟩
  | urlChanged url =>
      have same := pictures trivial handled
      cases handled
      exact ⟨same, rfl, length_modifyFirst _ _ _, rfl, rfl⟩
  | tabTitle tabId newTitle =>
      have same := pictures trivial handled
      cases handled
      refine ⟨same, ?_, ?_, ?_, ?_⟩
      all_goals
        simp only [onTabTitle]
        cases core.findTab tabId with
        | none => rfl
        | some tab => simp only [modifyTab, length_modifyFirst]
  | tabUrl tabId url =>
      have same := pictures trivial handled
      cases handled
      refine ⟨same, ?_, ?_, ?_, ?_⟩
      all_goals
        simp only [onTabUrl]
        cases core.findTab tabId with
        | none => rfl
        | some tab => simp only [modifyTab, length_modifyFirst]
  | quit =>
      have same := pictures trivial handled
      cases handled
      exact ⟨same, rfl, rfl, rfl, rfl⟩
  | _ => exact aside.elim

theorem onFrame_portrays (portrays : core.Portrays window canvas picture) {f : GfxFrame}
    (pictorial : (RenderEvent.frame f).Pictorial) :
    Yields (core.onFrame build f) fun next => next.Portrays window canvas (window.framed f) := by
  obtain ⟨wide, tall, whole⟩ := pictorial
  obtain rfl := portrays.window
  intro next returned
  rw [onFrame_of_taken ⟨wide, tall, whole.tall⟩] at returned
  obtain ⟨seen, _, same⟩ := bind_eq_ok returned
  cases same
  exact { portrays with
    intact := { portrays.intact with
      frames := List.forall_mem_singleton.mpr whole.tall
      subframes := nofun }
    rows := ⟨List.forall_mem_singleton.mpr whole.wide, nofun⟩
    subframes := nofun
    tiles := rfl
    due := ⟨rfl, rfl, fun _ _ _ _ => rfl⟩ }

theorem onSubframe_portrays (portrays : core.Portrays window canvas picture) {s : GfxSubframe}
    (pictorial : (RenderEvent.subframe s).Pictorial) :
    Yields (core.onSubframe build s) fun next =>
      next.Portrays window canvas (Window.overlaid picture s) := by
  obtain ⟨wide, tall, whole, x, y, w, h⟩ := pictorial
  intro next returned
  rw [onSubframe_of_taken ⟨wide, tall, whole.tall⟩] at returned
  obtain ⟨seen, _, same⟩ := bind_eq_ok returned
  cases same
  have inside : s.x.toNat + s.w.toNat < 2 ^ 32 ∧ s.y.toNat + s.h.toNat < 2 ^ 32 :=
    ⟨by omega, by omega⟩
  have due : (Window.overlaid (core.due canvas) s).Shows picture.width picture.height
      (Window.overlaid picture s).pixel := portrays.due.patch _ _
  exact { portrays with
    intact := { portrays.intact with
      subframes := List.forall_mem_append.mpr
        ⟨portrays.intact.subframes, List.forall_mem_singleton.mpr whole.tall⟩ }
    rows := ⟨portrays.rows.frames, List.forall_mem_append.mpr
      ⟨portrays.rows.subframes, List.forall_mem_singleton.mpr whole.wide⟩⟩
    subframes := List.forall_mem_append.mpr
      ⟨portrays.subframes, List.forall_mem_singleton.mpr inside⟩
    due := by
      rw [BrowserCore.due, takeSubframe_pendingSubframes, List.foldl_append]
      exact due }

theorem applyMessage_portrays (portrays : core.Portrays window canvas picture) {m : Message}
    (portrayable : Portrayable m) :
    Yields (core.applyMessage build m) fun next =>
      next.Portrays window canvas (window.depicted picture m) := by
  intro next applied
  unfold applyMessage at applied
  unfold Portrayable at portrayable
  unfold Window.depicted
  cases told : RenderEvent.fromProtoMessage m with
  | none =>
      rw [told] at applied
      cases applied
      exact portrays
  | some event =>
      rw [told] at applied portrayable
      obtain ⟨result, handled, same⟩ := bind_eq_ok applied
      cases same
      have aside (silent : Aside event) : result.1.Portrays window canvas picture :=
        Undisturbed.portrays (undisturbed_of_aside silent result handled) portrays
      cases event with
      | frame f =>
          obtain ⟨taken, returned, same⟩ := bind_eq_ok handled
          cases same
          exact onFrame_portrays portrays portrayable taken returned
      | subframe s =>
          obtain ⟨taken, returned, same⟩ := bind_eq_ok handled
          cases same
          exact onSubframe_portrays portrays portrayable taken returned
      | tileData hash pixels =>
          cases handled
          have cached : (core.onTileData hash pixels).Intact := portrays.intact.onTileData hash pixels
          simp only [Window.pictured]
          unfold onTileData at cached ⊢
          split
          case isTrue large =>
            rw [if_pos large] at cached
            exact { portrays with intact := cached, rows := { portrays.rows with } }
          case isFalse => exact portrays
      | tileRef | tabCreated | tabClosed | tabActivated => exact portrayable.elim
      | _ => exact aside trivial

theorem applyMessages_portrays (portrays : core.Portrays window canvas picture) {messages : List Message}
    (portrayable : ∀ m ∈ messages, Portrayable m) :
    Yields (messages.foldlM (applyMessage build) core) fun next =>
      next.Portrays window canvas (messages.foldl window.depicted picture) := by
  induction messages generalizing core picture with
  | nil =>
      intro next applied
      cases applied
      exact portrays
  | cons m messages ih =>
      obtain ⟨here, rest⟩ := List.forall_mem_cons.mp portrayable
      intro next applied
      rw [List.foldlM_cons] at applied
      obtain ⟨between, first, later⟩ := bind_eq_ok applied
      exact ih (applyMessage_portrays portrays here between first) rest next later

/-! ## Renders -/

theorem foldl_overlaid_shows (subframes : List GfxSubframe) {first second : Picture UInt32}
    (shows : first.Shows second.width second.height second.pixel) :
    (subframes.foldl Window.overlaid first).Shows (subframes.foldl Window.overlaid second).width
      (subframes.foldl Window.overlaid second).height
      (subframes.foldl Window.overlaid second).pixel := by
  induction subframes generalizing first second with
  | nil => exact shows
  | cons s subframes ih => exact ih (shows.patch _ _)

/-- Only what the canvas shows in the content area is due. -/
theorem due_of_agree {other : List UInt32} (visible : 0 < core.window.contentH.toNat)
    (agree : ∀ col < core.window.bw.toNat, ∀ row, core.window.Content col row →
      other[cell core.window.bw.toNat col row]? = canvas[cell core.window.bw.toNat col row]?) :
    (core.due other).Shows (core.due canvas).width (core.due canvas).height (core.due canvas).pixel := by
  refine foldl_overlaid_shows core.pendingSubframes ⟨rfl, rfl, fun col col_lt row row_lt => ?_⟩
  have height := Window.chromeH_add_contentH visible
  unfold underlay
  cases core.wholePixel with
  | some pixel => rfl
  | none =>
      have row_lt : row < core.window.contentH.toNat := row_lt
      simp only [List.getD_eq_getElem?_getD]
      rw [agree col col_lt (chromeH.toNat + row) ⟨by omega, by omega⟩]

theorem Portrays.presents (portrays : core.Portrays window canvas picture) {drawn : List UInt32}
    (shown : core.window.Presents drawn (core.due canvas)) : window.Presents drawn picture := by
  obtain ⟨width_eq, height_eq, same⟩ := portrays.due
  have width := shown.width
  have height := shown.height
  obtain rfl := portrays.window
  refine ⟨by rw [← width_eq, width], by rw [← height_eq, height], fun col col_lt row row_lt => ?_⟩
  rw [shown.pixel col col_lt row row_lt, same col (by omega) row (by omega)]

/-- What a canvas presents is due when everything is drawn. -/
theorem Portrays.contentDone (portrays : core.Portrays window canvas picture) {drawn : List UInt32}
    (length : drawn.length = canvas.length) (presents : window.Presents drawn picture) :
    core.contentDone.Portrays window drawn picture where
  window := portrays.window
  few := portrays.few
  intact := { portrays.intact with frames := nofun, subframes := nofun }
  rows := ⟨nofun, nofun⟩
  subframes := nofun
  tiles := rfl
  toast := portrays.toast
  length := length.trans portrays.length
  due := by
    have same : core.contentDone.window = window := portrays.window
    refine ⟨?_, ?_, fun col col_lt row row_lt => ?_⟩
    · rw [presents.width, ← same]
      rfl
    · rw [presents.height, ← same]
      rfl
    · rw [presents.width] at col_lt
      rw [presents.height] at row_lt
      change drawn.getD (cell core.contentDone.window.bw.toNat col (chromeH.toNat + row)) 0 = _
      rw [same, List.getD_eq_getElem?_getD, presents.pixel col col_lt row row_lt, Option.getD_some]

theorem tickAudio_portrays (portrays : core.Portrays window canvas picture) :
    core.tickAudio.Portrays window canvas picture := by
  obtain ⟨left, dirty, same⟩ := tickAudio_eq core
  rw [same]
  exact { portrays with intact := { portrays.intact with }, rows := { portrays.rows with } }

/-- The toolbar is drawn above the content area. -/
theorem Portrays.chromeDrawn (portrays : core.Portrays window canvas picture)
    (visible : 0 < window.contentH.toNat) {drawn : List UInt32}
    (toolbar : core.window.Toolbar canvas drawn) :
    BrowserCore.Portrays { core with chromeDirty := false } window drawn picture where
  window := portrays.window
  few := portrays.few
  intact := { portrays.intact with }
  rows := { portrays.rows with }
  subframes := portrays.subframes
  tiles := portrays.tiles
  toast := portrays.toast
  length := toolbar.length.trans portrays.length
  due := by
    have drawn : (core.due drawn).Shows (core.due canvas).width (core.due canvas).height
        (core.due canvas).pixel := by
      refine due_of_agree (portrays.window ▸ visible) fun col col_lt row inside => ?_
      exact toolbar.outside col col_lt row fun above => absurd inside.1 (Nat.not_le.mpr above.1)
    exact drawn.trans portrays.due

/-- A render shows the picture. -/
theorem renderInto_portrays (narrow : core.Narrow) (tall : chromeH.toNat < window.bh.toNat)
    (wide : 0 < window.bw.toNat) (portrays : core.Portrays window canvas picture) :
    Returns (core.renderInto build (noStdPainter build font) canvas) fun next =>
      next.1.Portrays window next.2.1 picture ∧ window.Presents next.2.1 picture := by
  have ticked := tickAudio_portrays portrays
  obtain ⟨left, dirty, same⟩ := tickAudio_eq core
  have narrowTicked : core.tickAudio.Narrow := by
    rw [same]
    exact { narrow with }
  obtain rfl := portrays.window
  have visible : 0 < core.window.contentH.toNat := by
    rw [Window.contentH, toNat_contentHeight]
    omega
  have accepted : ¬ (core.window.bw = 0 ∨ core.window.bh = 0 ∨ canvas.length < core.window.needed) := by
    have length := portrays.length
    rintro (flat | flat | short)
    · rw [flat] at wide
      exact absurd wide (by decide)
    · rw [flat] at tall
      exact absurd tall (by decide)
    · omega
  unfold renderInto
  rw [if_neg accepted]
  have chrome : Returns (core.tickAudio.renderChrome (noStdPainter build font) canvas) _ :=
    renderChrome_returns narrowTicked ticked.few (Nat.le_of_eq ticked.length.symm)
  refine chrome.bind ?_
  rintro ⟨base, drawn, damage⟩ ⟨same, toolbar, _⟩
  simp only at same toolbar
  have based : base.Portrays core.window drawn picture := same ▸ ticked.chromeDrawn visible toolbar
  have narrowBase : base.Narrow := by
    rw [same]
    exact { narrowTicked with }
  have shows : base.window.contentH > 0 := UInt32.lt_iff_toNat_lt.mpr (based.window ▸ visible)
  have content : Returns (base.renderContent build drawn damage) _ :=
    renderContent_presents based.intact based.rows narrowBase based.subframes based.tiles
      (based.window ▸ visible) (Nat.le_of_eq based.length.symm) damage
  simp only
  rw [if_pos shows]
  refine content.bind ?_
  rintro ⟨content, damaged⟩ ⟨length, shown⟩
  have presents := based.presents shown
  have done := based.contentDone length presents
  simp only [renderOverlay_of_none done.toast done.intact.synthCursor]
  exact ⟨_, rfl, done, presents⟩

end BrowserCore

end ExoBrowser.Client
