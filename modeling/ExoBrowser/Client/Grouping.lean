import ExoBrowser.Client.Layers
import ExoBrowser.Library.Deferred

/-!
# Tiles and subframes

Tiles are drawn over the subframes that wait with them, with the pixels that the cache has by
then. At which pixels the renders in between matter can be told from the events.
-/

set_option autoImplicit false

namespace ExoBrowser.Client

open Library Proto Checked

/-- The corner and the hash of a tile. -/
abbrev TileKey := UInt32 × UInt32 × UInt64

abbrev TileCache := UInt64 → Option (List UInt32)

/-! ## Events at a pixel -/

/-- What a cached tile has at a pixel. -/
def tileColour (tileCache : TileCache) (col row : Nat) (key : TileKey) : UInt32 :=
  match tileCache key.2.2 with
  | some tile => Window.tilePixel tile key.1 key.2.1 col row
  | none => 0

/-- The words of a tile whose pixels are complete. -/
def tileWords (pixels : Bytes) : List UInt32 :=
  copyBgraRowToU32 (pixels.take (BrowserCore.tileSide * BrowserCore.tileSide * 4))
    (List.replicate (BrowserCore.tileSide * BrowserCore.tileSide) 0)

def TileCache.insert (tileCache : TileCache) (hash : UInt64) (words : List UInt32) : TileCache :=
  fun key => if key = hash then some words else tileCache key

namespace RenderEvent

/-- The tile cache after an event. -/
def cached (tileCache : TileCache) : RenderEvent → TileCache
  | .tileData hash pixels =>
      if pixels.length ≥ BrowserCore.tileSide * BrowserCore.tileSide * 4 then
        tileCache.insert hash (tileWords pixels)
      else tileCache
  | _ => tileCache

theorem cached_tileData {tileCache : TileCache} {hash : UInt64} {pixels : Bytes}
    (long : BrowserCore.tileSide * BrowserCore.tileSide * 4 ≤ pixels.length) :
    (tileData hash pixels).cached tileCache = tileCache.insert hash (tileWords pixels) := if_pos long

/-- What an event means for a pixel. A reference to a tile that is not cached is dropped. -/
def draws (tileCache : TileCache) (col row : Nat) : RenderEvent → Deferred.Event UInt32 TileKey
  | .frame f => if f.Taken then .replace (Window.framePixel f col row) else .keep
  | .subframe s =>
      if s.Taken ∧ Window.Covers s.x s.y s.w s.h col row then .cover (Window.subframePixel s col row)
      else .keep
  | .tileData hash pixels => .store (tileColour ((RenderEvent.tileData hash pixels).cached tileCache) col row)
  | .tileRef x y w h hash =>
      if (w = 64 ∧ h = 64 ∧ (tileCache hash).isSome) ∧ Window.Covers x y 64 64 col row then
        .refer (x, y, hash)
      else .keep
  | _ => .keep

theorem draws_subframe {tileCache : TileCache} {s : GfxSubframe} {col row : Nat} (taken : s.Taken)
    (covers : Window.Covers s.x s.y s.w s.h col row) :
    (subframe s).draws tileCache col row = .cover (Window.subframePixel s col row) :=
  if_pos ⟨taken, covers⟩

theorem draws_tileRef {tileCache : TileCache} {x y w h : UInt32} {hash : UInt64} {col row : Nat}
    (known : w = 64 ∧ h = 64 ∧ (tileCache hash).isSome) (covers : Window.Covers x y 64 64 col row) :
    (tileRef x y w h hash).draws tileCache col row = .refer (x, y, hash) := if_pos ⟨known, covers⟩

end RenderEvent

theorem tileColour_insert (tileCache : TileCache) (hash : UInt64) (words : List UInt32) (x y : UInt32)
    (col row : Nat) : tileColour (tileCache.insert hash words) col row (x, y, hash) =
      Window.tilePixel words x y col row := by
  simp [tileColour, TileCache.insert]

/-- The events at a pixel, in the order of their arrival. -/
def drawnAt (col row : Nat) : TileCache → List RenderEvent → List (Deferred.Event UInt32 TileKey)
  | _, [] => []
  | tileCache, event :: events =>
      event.draws tileCache col row :: drawnAt col row (event.cached tileCache) events

/-- A pixel of a new window. -/
def freshPixel : Deferred UInt32 TileKey where
  under := background
  referred := none
  contents _ := 0

/-- No render between the events, or after them, changes how the pixel ends: what lies over it last
is a tile that keeps its colour there, or a subframe that no tile before it, since the last frame,
differs from. -/
def Settled (events : List RenderEvent) (col row : Nat) : Bool :=
  (freshPixel.arrived.run (drawnAt col row (fun _ => none) events)).settled

/-! ## Cores and pixels -/

def Painter.DrawsInto (painter : Painter) (window : Window) (size : Nat) : Prop :=
  ∀ core : BrowserCore, core.window = window → core.tabs.length = 1 →
    ∀ canvas : List UInt32, canvas.length = size → (painter.chrome core canvas).isSome

namespace RenderEvent

/-- Frames, subframes and tiles whose strides are as wide as their rows. -/
def WellStrided : RenderEvent → Prop
  | .frame f => 4 * f.width.toNat ≤ f.stride.toNat
  | .subframe s => 4 * s.w.toNat ≤ s.stride.toNat
  | .tileData _ _ => True
  | .tileRef _ _ _ _ _ => True
  | _ => False

/-- The far corner is in 32 bits, as it always is for corners and sizes of 16 bits. -/
def Cornered : RenderEvent → Prop
  | .subframe s => Window.Unwrapped s.x s.y s.w s.h
  | .tileRef x y _ _ _ => Window.Unwrapped x y 64 64
  | _ => True

end RenderEvent

/-- A core with nothing but frames, subframes and tiles to draw. -/
structure Ready (build : Build) (window : Window) (size : Nat) (core : BrowserCore) : Prop where
  window : core.window = window
  tabs : core.tabs.length = 1
  intact : core.Intact
  frames : ∀ f ∈ core.pendingFrames, Window.Whole f.width.toNat f.height.toNat f.stride.toNat f.pixels
  drawable : core.Drawable build
  cached : ∀ key ∈ core.pendingTiles, (core.tileCache key.2.2).isSome
  toast : core.statusToastFramesLeft = 0
  audio : core.audioPlayingFramesLeft = 0
  chrome : core.chromeDirty = true → core.fullContentDirty = true
  holds : core.window.needed ≤ size

/-- What is pending at a pixel. -/
structure Simulates (core : BrowserCore) (buffer : List UInt32) (col row : Nat)
    (pixel : Deferred UInt32 TileKey) : Prop where
  under : core.pendingSubframes.foldl (Window.underSubframe col row)
    ((core.underlay buffer).pixel col row) = pixel.under
  referred : core.pendingTiles.reverse.find? (fun key => Window.Covers key.1 key.2.1 64 64 col row) =
    pixel.referred
  contents : tileColour core.tileCache col row = pixel.contents

section Simulation

variable {build : Build} {painter : Painter} {window : Window} {size : Nat} {core : BrowserCore}
  {buffer : List UInt32} {col row : Nat} {pixel : Deferred UInt32 TileKey}

/-- Of the tiles over a pixel the last one shows. -/
theorem foldl_underTile {tileCache : TileCache} {tiles : List TileKey}
    (cached : ∀ key ∈ tiles, (tileCache key.2.2).isSome) (colour : UInt32) :
    tiles.foldl (Window.underTile tileCache col row) colour =
      match tiles.reverse.find? fun key => Window.Covers key.1 key.2.1 64 64 col row with
      | some key => tileColour tileCache col row key
      | none => colour := by
  induction tiles using List.reverseRecOn with
  | nil => rfl
  | append_singleton tiles key ih =>
      obtain ⟨before, here⟩ := List.forall_mem_append.mp cached
      obtain ⟨tile, found⟩ := Option.isSome_iff_exists.mp (here key List.mem_cons_self)
      rw [List.foldl_append, List.reverse_concat, ih before]
      by_cases covers : Window.Covers key.1 key.2.1 64 64 col row
      · simp [Window.underTile, tileColour, found, covers]
      · simp [Window.underTile, found, covers]

theorem overlaid_eq_due (ready : Ready build window size core)
    (simulates : Simulates core buffer col row pixel) :
    core.overlaid col row ((core.underlay buffer).pixel col row) = pixel.due := by
  unfold BrowserCore.overlaid
  rw [foldl_underTile ready.cached, simulates.referred, simulates.under, simulates.contents]
  cases waits : pixel.referred with
  | some key => exact (Deferred.due_of_some waits).symm
  | none => exact (Deferred.due_of_none waits).symm

/-! ## Steps -/

theorem render_ready (ready : Ready build window size core) (draws : painter.DrawsInto window size)
    (wide : 0 < window.bw.toNat) (visible : 0 < window.contentH.toNat) (sized : buffer.length = size) :
    Returns (Call.render.play build painter (core, buffer)) fun next =>
      Ready build window size next.1 ∧ next.2.length = size ∧
        next.1.framesSeen = core.framesSeen ∧ next.1.tileCache = core.tileCache ∧
        ∀ col < window.bw.toNat, ∀ row < window.contentH.toNat, ∀ pixel,
          Simulates core buffer col row pixel → Simulates next.1 next.2 col row pixel.flush ∧
            next.2[cell window.bw.toNat col (chromeH.toNat + row)]? = some pixel.due := by
  obtain rfl := ready.window
  have accepts : core.Accepts buffer.length := by
    rintro (noWidth | noHeight | short)
    · rw [noWidth] at wide
      cases wide
    · rw [Window.contentH, toNat_contentHeight, noHeight] at visible
      cases visible
    · have holds := ready.holds
      omega
  have silent := BrowserCore.tickAudio_of_none ready.audio
  have drew : ReturnsIf _ (core.renderInto build painter buffer) _ :=
    BrowserCore.renderInto_shown ready.intact ready.frames visible accepts
      (fun dirty => ready.chrome (silent ▸ dirty)) ready.toast
  rw [silent] at drew
  obtain ⟨⟨next, drawn, damage⟩, returned, same, length, shown⟩ :=
    drew.of_calm ⟨ready.drawable, fun _ => draws core rfl ready.tabs buffer sized⟩
  simp only at same length shown
  subst same
  refine .step returned ⟨_, rfl, ?_, length.trans sized, rfl, rfl, ?_⟩
  · -- Nothing waits behind a render.
    have none_waits {α : Type} {property : α → Prop} : ∀ entry ∈ ([] : List α), property entry :=
      List.forall_mem_nil property
    exact {
      window := rfl
      tabs := ready.tabs
      intact := { ready.intact with frames := none_waits, subframes := none_waits }
      frames := none_waits
      drawable := { whole := none_waits, background := ready.drawable.background
                    subframes := fun _ => none_waits, tiles := fun _ => none_waits }
      cached := none_waits
      toast := ready.toast
      audio := ready.audio
      chrome := fun dirty => absurd dirty Bool.false_ne_true
      holds := ready.holds }
  · intro col col_lt row row_lt pixel simulates
    have due := overlaid_eq_due ready simulates
    have stored := shown col col_lt row row_lt
    simp only [due] at stored
    refine ⟨⟨?_, rfl, simulates.contents⟩, stored⟩
    change drawn.getD (cell core.window.bw.toNat col (chromeH.toNat + row)) 0 = pixel.due
    rw [List.getD_eq_getElem?_getD, stored, Option.getD_some]

/-- What an event leaves of a core and its pixels. -/
structure Handled (build : Build) (window : Window) (size : Nat) (core : BrowserCore) (buffer : List UInt32)
    (event : RenderEvent) (rest : Nat) (next : BrowserCore) : Prop where
  ready : Ready build window size next
  counts : next.Counts build rest
  tileCache : next.tileCache = event.cached core.tileCache
  simulates : ∀ col row pixel, Simulates core buffer col row pixel →
    Simulates next buffer col row (pixel.step (event.draws core.tileCache col row))

variable {rest : Nat}

theorem counts_of_succ (counts : core.Counts build (rest + 1)) : core.Counts build rest := by
  intro checked
  have room := counts checked
  omega

/-- An event that is dropped. -/
theorem handled_keep (ready : Ready build window size core) (counts : core.Counts build (rest + 1))
    {event : RenderEvent} (cached : event.cached core.tileCache = core.tileCache)
    (draws : ∀ col row, event.draws core.tileCache col row = .keep) :
    Handled build window size core buffer event rest core where
  ready := ready
  counts := counts_of_succ counts
  tileCache := cached.symm
  simulates := fun col row pixel simulates => by
    rw [draws]
    exact simulates

theorem counts_add (counts : core.Counts build (rest + 1)) :
    Returns (build.add64 core.framesSeen 1) fun seen =>
      build.overflowChecks = true → seen.toNat + rest < 2 ^ 64 := by
  refine ((Build.add64_one_returnsIf core.framesSeen).of_calm fun checked => ?_).mono
    fun seen counted checked => ?_
  · have room := counts checked
    omega
  · have room := counts checked
    omega

theorem onFrame_handled (ready : Ready build window size core) (counts : core.Counts build (rest + 1))
    {f : GfxFrame} (strides : (RenderEvent.frame f).WellStrided) :
    Returns (core.onFrame build f) (Handled build window size core buffer (.frame f) rest) := by
  by_cases taken : f.Taken
  · have long := taken.2.2
    rw [BrowserCore.onFrame_of_taken taken]
    refine (counts_add counts).bind fun seen counted => ⟨_, rfl, ?_⟩
    exact {
      ready := { ready with
        intact := { ready.intact with
          frames := List.forall_mem_singleton.mpr long
          subframes := nofun }
        frames := List.forall_mem_singleton.mpr ⟨strides, long⟩
        drawable := { ready.drawable with
          whole := nofun
          subframes := fun _ => nofun
          tiles := fun _ => nofun }
        cached := nofun
        chrome := fun _ => rfl }
      counts := counted
      tileCache := rfl
      simulates := fun col row pixel simulates => by
        have drawn : (RenderEvent.frame f).draws core.tileCache col row =
            .replace (Window.framePixel f col row) := if_pos taken
        rw [drawn]
        exact ⟨rfl, rfl, simulates.contents⟩ }
  · rw [BrowserCore.onFrame_of_not_taken taken]
    exact ⟨core, rfl, handled_keep ready counts rfl fun _ _ => if_neg taken⟩

theorem onSubframe_handled (ready : Ready build window size core) (counts : core.Counts build (rest + 1))
    {s : GfxSubframe} (strides : (RenderEvent.subframe s).WellStrided)
    (cornered : build.overflowChecks = true → (RenderEvent.subframe s).Cornered) :
    Returns (core.onSubframe build s) (Handled build window size core buffer (.subframe s) rest) := by
  by_cases taken : s.Taken
  · have long := taken.2.2
    rw [BrowserCore.onSubframe_of_taken taken]
    refine (counts_add counts).bind fun seen counted => ⟨_, rfl, ?_⟩
    exact {
      ready := { ready with
        intact := { ready.intact with
          subframes := List.forall_mem_append.mpr
            ⟨ready.intact.subframes, List.forall_mem_singleton.mpr long⟩ }
        drawable := { ready.drawable with
          whole := List.forall_mem_append.mpr
            ⟨ready.drawable.whole, List.forall_mem_singleton.mpr ⟨strides, long⟩⟩
          subframes := fun checked => List.forall_mem_append.mpr
            ⟨ready.drawable.subframes checked, List.forall_mem_singleton.mpr (cornered checked)⟩ } }
      counts := counted
      tileCache := rfl
      simulates := fun col row pixel simulates => by
        have under : (core.pendingSubframes ++ [s]).foldl (Window.underSubframe col row)
            ((core.underlay buffer).pixel col row) = Window.underSubframe col row pixel.under s := by
          rw [List.foldl_append, simulates.under]
          rfl
        by_cases covers : Window.Covers s.x s.y s.w s.h col row
        · have drawn : (RenderEvent.subframe s).draws core.tileCache col row =
              .cover (Window.subframePixel s col row) := RenderEvent.draws_subframe taken covers
          rw [drawn]
          exact ⟨under.trans (if_pos covers), simulates.referred, simulates.contents⟩
        · have drawn : (RenderEvent.subframe s).draws core.tileCache col row = .keep :=
            if_neg fun both => covers both.2
          rw [drawn]
          exact ⟨under.trans (if_neg covers), simulates.referred, simulates.contents⟩ }
  · rw [BrowserCore.onSubframe_of_not_taken taken]
    exact ⟨core, rfl, handled_keep ready counts rfl fun _ _ => if_neg fun both => taken both.1⟩

theorem onTileData_handled (ready : Ready build window size core) (counts : core.Counts build (rest + 1))
    (hash : UInt64) (pixels : Bytes) : Handled build window size core buffer (.tileData hash pixels) rest
      (core.onTileData hash pixels) := by
  have intact := ready.intact.onTileData hash pixels
  unfold BrowserCore.onTileData at intact ⊢
  by_cases long : pixels.length ≥ BrowserCore.tileSide * BrowserCore.tileSide * 4
  · rw [if_pos long] at intact ⊢
    have stored : (RenderEvent.tileData hash pixels).cached core.tileCache =
        TileCache.insert core.tileCache hash (tileWords pixels) := RenderEvent.cached_tileData long
    refine {
      ready := { ready with
        intact
        drawable := { ready.drawable with }
        cached := fun key member => ?_ }
      counts := counts_of_succ counts
      tileCache := stored.symm
      simulates := fun col row pixel simulates => ⟨simulates.under, simulates.referred, ?_⟩ }
    · change (if key.2.2 = hash then some _ else core.tileCache key.2.2).isSome = true
      split
      · rfl
      · exact ready.cached key member
    · change tileColour _ col row = tileColour ((RenderEvent.tileData hash pixels).cached core.tileCache) col row
      rw [stored]
      rfl
  · rw [if_neg long]
    have stored : (RenderEvent.tileData hash pixels).cached core.tileCache = core.tileCache := if_neg long
    exact {
      ready
      counts := counts_of_succ counts
      tileCache := stored.symm
      simulates := fun col row pixel simulates => ⟨simulates.under, simulates.referred, by
        change _ = tileColour ((RenderEvent.tileData hash pixels).cached core.tileCache) col row
        rw [stored]⟩ }

theorem onTileRef_handled (ready : Ready build window size core) (counts : core.Counts build (rest + 1))
    {x y w h : UInt32} {hash : UInt64}
    (cornered : build.overflowChecks = true → (RenderEvent.tileRef x y w h hash).Cornered) :
    Handled build window size core buffer (.tileRef x y w h hash) rest (core.onTileRef x y w h hash) := by
  unfold BrowserCore.onTileRef
  by_cases known : w = 64 ∧ h = 64 ∧ (core.tileCache hash).isSome
  · rw [if_pos known]
    exact {
      ready := { ready with
        intact := { ready.intact with }
        drawable := { ready.drawable with
          tiles := fun checked => List.forall_mem_append.mpr
            ⟨ready.drawable.tiles checked, List.forall_mem_singleton.mpr (cornered checked)⟩ }
        cached := List.forall_mem_append.mpr
          ⟨ready.cached, List.forall_mem_singleton.mpr known.2.2⟩ }
      counts := counts_of_succ counts
      tileCache := rfl
      simulates := fun col row pixel simulates => by
        have last : (core.pendingTiles ++ [(x, y, hash)]).reverse.find?
            (fun key => Window.Covers key.1 key.2.1 64 64 col row) =
              if Window.Covers x y 64 64 col row then some (x, y, hash) else pixel.referred := by
          rw [List.reverse_concat, List.find?_cons, simulates.referred]
          by_cases covers : Window.Covers x y 64 64 col row
          · simp [covers]
          · simp [covers]
        by_cases covers : Window.Covers x y 64 64 col row
        · have drawn : (RenderEvent.tileRef x y w h hash).draws core.tileCache col row =
              .refer (x, y, hash) := RenderEvent.draws_tileRef known covers
          rw [drawn]
          exact ⟨simulates.under, last.trans (if_pos covers), simulates.contents⟩
        · have drawn : (RenderEvent.tileRef x y w h hash).draws core.tileCache col row = .keep :=
            if_neg fun both => covers both.2
          rw [drawn]
          exact ⟨simulates.under, last.trans (if_neg covers), simulates.contents⟩ }
  · rw [if_neg known]
    exact handled_keep ready counts rfl fun _ _ => if_neg fun both => known both.1

theorem handleRenderEvent_handled (ready : Ready build window size core)
    (counts : core.Counts build (rest + 1)) {event : RenderEvent} (strides : event.WellStrided)
    (cornered : build.overflowChecks = true → event.Cornered) :
    Returns (core.handleRenderEvent build event) fun result =>
      Handled build window size core buffer event rest result.1 := by
  cases event with
  | frame f => exact (onFrame_handled ready counts strides).bind fun next handled => ⟨_, rfl, handled⟩
  | subframe s =>
      exact (onSubframe_handled ready counts strides cornered).bind fun next handled => ⟨_, rfl, handled⟩
  | tileData hash pixels => exact ⟨_, rfl, onTileData_handled ready counts hash pixels⟩
  | tileRef x y w h hash => exact ⟨_, rfl, onTileRef_handled ready counts cornered⟩
  | _ => exact strides.elim

/-! ## Runs -/

/-- What the calls mean for a pixel. -/
def actsAt (col row : Nat) : TileCache → List Call → List (Option (Deferred.Event UInt32 TileKey))
  | _, [] => []
  | tileCache, .deliver event :: calls =>
      some (event.draws tileCache col row) :: actsAt col row (event.cached tileCache) calls
  | tileCache, .render :: calls => none :: actsAt col row tileCache calls

theorem reduceOption_actsAt (tileCache : TileCache) (calls : List Call) :
    (actsAt col row tileCache calls).reduceOption = drawnAt col row tileCache (delivered calls) := by
  induction calls generalizing tileCache with
  | nil => rfl
  | cons call calls ih =>
      cases call with
      | deliver event => exact congrArg (_ :: ·) (ih _)
      | render => exact ih tileCache

/-- Every grouping of the events at a pixel is one of calls. -/
theorem exists_calls {tileCache : TileCache} {events : List RenderEvent}
    {acts : List (Option (Deferred.Event UInt32 TileKey))}
    (reduced : acts.reduceOption = drawnAt col row tileCache events) :
    ∃ calls, delivered calls = events ∧ actsAt col row tileCache calls = acts := by
  induction acts generalizing tileCache events with
  | nil =>
      cases events with
      | nil => exact ⟨[], rfl, rfl⟩
      | cons => cases reduced
  | cons act acts ih =>
      cases act with
      | none =>
          obtain ⟨calls, arrived, same⟩ := ih reduced
          exact ⟨.render :: calls, arrived, congrArg (none :: ·) same⟩
      | some drawn =>
          cases events with
          | nil => cases reduced
          | cons event events =>
              obtain ⟨here, later⟩ := List.cons.inj reduced
              obtain ⟨calls, arrived, same⟩ := ih later
              refine ⟨.deliver event :: calls, congrArg (event :: ·) arrived, ?_⟩
              rw [actsAt, same, here]

theorem play_simulates (draws : painter.DrawsInto window size) (wide : 0 < window.bw.toNat)
    (visible : 0 < window.contentH.toNat) (calls : List Call)
    (strides : ∀ event ∈ delivered calls, event.WellStrided)
    (cornered : build.overflowChecks = true → ∀ event ∈ delivered calls, event.Cornered)
    (ready : Ready build window size core) (counts : core.Counts build (delivered calls).length)
    (sized : buffer.length = size) :
    Returns (calls.foldlM (Call.play build painter) (core, buffer)) fun next =>
      Ready build window size next.1 ∧ next.2.length = size ∧
        ∀ col < window.bw.toNat, ∀ row < window.contentH.toNat, ∀ pixel,
          Simulates core buffer col row pixel →
            Simulates next.1 next.2 col row (pixel.run (actsAt col row core.tileCache calls)) := by
  induction calls generalizing core buffer with
  | nil => exact ⟨_, rfl, ready, sized, fun _ _ _ _ _ simulates => simulates⟩
  | cons call calls ih =>
      rw [List.foldlM_cons]
      cases call with
      | deliver event =>
          have told : Returns (core.handleRenderEvent build event) fun result =>
              Handled build window size core buffer event (delivered calls).length result.1 :=
            handleRenderEvent_handled ready counts (strides event List.mem_cons_self)
              fun checked => cornered checked event List.mem_cons_self
          obtain ⟨⟨next, goesOn⟩, returned, handled⟩ := told
          have played : (Call.deliver event).play build painter (core, buffer) = .ok (next, buffer) := by
            change (core.handleRenderEvent build event >>= fun result => pure (result.1, buffer)) = _
            rw [returned]
            rfl
          refine .step played ((ih (fun other member => strides other (List.mem_cons_of_mem _ member))
            (fun checked other member => cornered checked other (List.mem_cons_of_mem _ member))
            handled.ready handled.counts sized).mono ?_)
          intro final ⟨readyLast, sizedLast, simulated⟩
          refine ⟨readyLast, sizedLast, fun col col_lt row row_lt pixel simulates => ?_⟩
          have later := simulated col col_lt row row_lt _ (handled.simulates col row pixel simulates)
          rwa [handled.tileCache] at later
      | render =>
          refine (render_ready ready draws wide visible sized).bind ?_
          intro next ⟨readyNext, sizedNext, seen, cache, flushed⟩
          have countsNext : next.1.Counts build (delivered calls).length := by
            unfold BrowserCore.Counts
            rw [seen]
            exact counts
          refine (ih strides cornered readyNext countsNext sizedNext).mono ?_
          intro final ⟨readyLast, sizedLast, simulated⟩
          refine ⟨readyLast, sizedLast, fun col col_lt row row_lt pixel simulates => ?_⟩
          have later := simulated col col_lt row row_lt _ (flushed col col_lt row row_lt pixel simulates).1
          rwa [cache] at later

end Simulation

/-- In a new window every run of the calls returns, and each pixel ends as its acts make it. -/
theorem play_ends {build : Build} {painter : Painter} {width height : UInt32} (initialUrl : String)
    (editing : Bool) {calls : List Call} (strides : ∀ event ∈ delivered calls, event.WellStrided)
    (calm : build.overflowChecks = true → chromeH.toNat * width.toNat < 2 ^ 32 ∧
      (delivered calls).length < 2 ^ 64 ∧ ∀ event ∈ delivered calls, event.Cornered)
    {buffer : List UInt32} (holds : width.toNat * height.toNat ≤ buffer.length)
    (draws : painter.DrawsInto ⟨width, height⟩ buffer.length) (wide : 0 < width.toNat)
    (visible : 0 < (contentHeight height).toNat) :
    Returns ((calls ++ [Call.render]).foldlM (Call.play build painter)
        (.newNoStd width height initialUrl editing, buffer)) fun next =>
      ∀ col < width.toNat, ∀ row < (contentHeight height).toNat,
        next.2[cell width.toNat col (chromeH.toNat + row)]? =
          some (freshPixel.run (actsAt col row (fun _ => none) calls)).due := by
  have ready : Ready build ⟨width, height⟩ buffer.length (.newNoStd width height initialUrl editing) := {
    window := rfl
    tabs := rfl
    intact := .newNoStd width height initialUrl editing
    frames := nofun
    drawable := { whole := nofun, background := fun checked => (calm checked).1
                  subframes := fun _ => nofun, tiles := fun _ => nofun }
    cached := nofun
    toast := rfl
    audio := rfl
    chrome := fun _ => rfl
    holds }
  have counts : (BrowserCore.newNoStd width height initialUrl editing).Counts build (delivered calls).length := by
    intro checked
    change 0 + (delivered calls).length < 2 ^ 64
    rw [Nat.zero_add]
    exact (calm checked).2.1
  rw [List.foldlM_append]
  refine (play_simulates draws wide visible calls strides (fun checked => (calm checked).2.2) ready counts
    rfl).bind fun next ⟨readyNext, sized, simulated⟩ => ?_
  rw [List.foldlM_cons]
  refine (render_ready readyNext draws wide visible sized).bind
    fun final ⟨_, _, _, _, shown⟩ => ⟨final, rfl, fun col col_lt row row_lt => ?_⟩
  exact (shown col col_lt row row_lt _ (simulated col col_lt row row_lt freshPixel ⟨rfl, rfl, rfl⟩)).2

/-- However the frames, subframes and tiles that arrive are grouped into renders, a last render leaves
the same content area, if and only if no pixel depends on a tile under a later subframe, or on
later data for a tile. -/
theorem renders_irrelevant_iff {build : Build} {painter : Painter} {width height : UInt32}
    (initialUrl : String) (editing : Bool) {events : List RenderEvent}
    (strides : ∀ event ∈ events, event.WellStrided)
    (calm : build.overflowChecks = true → chromeH.toNat * width.toNat < 2 ^ 32 ∧
      events.length < 2 ^ 64 ∧ ∀ event ∈ events, event.Cornered)
    {buffer : List UInt32} (holds : width.toNat * height.toNat ≤ buffer.length)
    (draws : painter.DrawsInto ⟨width, height⟩ buffer.length) :
    (∀ first second : List Call, delivered first = events → delivered second = events →
      ∀ firstCore firstDrawn secondCore secondDrawn,
        (first ++ [Call.render]).foldlM (Call.play build painter)
          (.newNoStd width height initialUrl editing, buffer) = .ok (firstCore, firstDrawn) →
        (second ++ [Call.render]).foldlM (Call.play build painter)
          (.newNoStd width height initialUrl editing, buffer) = .ok (secondCore, secondDrawn) →
        ∀ col < width.toNat, ∀ row < (contentHeight height).toNat,
          firstDrawn[cell width.toNat col (chromeH.toNat + row)]? =
            secondDrawn[cell width.toNat col (chromeH.toNat + row)]?) ↔
      ∀ col < width.toNat, ∀ row < (contentHeight height).toNat, Settled events col row = true := by
  have ends {calls : List Call} (arrived : delivered calls = events) {col : Nat} (col_lt : col < width.toNat)
      {row : Nat} (row_lt : row < (contentHeight height).toNat) :
      Returns ((calls ++ [Call.render]).foldlM (Call.play build painter)
          (.newNoStd width height initialUrl editing, buffer)) fun next =>
        next.2[cell width.toNat col (chromeH.toNat + row)]? =
          some (freshPixel.run (actsAt col row (fun _ => none) calls)).due := by
    subst arrived
    exact (play_ends initialUrl editing strides calm holds draws (by omega) (by omega)).mono
      fun next shown => shown col col_lt row row_lt
  constructor
  · intro alike col col_lt row row_lt
    refine (freshPixel.grouping_iff_settled _).mp fun first second firstReduced secondReduced => ?_
    obtain ⟨firstCalls, firstArrived, rfl⟩ := exists_calls firstReduced
    obtain ⟨secondCalls, secondArrived, rfl⟩ := exists_calls secondReduced
    obtain ⟨⟨firstCore, firstDrawn⟩, firstReturned, firstShown⟩ := ends firstArrived col_lt row_lt
    obtain ⟨⟨secondCore, secondDrawn⟩, secondReturned, secondShown⟩ := ends secondArrived col_lt row_lt
    have same := alike firstCalls secondCalls firstArrived secondArrived _ _ _ _ firstReturned secondReturned
      col col_lt row row_lt
    exact Option.some.inj (firstShown.symm.trans (same.trans secondShown))
  · intro settled first second firstArrived secondArrived firstCore firstDrawn secondCore secondDrawn
      firstReturned secondReturned col col_lt row row_lt
    obtain ⟨_, firstSame, firstShown⟩ := ends firstArrived col_lt row_lt
    obtain ⟨_, secondSame, secondShown⟩ := ends secondArrived col_lt row_lt
    cases firstSame.symm.trans firstReturned
    cases secondSame.symm.trans secondReturned
    have reduced {calls : List Call} (arrived : delivered calls = events) :
        (actsAt col row (fun _ => none) calls).reduceOption = drawnAt col row (fun _ => none) events := by
      rw [reduceOption_actsAt, arrived]
    rw [firstShown, secondShown]
    exact congrArg some ((freshPixel.grouping_iff_settled _).mpr (settled col col_lt row row_lt) _ _
      (reduced firstArrived) (reduced secondArrived))

theorem noStdPainter_drawsInto {build : Build} {font : BasicFonts} {window : Window} {size : Nat}
    (wide : window.bw.toNat ≤ 65535) (tall : window.bh.toNat ≤ 65535) (holds : window.needed ≤ size) :
    (noStdPainter build font).DrawsInto window size := by
  rintro core rfl single canvas rfl
  obtain ⟨drawn, result, _⟩ := noStdPainter_chrome_returns ⟨wide, tall⟩ (by omega) holds
  rw [result]
  rfl

/-! ## A subframe over a tile -/

def blankScreen : List UInt32 := List.replicate (640 * 480) 0

theorem length_blankScreen : (640 : UInt32).toNat * (480 : UInt32).toNat = blankScreen.length :=
  List.length_replicate.symm

def lightSubframe : GfxSubframe :=
  { x := 0, y := 0, w := 1, h := 1, stride := 4, pixels := [255, 255, 255, 255] }

def blackTile : Bytes := List.replicate 16384 0

/-- A subframe comes, and then a tile on it. -/
def subframeThenTile : List RenderEvent :=
  [.subframe lightSubframe, .tileData 7 blackTile, .tileRef 0 0 64 64 7]

theorem settled_subframeThenTile (col row : Nat) : Settled subframeThenTile col row = true := by
  have subframeDraws (tileCache : TileCache) :
      (RenderEvent.subframe lightSubframe).draws tileCache col row = .cover (Window.subframePixel lightSubframe col row) ∨
        (RenderEvent.subframe lightSubframe).draws tileCache col row = .keep := ite_eq_or_eq _ _ _
  have tileDraws (tileCache : TileCache) :
      (RenderEvent.tileRef 0 0 64 64 7).draws tileCache col row = .refer (0, 0, 7) ∨
        (RenderEvent.tileRef 0 0 64 64 7).draws tileCache col row = .keep := ite_eq_or_eq _ _ _
  unfold Settled subframeThenTile
  simp only [drawnAt]
  rcases subframeDraws fun _ => none with covers | keeps
  · rcases tileDraws _ with refers | still
    · rw [covers, refers]
      rfl
    · rw [covers, still]
      rfl
  · rcases tileDraws _ with refers | still
    · rw [keeps, refers]
      rfl
    · rw [keeps, still]
      rfl

/-- Renders between the subframe, the pixels of the tile and the tile do not matter. -/
theorem renders_irrelevant_tile :
    let painter := noStdPainter ⟨true⟩ fun _ => none
    let start := (BrowserCore.newNoStd 640 480 "https://example.com" false, blankScreen)
    let first : List Call := subframeThenTile.map .deliver
    let second : List Call := subframeThenTile.flatMap fun event => [.render, .deliver event]
    ∃ firstCore firstDrawn secondCore secondDrawn,
      (first ++ [Call.render]).foldlM (Call.play ⟨true⟩ painter) start = .ok (firstCore, firstDrawn) ∧
      (second ++ [Call.render]).foldlM (Call.play ⟨true⟩ painter) start = .ok (secondCore, secondDrawn) ∧
      ∀ col < 640, ∀ row < 384, firstDrawn[cell 640 col (96 + row)]? = secondDrawn[cell 640 col (96 + row)]? := by
  intro painter start first second
  have strides : ∀ event ∈ subframeThenTile, event.WellStrided := by
    simp only [subframeThenTile, List.forall_mem_cons, RenderEvent.WellStrided]
    exact ⟨by decide, trivial, trivial, nofun⟩
  have cornered : ∀ event ∈ subframeThenTile, event.Cornered := by
    simp only [subframeThenTile, List.forall_mem_cons, RenderEvent.Cornered]
    exact ⟨by decide, trivial, by decide, nofun⟩
  have calm : (⟨true⟩ : Build).overflowChecks = true → chromeH.toNat * (640 : UInt32).toNat < 2 ^ 32 ∧
      subframeThenTile.length < 2 ^ 64 ∧ ∀ event ∈ subframeThenTile, event.Cornered :=
    fun _ => ⟨by decide, by decide, cornered⟩
  have draws : painter.DrawsInto ⟨640, 480⟩ blankScreen.length :=
    noStdPainter_drawsInto (by decide) (by decide) (Nat.le_of_eq length_blankScreen)
  have returned (calls : List Call) (arrived : delivered calls = subframeThenTile) :
      ∃ next, (calls ++ [Call.render]).foldlM (Call.play ⟨true⟩ painter) start = .ok next :=
    (play_ends "https://example.com" false (arrived ▸ strides) (arrived ▸ calm) (Nat.le_of_eq length_blankScreen)
      draws (by decide) (by decide)).imp fun _ ends => ends.1
  obtain ⟨⟨firstCore, firstDrawn⟩, firstReturned⟩ := returned first rfl
  obtain ⟨⟨secondCore, secondDrawn⟩, secondReturned⟩ := returned second rfl
  refine ⟨firstCore, firstDrawn, secondCore, secondDrawn, firstReturned, secondReturned, ?_⟩
  exact (renders_irrelevant_iff "https://example.com" false strides calm (Nat.le_of_eq length_blankScreen)
    draws).mpr (fun col _ row _ => settled_subframeThenTile col row) first second rfl rfl _ _ _ _ firstReturned
      secondReturned

/-- A tile comes, and then a subframe on it. -/
def tileThenSubframe : List RenderEvent :=
  [.tileData 7 blackTile, .tileRef 0 0 64 64 7, .subframe lightSubframe]

theorem tilePixel_blackTile : Window.tilePixel (tileWords blackTile) 0 0 0 0 = 0 := by
  have inside : 0 + 4096 * 4 ≤ blackTile.length := Nat.le_of_eq List.length_replicate.symm
  have length : (List.replicate 4096 (0 : UInt32)).length = 4096 := List.length_replicate
  have word := copyBgraRowToU32_words inside length (by decide : 0 < 4096)
  rw [List.drop_zero] at word
  unfold Window.tilePixel
  rw [List.getD_eq_getElem?_getD]
  refine (congrArg (·.getD 0) word).trans ?_
  rfl

theorem cached_blackTile : (RenderEvent.tileData 7 blackTile).cached (fun _ => none) =
    TileCache.insert (fun _ => none) 7 (tileWords blackTile) := by
  refine RenderEvent.cached_tileData ?_
  rw [blackTile, List.length_replicate]
  exact Nat.le_refl 16384

/-- If the tile is shown before the subframe comes, the subframe is over it, and under it otherwise. -/
theorem tile_over_later_subframe :
    let painter := noStdPainter ⟨true⟩ fun _ => none
    let core := BrowserCore.newNoStd 640 480 "https://example.com" false
    ∃ first second : List Call, delivered first = tileThenSubframe ∧ delivered second = tileThenSubframe ∧
      ∃ firstCore firstDrawn secondCore secondDrawn,
        (first ++ [Call.render]).foldlM (Call.play ⟨true⟩ painter) (core, blankScreen) =
          .ok (firstCore, firstDrawn) ∧
        (second ++ [Call.render]).foldlM (Call.play ⟨true⟩ painter) (core, blankScreen) =
          .ok (secondCore, secondDrawn) ∧
        firstDrawn[640 * 96]? = some 0xFFFFFF ∧ secondDrawn[640 * 96]? = some 0 := by
  intro painter core
  have strides : ∀ event ∈ tileThenSubframe, event.WellStrided := by
    simp only [tileThenSubframe, List.forall_mem_cons, RenderEvent.WellStrided]
    exact ⟨trivial, trivial, by decide, nofun⟩
  have cornered : ∀ event ∈ tileThenSubframe, event.Cornered := by
    simp only [tileThenSubframe, List.forall_mem_cons, RenderEvent.Cornered]
    exact ⟨trivial, by decide, by decide, nofun⟩
  have draws : painter.DrawsInto ⟨640, 480⟩ blankScreen.length :=
    noStdPainter_drawsInto (by decide) (by decide) (Nat.le_of_eq length_blankScreen)
  have ends (calls : List Call) (arrived : delivered calls = tileThenSubframe) :
      Returns ((calls ++ [Call.render]).foldlM (Call.play ⟨true⟩ painter) (core, blankScreen)) fun next =>
        next.2[640 * 96]? = some (freshPixel.run (actsAt 0 0 (fun _ => none) calls)).due := by
    have calm : (⟨true⟩ : Build).overflowChecks = true → chromeH.toNat * (640 : UInt32).toNat < 2 ^ 32 ∧
        (delivered calls).length < 2 ^ 64 ∧ ∀ event ∈ delivered calls, event.Cornered := by
      rw [arrived]
      exact fun _ => ⟨by decide, by decide, cornered⟩
    exact (play_ends "https://example.com" false (arrived ▸ strides) calm (Nat.le_of_eq length_blankScreen)
      draws (by decide) (by decide)).mono fun next shown => shown 0 (by decide) 0 (by decide)
  let stores := RenderEvent.tileData 7 blackTile
  let refers := RenderEvent.tileRef 0 0 64 64 7
  have storesDraws : stores.draws (fun _ => none) 0 0 =
      .store (tileColour (stores.cached fun _ => none) 0 0) := rfl
  have refersDraws : refers.draws (stores.cached fun _ => none) 0 0 = .refer (0, 0, 7) := by
    refine RenderEvent.draws_tileRef ⟨rfl, rfl, ?_⟩ (by decide)
    rw [cached_blackTile]
    rfl
  have subframeDraws (tileCache : TileCache) :
      (RenderEvent.subframe lightSubframe).draws tileCache 0 0 = .cover 0xFFFFFF :=
    RenderEvent.draws_subframe (by decide) (by decide)
  have waits (contents : TileKey → UInt32) : (freshPixel.run
      [some (.store contents), some (.refer (0, 0, 7)), some (.cover 0xFFFFFF)]).due = contents (0, 0, 7) := rfl
  obtain ⟨⟨firstCore, firstDrawn⟩, firstReturned, firstShown⟩ := ends
    [.deliver stores, .deliver refers, .render, .deliver (.subframe lightSubframe)] rfl
  obtain ⟨⟨secondCore, secondDrawn⟩, secondReturned, secondShown⟩ := ends
    [.deliver stores, .deliver refers, .deliver (.subframe lightSubframe)] rfl
  refine ⟨_, _, rfl, rfl, firstCore, firstDrawn, secondCore, secondDrawn, firstReturned, secondReturned, ?_, ?_⟩
  · refine firstShown.trans ?_
    simp only [actsAt, refersDraws, subframeDraws]
    rfl
  · refine secondShown.trans ?_
    simp only [actsAt, storesDraws, refersDraws, subframeDraws, waits]
    rw [cached_blackTile, tileColour_insert, tilePixel_blackTile]

end ExoBrowser.Client
