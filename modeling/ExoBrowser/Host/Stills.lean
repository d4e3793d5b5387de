import ExoBrowser.Host.DeltaStream
import ExoBrowser.Proto.HalfResolution

/-!
# Still pictures

The pump compares a frame with the one before it, not with what the client shows. A pixel
is exact unless the rectangle that brought it last was sent at half resolution.
-/

set_option autoImplicit false

namespace ExoBrowser.Host

open Library Proto

/-! ## The last item at a pixel -/

def coversPixel (col row : Nat) : Message → Bool
  | .rawFrame .. => true
  | .subframe _ x y w h _ _ _ _ =>
      decide (Rect.Contains { x := x.toNat, y := y.toNat, w := w.toNat, h := h.toNat } col row)
  | _ => false

def lastCovering (messages : List Message) (col row : Nat) : Option Message :=
  (messages.filter (coversPixel col row)).getLast?

/-- The item that brought the pixel last, if there is one, is not at half resolution. -/
def SentExactly (messages : List Message) (col row : Nat) : Prop :=
  ∀ m, lastCovering messages col row = some m → BelowQ2 m

section Last

variable {target : Target} {col row : Nat}

theorem coversPixel_iff {m : Message} :
    coversPixel col row m ↔ ∃ edit, editOf target m = some edit ∧ edit.Covers col row := by
  cases m with
  | rawFrame => exact iff_of_true rfl ⟨_, rfl, trivial⟩
  | subframe tsUs x y w h =>
      constructor
      · intro covers
        have inside : Rect.Contains ⟨x.toNat, y.toNat, w.toNat, h.toNat⟩ col row :=
          of_decide_eq_true covers
        exact ⟨_, rfl, inside⟩
      · rintro ⟨edit, found, covers⟩
        cases found
        have inside : Rect.Contains ⟨x.toNat, y.toNat, w.toNat, h.toNat⟩ col row := covers
        exact decide_eq_true inside
  | _ => exact iff_of_false Bool.false_ne_true fun ⟨_, found, _⟩ => nomatch found

theorem lastCovering_append (first second : List Message) :
    lastCovering (first ++ second) col row =
      (lastCovering second col row).or (lastCovering first col row) := by
  unfold lastCovering
  rw [List.filter_append, List.getLast?_append]

theorem lastCovering_eq_none {messages : List Message}
    (uncovered : ∀ m ∈ messages, ¬ coversPixel col row m) : lastCovering messages col row = none := by
  unfold lastCovering
  rw [List.filter_eq_nil_iff.mpr uncovered]
  rfl

theorem uncovered_of_lastCovering {messages : List Message}
    (none_covers : lastCovering messages col row = none) :
    ∀ m ∈ messages, ¬ coversPixel col row m :=
  List.filter_eq_nil_iff.mp (List.getLast?_eq_none_iff.mp none_covers)

theorem lastCovering_singleton {m : Message} (covers : coversPixel col row m) :
    lastCovering [m] col row = some m := by
  unfold lastCovering
  rw [List.filter_cons_of_pos covers]
  rfl

theorem sentExactly_of_forall {messages : List Message} (small : ∀ m ∈ messages, BelowQ2 m) :
    SentExactly messages col row := by
  intro m last
  exact small m (List.mem_of_mem_filter (List.mem_of_getLast? last))

/-- What is no edit covers nothing. -/
theorem lastCovering_quiet {messages : List Message} (quiet : editsOf target messages = []) :
    lastCovering messages col row = none := by
  refine lastCovering_eq_none fun m member covers => ?_
  obtain ⟨edit, found, _⟩ := coversPixel_iff.mp covers
  rw [List.filterMap_eq_nil_iff.mp quiet m member] at found
  cases found

end Last

/-! ## One frame -/

variable {target : Target} {f : Frame}

/-- A rectangle of the frame, exact unless it is sent at half resolution. -/
def Drawn (target : Target) (f : Frame) (m : Message) : Prop :=
  ∃ rect pixel, editOf target m = some (.patch rect pixel) ∧
    (BelowQ2 m → (Edit.patch rect pixel).Paints f.width f.height f.pixel)

/-- A pixel that the rectangles of a frame cover is as the last of them says. -/
theorem replay_drawn {messages : List Message} (drawn : ∀ m ∈ messages, Drawn target f m)
    {picture : Picture Bytes} (width : picture.width = f.width) (height : picture.height = f.height) :
    ∃ result, replay (editsOf target messages) (some picture) = some result ∧
      result.width = f.width ∧ result.height = f.height ∧
      ∀ col < f.width, ∀ row < f.height,
        (lastCovering messages col row = none → result.pixel col row = picture.pixel col row) ∧
          ∀ m, lastCovering messages col row = some m → BelowQ2 m →
            result.pixel col row = f.pixel col row := by
  induction messages using List.reverseRecOn with
  | nil =>
      refine ⟨picture, rfl, width, height, fun col _ row _ => ⟨fun _ => rfl, fun m covers => ?_⟩⟩
      cases covers
  | append_singleton messages m ih =>
      obtain ⟨before, replayed, beforeWidth, beforeHeight, pixels⟩ :=
        ih fun other member => drawn other (List.mem_append_left _ member)
      obtain ⟨rect, pixel, edit_eq, paints⟩ := drawn m (List.mem_append_right _ List.mem_cons_self)
      have edits : editsOf target [m] = [.patch rect pixel] := by simp [editsOf, edit_eq]
      refine ⟨before.patch rect pixel, ?_, beforeWidth, beforeHeight, fun col col_lt row row_lt => ?_⟩
      · rw [editsOf_append, replay_append, replayed, edits]
        rfl
      · obtain ⟨kept, exact⟩ := pixels col col_lt row row_lt
        have inFrame : col < before.width ∧ row < before.height := ⟨by omega, by omega⟩
        rw [lastCovering_append]
        by_cases inside : rect.Contains col row
        · have covers : coversPixel col row m := coversPixel_iff.mpr ⟨_, edit_eq, inside⟩
          rw [lastCovering_singleton covers]
          refine ⟨fun uncovered => absurd uncovered (Option.some_ne_none m), fun last same small => ?_⟩
          cases same
          exact (if_pos ⟨inside, inFrame⟩).trans (paints small col col_lt row row_lt inside)
        · have uncovered : ¬ coversPixel col row m := by
            intro covers
            obtain ⟨edit, found, contains⟩ := coversPixel_iff.mp covers
            rw [edit_eq] at found
            cases found
            exact inside contains
          have quiet : lastCovering [m] col row = none :=
            lastCovering_eq_none fun other member => List.mem_singleton.mp member ▸ uncovered
          have same : (before.patch rect pixel).pixel col row = before.pixel col row :=
            if_neg fun covered => inside covered.1
          rw [quiet, same]
          exact ⟨kept, exact⟩

theorem subframe_drawn (target : Target) {region : Region} (wellFormed : f.WellFormed)
    (cols_inside : region.x.toNat + region.w.toNat ≤ f.width)
    (rows_inside : region.y.toNat + region.h.toNat ≤ f.height) (tsUs : UInt64) :
    Checked.Returns (f.subframe tsUs region) fun m =>
      Drawn target f m ∧ ∀ col row, region.rect.Contains col row → coversPixel col row m := by
  obtain ⟨m, returned, part⟩ := subframe_returns wellFormed tsUs cols_inside rows_inside
  refine ⟨m, returned, ?_⟩
  obtain ⟨sub, extracted, result⟩ := Checked.bind_eq_ok returned
  cases result
  refine ⟨⟨region.rect, _, rfl, fun small col _ row _ inside => ?_⟩, fun col row inside =>
    decide_eq_true_iff.mpr inside⟩
  obtain ⟨pixel, edit_eq, pixels⟩ := part.patches
  cases (part.faithful small target).trans edit_eq
  obtain ⟨left, right, top, bottom⟩ : region.x.toNat ≤ col ∧
    col < region.x.toNat + region.w.toNat ∧ region.y.toNat ≤ row ∧
    row < region.y.toNat + region.h.toNat := inside
  have moved := pixels (col - region.x.toNat) (by omega) (row - region.y.toNat) (by omega)
  rwa [Nat.add_sub_cancel' left, Nat.add_sub_cancel' top] at moved

/-- What the pump publishes after a frame of the same geometry: all of it, or rectangles
that cover what differs. -/
theorem deltaMessages_drawn (target : Target) {aligned : Nat → Bool} {prev : Frame} {tsUs : UInt64}
    {published : List Message} (prevWellFormed : prev.WellFormed) (wellFormed : f.WellFormed)
    (same : prev.sameGeom f) (sent : prev.deltaMessages aligned f tsUs = .ok published) :
    published = [f.rawFrame tsUs] ∨ (∀ m ∈ published, Drawn target f m) ∧
      ∀ col < f.width, ∀ row < f.height, prev.pixel col row ≠ f.pixel col row →
        ∃ m ∈ published, coversPixel col row m := by
  obtain ⟨found, result, cases⟩ := deltaMessages_cases aligned prevWellFormed wellFormed same tsUs
  cases sent.symm.trans result
  refine cases.imp_right fun ⟨regions, covered, mapped⟩ => ?_
  obtain ⟨found, returned, forward, backward⟩ := Checked.Returns.mapM fun region member =>
    subframe_drawn target wellFormed (covered.boxes region member).cols_inside
      (covered.boxes region member).rows_inside tsUs
  cases mapped.symm.trans returned
  constructor
  · intro m member
    obtain ⟨region, _, drawn, _⟩ := backward m member
    exact drawn
  · intro col col_lt row row_lt differ
    obtain ⟨region, member, inside⟩ := covered_differs same covered col_lt row_lt differ
    obtain ⟨m, sent, _, covers⟩ := forward region member
    exact ⟨m, sent, covers col row inside⟩

theorem deltaMessages_single {aligned : Nat → Bool} {prev f : Frame} {tsUs : UInt64}
    {region : Region} {m : Message}
    (found : diffRegions aligned prev.pixels f.pixels f.width f.height f.stride = .ok [region])
    (few : region.w.toNat * region.h.toNat * 10 < f.width * f.height * 8)
    (sent : f.subframe tsUs region = .ok m) : prev.deltaMessages aligned f tsUs = .ok [m] := by
  have notFull : ¬ (region.w.toNat * region.h.toNat * 10 ≥ f.width * f.height * 8 ∨ 1 > 16) := by
    rintro (large | many)
    · exact absurd large (Nat.not_le.mpr few)
    · exact absurd many (by decide)
  unfold Frame.deltaMessages
  rw [found]
  simp only [bind, Except.bind, List.cons_ne_self, if_false, List.map_cons, List.map_nil,
    List.sum_cons, List.sum_nil, Nat.add_zero, List.length_singleton]
  rw [if_neg notFull, List.mapM_cons, sent]
  rfl

/-- A frame is published again as nothing. -/
theorem deltaMessages_self {f : Frame} (wellFormed : f.WellFormed) (aligned : Nat → Bool)
    (tsUs : UInt64) : f.deltaMessages aligned f tsUs = .ok [] := by
  obtain ⟨regions, found, covered⟩ := DiffInput.diffRegions_returns
    (sound_of_sameGeom wellFormed wellFormed ⟨rfl, rfl, rfl⟩ : DiffInput.Sound { aligned, .. })
  have none_found : regions = [] := by
    refine List.eq_nil_iff_forall_not_mem.mpr fun region member => ?_
    obtain ⟨col, _, _, differ⟩ := (covered.boxes region member).top
    exact differ rfl
  subst none_found
  unfold Frame.deltaMessages
  rw [show diffRegions aligned f.pixels f.pixels f.width f.height f.stride = .ok [] from found]
  rfl

/-! ## Runs of the pump -/

/-- The events of the pump's channels. None of them changes the active tab. -/
def Event.OfPump : Event → Prop
  | .frame .. | .load .. | .title .. | .url .. | .cursor .. => True
  | _ => False

def pumpStep : Step HostState Event Message :=
  Step.guarded hostStep fun _ event => event.OfPump

/-- What the client shows of the stored frame is exact wherever it was sent so. -/
def Sharp (f : Frame) (published : List Message) (shown : Option (Picture Bytes)) : Prop :=
  ∃ picture, shown = some picture ∧ picture.width = f.width ∧ picture.height = f.height ∧
    ∀ col < f.width, ∀ row < f.height, SentExactly published col row →
      picture.pixel col row = f.pixel col row

theorem Sharp.of_rawFrame (wellFormed : f.WellFormed) (published : List Message) (tsUs : UInt64)
    (shown : Option (Picture Bytes)) :
    Sharp f published (replay (editsOf target [f.rawFrame tsUs]) shown) := by
  rw [editsOf_rawFrame]
  obtain ⟨picture, replayed, width, height, pixels⟩ := replay_rawFrame wellFormed tsUs shown
  exact ⟨picture, replayed, width, height, fun col col_lt row row_lt _ => pixels col col_lt row row_lt⟩

/-- Nothing about frames is published. -/
theorem Sharp.quiet {published added : List Message} {shown : Option (Picture Bytes)}
    (sharp : Sharp f published shown) (quiet : editsOf target added = []) :
    Sharp f (published ++ added) (replay (editsOf target added) shown) := by
  obtain ⟨picture, same, width, height, pixels⟩ := sharp
  rw [quiet, replay_nil]
  refine ⟨picture, same, width, height, fun col col_lt row row_lt sent => ?_⟩
  refine pixels col col_lt row row_lt fun m last => sent m ?_
  rw [lastCovering_append, lastCovering_quiet quiet, last]
  rfl

theorem Sharp.drawn {prev : Frame} {published added : List Message} {shown : Option (Picture Bytes)}
    (sharp : Sharp prev published shown) (same : prev.sameGeom f)
    (drawn : ∀ m ∈ added, Drawn target f m)
    (covers : ∀ col < f.width, ∀ row < f.height, prev.pixel col row ≠ f.pixel col row →
      ∃ m ∈ added, coversPixel col row m) :
    Sharp f (published ++ added) (replay (editsOf target added) shown) := by
  obtain ⟨picture, rfl, width, height, pixels⟩ := sharp
  obtain ⟨width_eq, height_eq, _⟩ := same
  rw [width_eq] at width pixels
  rw [height_eq] at height pixels
  obtain ⟨result, replayed, resultWidth, resultHeight, last⟩ := replay_drawn drawn width height
  refine ⟨result, replayed, resultWidth, resultHeight, fun col col_lt row row_lt sent => ?_⟩
  obtain ⟨kept, painted⟩ := last col col_lt row row_lt
  cases here : lastCovering added col row with
  | none =>
      have uncovered := uncovered_of_lastCovering here
      have unchanged : prev.pixel col row = f.pixel col row := by
        by_contra differ
        obtain ⟨m, member, covering⟩ := covers col col_lt row row_lt differ
        exact uncovered m member covering
      rw [kept here, ← unchanged]
      refine pixels col col_lt row row_lt fun m before => sent m ?_
      rw [lastCovering_append, here, before]
      rfl
  | some m =>
      refine painted m here (sent m ?_)
      rw [lastCovering_append, here]
      rfl

/-- The stored frame of the active tab is shown as `Sharp` says. -/
structure Followed (tabId : UInt32) (published : List Message) (shown : Option (Picture Bytes))
    (state : HostState) : Prop where
  valid : state.Valid
  active : state.activeTabId = tabId
  sharp : ∀ f, state.lastFrames tabId = some f → Sharp f published shown

variable {tabId : UInt32} {published added : List Message} {shown : Option (Picture Bytes)}
  {state next : HostState}

/-- A step that stores no frame of the active tab publishes nothing about frames. -/
theorem Followed.quiet (followed : Followed tabId published shown state) (valid : next.Valid)
    (active : next.activeTabId = state.activeTabId)
    (stored : next.lastFrames tabId = state.lastFrames tabId) (quiet : editsOf target added = []) :
    Followed tabId (published ++ added) (replay (editsOf target added) shown) next where
  valid := valid
  active := active.trans followed.active
  sharp := fun f found => (followed.sharp f (stored ▸ found)).quiet quiet

/-- What the pump does with a frame. -/
theorem receiveFrame_cases {tsUs : UInt64} {aligned : Nat → Bool}
    (received : state.receiveFrame f tsUs aligned = .ok (next, added)) :
    (state.activeTabId ≠ f.tabId ∧ next = state.insertFrame f ∧ added = []) ∨
      (state.activeTabId = f.tabId ∧ next = (state.removeForceFull f.tabId).insertFrame f ∧
        (added = [f.rawFrame tsUs] ∨ ∃ prev, state.lastFrames f.tabId = some prev ∧
          prev.sameGeom f ∧ prev.deltaMessages aligned f tsUs = .ok added)) := by
  unfold HostState.receiveFrame at received
  by_cases here : state.activeTabId = f.tabId
  · rw [if_pos here] at received
    refine .inr ⟨here, ?_⟩
    cases stored : state.lastFrames f.tabId with
    | none =>
        rw [stored] at received
        cases received
        exact ⟨rfl, .inl rfl⟩
    | some prev =>
        rw [stored] at received
        simp only at received
        split at received
        case isTrue delta =>
          obtain ⟨changes, sent, result⟩ := Checked.bind_eq_ok received
          cases result
          exact ⟨rfl, .inr ⟨prev, rfl, delta.2, sent⟩⟩
        case isFalse =>
          cases received
          exact ⟨rfl, .inl rfl⟩
  · rw [if_neg here] at received
    cases received
    exact .inl ⟨here, rfl, rfl⟩

theorem Followed.frame {tsUs : UInt64} {aligned : Nat → Bool}
    (followed : Followed tabId published shown state) (wellFormed : f.WellFormed)
    (received : state.receiveFrame f tsUs aligned = .ok (next, added)) :
    Followed tabId (published ++ added) (replay (editsOf target added) shown) next := by
  obtain ⟨valid, active, sharp⟩ := followed
  rcases receiveFrame_cases received with ⟨inactive, rfl, rfl⟩ | ⟨here, rfl, sent⟩
  · have other : tabId ≠ f.tabId := active ▸ inactive
    exact Followed.quiet ⟨valid, active, sharp⟩ (valid_insertFrame valid wellFormed) rfl
      (insertFrame_of_ne other) rfl
  · have validRemoved : (state.removeForceFull f.tabId).Valid := valid
    refine ⟨valid_insertFrame validRemoved wellFormed, active, fun g found => ?_⟩
    rw [← active, here, insertFrame_self] at found
    cases found
    rcases sent with rfl | ⟨prev, stored, same, sent⟩
    · exact .of_rawFrame wellFormed _ tsUs shown
    · rcases deltaMessages_drawn target (valid f.tabId prev stored) wellFormed same sent with
        rfl | ⟨drawn, covers⟩
      · exact .of_rawFrame wellFormed _ tsUs shown
      · exact (sharp prev (by rw [← active, here, stored])).drawn same drawn covers

theorem Followed.step (target : Target) {event : Event} (followed : Followed tabId published shown state)
    (stepped : pumpStep state event added next) :
    Followed tabId (published ++ added) (replay (editsOf target added) shown) next := by
  obtain ⟨ofPump, allowed, returned⟩ := stepped
  cases event with
  | frame f tsUs aligned => exact followed.frame allowed returned
  | load loadTab load =>
      cases load
      all_goals
        cases returned
        exact followed.quiet followed.valid rfl rfl (editsOf_ifActive rfl loadTab)
  | title titleTab newTitle =>
      cases returned
      exact followed.quiet followed.valid rfl rfl
        ((editsOf_cons rfl _).trans (editsOf_ifActive rfl titleTab))
  | url urlTab newUrl =>
      cases returned
      exact followed.quiet followed.valid rfl rfl
        ((editsOf_cons rfl _).trans (editsOf_ifActive rfl urlTab))
  | cursor cursorTab shapeId =>
      cases returned
      exact followed.quiet followed.valid rfl rfl (editsOf_ifActive rfl cursorTab)
  | switchTab | createTab | closeTab => exact ofPump.elim

theorem followed_snapshot (target : Target) (valid : state.Valid) (tsUs : UInt64) :
    Followed state.activeTabId [] (replay (editsOf target (state.snapshot tsUs).toList) none) state where
  valid := valid
  active := rfl
  sharp := by
    intro f stored
    rw [editsOf_snapshot]
    obtain ⟨picture, shown, width, height, pixels⟩ := shown_snapshot valid tsUs f stored
    exact ⟨picture, shown, width, height, fun col col_lt row row_lt _ => pixels col col_lt row row_lt⟩

theorem followed_runs (target : Target) {start : HostState} (valid : start.Valid) (tsUs : UInt64)
    {events : List Event} (ran : Runs pumpStep start events published state) :
    Followed start.activeTabId published (replay (editsOf target published)
      (replay (editsOf target (start.snapshot tsUs).toList) none)) state :=
  ran.invariant (fun published state => Followed start.activeTabId published
      (replay (editsOf target published)
        (replay (editsOf target (start.snapshot tsUs).toList) none)) state)
    (followed_snapshot target valid tsUs) fun published state event added next followed stepped => by
      have onward := followed.step target stepped
      rwa [← replay_append, ← editsOf_append] at onward

/-- A subscriber takes a snapshot and applies all that the pump publishes from then on. After
a frame that came twice or more in a row it shows every pixel of the frame that did not
come last in a rectangle at half resolution. -/
theorem still_pixels_exact (target : Target) (initialUrl : String) {before during stills : List Event}
    {earlier published : List Message} {subscribed state : HostState} {f : Frame} (tsUs : UInt64)
    (reached : Runs hostStep (HostState.new initialUrl) before earlier subscribed)
    (active : subscribed.activeTabId = f.tabId)
    (ran : Runs pumpStep subscribed (during ++ stills) published state)
    (twice : 2 ≤ stills.length)
    (same : ∀ event ∈ stills, ∃ tsUs aligned, event = .frame f tsUs aligned) :
    ∃ picture, replay (editsOf target published)
        (replay (editsOf target (subscribed.snapshot tsUs).toList) none) = some picture ∧
      picture.width = f.width ∧ picture.height = f.height ∧
      ∀ col < f.width, ∀ row < f.height, SentExactly published col row →
        picture.pixel col row = f.pixel col row := by
  have valid := runs_valid (valid_new initialUrl) reached
  have followed := followed_runs target valid tsUs ran
  have some_still : stills ≠ [] := by
    rintro rfl
    exact absurd twice (by decide)
  have split := List.dropLast_append_getLast some_still
  obtain ⟨frameTs, aligned, last⟩ := same _ (List.getLast_mem some_still)
  rw [last] at split
  rw [← split, ← List.append_assoc] at ran
  obtain ⟨between, earlier, added, ranBefore, stepped, _⟩ := ran.last
  have here : between.activeTabId = f.tabId :=
    (followed_runs target valid tsUs ranBefore).active.trans active
  have stored : state.lastFrames f.tabId = some f := by
    rcases receiveFrame_cases stepped.2.2 with ⟨inactive, _⟩ | ⟨_, rfl, _⟩
    · exact absurd here inactive
    · exact insertFrame_self f
  exact followed.sharp f (active ▸ stored)

theorem pumpStep_frame {f : Frame} {tsUs : UInt64} {aligned : Nat → Bool} {added : List Message}
    {state next : HostState} (wellFormed : f.WellFormed)
    (received : state.receiveFrame f tsUs aligned = .ok (next, added)) :
    pumpStep state (.frame f tsUs aligned) added next := ⟨trivial, wellFormed, received⟩

theorem thirdStored_eq :
    ((firstStored.removeForceFull 1).insertFrame (rowFrame 9)).receiveFrame (rowFrame 9) 3
        (fun _ => true) =
      .ok ((((firstStored.removeForceFull 1).insertFrame (rowFrame 9)).removeForceFull 1).insertFrame
        (rowFrame 9), []) := by
  have delta := deltaMessages_self (rowFrame_wellFormed 9) (fun _ => true) 3
  change (do return (_, ← (rowFrame 9).deltaMessages (fun _ => true) (rowFrame 9) 3)) = _
  rw [delta]
  rfl

/-- The second of three frames differs in one pixel, the third in none. -/
theorem still_pixels_exact_row :
    let published := [(rowFrame 0).rawFrame 0,
      .subframe 2 0 0 1 1 4 0 Compression.zstdDelta [9, 7, 7, 7]]
    ∃ picture, replay (editsOf .bits64 published)
        (replay (editsOf .bits64 ((HostState.new "a").snapshot 0).toList) none) = some picture ∧
      picture.width = 4 ∧ picture.height = 1 ∧
      ∀ col < 4, ∀ row < 1, picture.pixel col row = (rowFrame 9).pixel col row := by
  intro published
  have first : Runs pumpStep (HostState.new "a") [.frame (rowFrame 0) 0 fun _ => true]
      [(rowFrame 0).rawFrame 0] firstStored := .single (pumpStep_frame (rowFrame_wellFormed 0) firstStored_eq)
  have second := first.step (pumpStep_frame (rowFrame_wellFormed 9) secondStored_eq)
  have third := second.step (pumpStep_frame (rowFrame_wellFormed 9) thirdStored_eq)
  let during : List Event := [.frame (rowFrame 0) 0 fun _ => true]
  let stills : List Event := [.frame (rowFrame 9) 2 fun _ => true, .frame (rowFrame 9) 3 fun _ => true]
  have same : ∀ event ∈ stills, ∃ tsUs aligned, event = .frame (rowFrame 9) tsUs aligned := by
    simp [stills]
  have ran : Runs pumpStep (HostState.new "a") (during ++ stills) published _ := third
  obtain ⟨picture, replayed, width, height, pixels⟩ :=
    still_pixels_exact .bits64 "a" 0 .start rfl ran (Nat.le_refl 2) same
  have small : ∀ m ∈ published, BelowQ2 m := by decide
  exact ⟨picture, replayed, width, height, fun col col_lt row row_lt =>
    pixels col col_lt row row_lt (sentExactly_of_forall small)⟩

/-! ## Half resolution -/

/-- A rectangle that is sent at half resolution comes back as the means of means. -/
theorem receivedPixels_draws {w h : Nat} {value : Channels} {pixels : Bytes} (w_pos : 0 < w)
    (h_pos : 0 < h) (drawn : Draws w (h * w) value pixels) (length : pixels.length = h * w * 4)
    (small : pixels.length ≤ 2 ^ 31) :
    Draws w (h * w) (enlarged w h (halved w h value))
      (receivedPixels target Compression.lz4DeltaQ2 w h pixels) := by
  have wide := target.usizeMax_ge
  have halves : Checked.Returns (downsample2x2Bgra target pixels w h) _ :=
    downsample2x2Bgra_draws w_pos h_pos drawn length (by omega)
  obtain ⟨down, halving, down_length, half⟩ := halves
  have enlarges : Checked.Returns (upsample2x2Bgra target down w h) _ :=
    upsample2x2Bgra_draws w_pos h_pos half down_length (by omega)
  obtain ⟨out, enlarging, _, whole⟩ := enlarges
  have received : receivedPixels target Compression.lz4DeltaQ2 w h pixels = out := by
    unfold receivedPixels
    rw [if_pos rfl]
    simp only [halving, enlarging, bind, Except.bind]
  rw [received]
  exact whole

theorem pixelAt_getElem? {pixels : Bytes} {stride col row c : Nat} (c_lt : c < 4) :
    (pixelAt pixels stride col row)[c]? = pixels[row * stride + 4 * col + c]? := by
  unfold pixelAt
  rw [List.getElem?_take_of_lt c_lt, List.getElem?_drop]

theorem draws_of_pixels {w h : Nat} {pixels : Bytes} {pixel : Nat → Nat → Bytes}
    (length : pixels.length = h * (4 * w))
    (same : ∀ col < w, ∀ row < h, pixelAt pixels (4 * w) col row = pixel col row) :
    Draws w (h * w) (fun col row c => (pixel col row).getD c 0) pixels := by
  intro i i_lt c c_lt
  have w_pos : 0 < w := Nat.pos_of_mul_pos_left (Nat.lt_of_le_of_lt (Nat.zero_le i) i_lt)
  have col_lt : i % w < w := Nat.mod_lt i w_pos
  have row_lt : i / w < h := Nat.div_lt_of_lt_mul (Nat.mul_comm h w ▸ i_lt)
  have place : i / w * (4 * w) + 4 * (i % w) + c = i * 4 + c := by
    have parts := Nat.div_add_mod i w
    calc i / w * (4 * w) + 4 * (i % w) + c = (w * (i / w) + i % w) * 4 + c := by ring
      _ = i * 4 + c := by rw [parts]
  have inside : i * 4 + c < pixels.length := by
    rw [length]
    calc i * 4 + c < (i + 1) * 4 := by omega
      _ ≤ h * w * 4 := Nat.mul_le_mul_right 4 i_lt
      _ = h * (4 * w) := by ring
  have found : (pixelAt pixels (4 * w) (i % w) (i / w))[c]? =
      pixels[i / w * (4 * w) + 4 * (i % w) + c]? := pixelAt_getElem? c_lt
  rw [place, same _ col_lt _ row_lt, List.getElem?_eq_getElem inside] at found
  simp only [List.getD_eq_getElem?_getD, found, List.getElem?_eq_getElem inside, Option.getD_some]

section Examples

/-- Two rows of 60001 pixels. -/
def wide (pixels : Bytes) : Frame where
  tabId := 1
  width := 60001
  height := 2
  stride := 240004
  format := 0
  pixels
  stride_lt := by decide

def black : Bytes := List.replicate 480008 0

/-- The pixel in the corner is blue, and so is one in the other row. -/
def dots : Bytes := (black.set 0 255).set 432000 255

theorem wide_wellFormed {pixels : Bytes} (length : pixels.length = 480008) :
    (wide pixels).WellFormed where
  width_pos := (by decide : 0 < 60001)
  width_le := (by decide : 60001 ≤ 65535)
  height_pos := (by decide : 0 < 2)
  height_le := (by decide : 2 ≤ 65535)
  stride_ge := (by decide : 4 * 60001 ≤ 240004)
  pixels_length := by
    change pixels.length = 240004 * 2
    rw [length]

theorem black_length : black.length = 480008 := by
  unfold black
  rw [List.length_replicate]

theorem dots_length : dots.length = 480008 := by
  unfold dots
  rw [List.length_set, List.length_set, black_length]

theorem dots_getElem? (i : Nat) (inside : i < 480008) :
    dots[i]? = some (if i = 0 ∨ i = 432000 then 255 else 0) := by
  have blank : black[i]? = some 0 := by
    unfold black
    rw [List.getElem?_replicate, if_pos inside]
  unfold dots
  rw [List.getElem?_set, List.getElem?_set, blank, List.length_set, black_length]
  by_cases second : i = 432000
  · simp [second]
  · by_cases first : i = 0
    · simp [first]
    · simp [first, second, Ne.symm first, Ne.symm second]

theorem dots_pixel {col row : Nat} (col_lt : col < 60001) (row_lt : row < 2) :
    (wide dots).pixel col row =
      if (col = 0 ∧ row = 0) ∨ (col = 47999 ∧ row = 1) then [255, 0, 0, 0] else [0, 0, 0, 0] := by
  have channel (c : Nat) (c_lt : c < 4) : (pixelAt dots 240004 col row)[c]? =
      some (if row * 240004 + 4 * col + c = 0 ∨ row * 240004 + 4 * col + c = 432000 then 255 else 0) := by
    rw [pixelAt_getElem? c_lt, dots_getElem? _ (by omega)]
  have length : (pixelAt dots 240004 col row).length = 4 := by
    unfold pixelAt
    rw [List.length_take, List.length_drop, dots_length]
    omega
  have dot : (col = 0 ∧ row = 0) ∨ (col = 47999 ∧ row = 1) ↔
      row * 240004 + 4 * col + 0 = 0 ∨ row * 240004 + 4 * col + 0 = 432000 := by omega
  have blue := channel 0 (by decide)
  have green := channel 1 (by decide)
  have red := channel 2 (by decide)
  have alpha := channel 3 (by decide)
  rw [if_neg (by omega)] at green red alpha
  rw [← if_congr dot rfl rfl] at blue
  change pixelAt dots 240004 col row = _
  match pixel_eq : pixelAt dots 240004 col row, length with
  | [b, g, r, a], _ =>
      rw [pixel_eq] at blue green red alpha
      cases green
      cases red
      cases alpha
      cases blue
      split <;> rfl

theorem black_pixel {col row : Nat} (col_lt : col < 60001) (row_lt : row < 2) :
    pixelAt black 240004 col row = [0, 0, 0, 0] := by
  unfold pixelAt black
  rw [List.drop_replicate, List.take_replicate, Nat.min_eq_left (by omega)]
  rfl

/-- The first of the two frames against the second. -/
def wideDiff (aligned : Nat → Bool) : DiffInput :=
  { a := black, b := dots, w := 60001, h := 2, s := 240004, aligned }

theorem wideDiff_differs_iff {aligned : Nat → Bool} {row col : Nat} :
    (wideDiff aligned).Differs row col ↔ (col = 0 ∧ row = 0) ∨ (col = 47999 ∧ row = 1) := by
  constructor
  · rintro ⟨row_lt, col_lt, differ⟩
    have dotted := dots_pixel col_lt row_lt
    by_contra apart
    rw [if_neg apart] at dotted
    exact differ ((black_pixel col_lt row_lt).trans dotted.symm)
  · intro dot
    have row_lt : row < 2 := by omega
    have col_lt : col < 60001 := by omega
    have dotted := dots_pixel col_lt row_lt
    rw [if_pos dot] at dotted
    refine ⟨row_lt, col_lt, fun same => ?_⟩
    have pixels := (black_pixel col_lt row_lt).symm.trans (same.trans dotted)
    cases pixels

/-- The box of both dots. -/
def wideRegion : Region := { x := 0, y := 0, w := 48000, h := 2 }

theorem wide_regions {aligned : Nat → Bool} {regions : List Region}
    (covered : (wideDiff aligned).Covered regions) : regions = [wideRegion] := by
  have inFrame {region : Region} (member : region ∈ regions) : region.rows.1 < 2 := by
    obtain ⟨col, differs⟩ := (covered.boxes region member).top
    exact differs.1
  obtain ⟨region, member, first⟩ := covered.covers 0 0 (wideDiff_differs_iff.mpr (by decide))
  obtain ⟨other, also, second⟩ := covered.covers 1 47999 (wideDiff_differs_iff.mpr (by decide))
  have single : regions = [region] := by
    match regions, covered.separated, @inFrame, member with
    | [only], _, _, member => rw [List.mem_singleton.mp member]
    | one :: two :: rest, separated, inFrame, _ =>
        have apart := (List.pairwise_cons.mp separated).1 two List.mem_cons_self
        have below := @inFrame two (List.mem_cons_of_mem _ List.mem_cons_self)
        omega
  rw [single] at also
  cases List.mem_singleton.mp also
  have box := covered.boxes region member
  obtain ⟨left, _, top, _⟩ := first
  obtain ⟨_, right, _, bottom⟩ := second
  obtain ⟨row, _, _, edge⟩ := box.right
  have last := wideDiff_differs_iff.mp edge
  have rows := box.rows_inside
  have height : (wideDiff aligned).h = 2 := rfl
  simp only [Region.rect] at left top right bottom
  have x : region.x = 0 := UInt16.toNat_inj.mp (by rw [UInt16.toNat_zero]; omega)
  have y : region.y = 0 := UInt16.toNat_inj.mp (by rw [UInt16.toNat_zero]; omega)
  have w : region.w = 48000 := by
    refine UInt16.toNat_inj.mp ?_
    change region.w.toNat = 48000
    omega
  have h : region.h = 2 := by
    refine UInt16.toNat_inj.mp ?_
    change region.h.toNat = 2
    omega
  rw [single]
  cases region
  cases x
  cases y
  cases w
  cases h
  rfl

/-- The means around a pixel that is alone among black ones. -/
theorem enlarged_corner {value : Channels} (dot : value 0 0 0 = 255)
    (dark : ∀ col < 4, ∀ row < 2, ¬ (col = 0 ∧ row = 0) → value col row 0 = 0) :
    enlarged 48000 2 (halved 48000 2 value) 0 0 0 = 64 := by
  have corner : halved 48000 2 value 0 0 0 = 64 := by
    have right := dark 1 (by decide) 0 (by decide) (by decide)
    have below := dark 0 (by decide) 1 (by decide) (by decide)
    have across := dark 1 (by decide) 1 (by decide) (by decide)
    change boxAverage (value 0 0 0) (value 1 0 0) (value 0 1 0) (value 1 1 0) = 64
    rw [dot, right, below, across]
    rfl
  change boxAverage (halved 48000 2 value 0 0 0) (halved 48000 2 value 0 0 0)
    (halved 48000 2 value 0 0 0) (halved 48000 2 value 0 0 0) = 64
  rw [corner]
  rfl

/-- Blue, at the corner of the rectangle as it is received. -/
theorem wide_blurred {sub : Bytes} (length : sub.length = 2 * (4 * 48000))
    (pixels : ∀ col < 48000, ∀ row < 2, pixelAt sub (4 * 48000) col row = (wide dots).pixel col row) :
    (pixelAt (receivedPixels .bits64 Compression.lz4DeltaQ2 48000 2 sub) 192000 0 0)[0]? = some 64 := by
  have small : sub.length ≤ 2 ^ 31 := by omega
  have received : Draws _ _ _ (receivedPixels .bits64 Compression.lz4DeltaQ2 48000 2 sub) :=
    receivedPixels_draws (by decide) (by decide) (draws_of_pixels length pixels) (by omega) small
  have blue := received 0 (by decide) 0 (by decide)
  rw [pixelAt_getElem? (by decide), blue]
  refine congrArg some (enlarged_corner ?_ fun col col_lt row row_lt apart => ?_)
  · rw [dots_pixel (by decide) (by decide), if_pos (by decide)]
    rfl
  · rw [dots_pixel (by omega) row_lt, if_neg (by omega)]
    rfl

theorem wide_delta : Checked.Returns ((wide black).deltaMessages (fun _ => true) (wide dots) 1)
    fun published => ∃ sub, published = [.subframe 1 0 0 48000 2 192000 0 Compression.lz4DeltaQ2 sub] ∧
      (pixelAt (receivedPixels .bits64 Compression.lz4DeltaQ2 48000 2 sub) 192000 0 0)[0]? = some 64 := by
  have wellFormed := wide_wellFormed dots_length
  have sound : (wideDiff fun _ => true).Sound :=
    sound_of_sameGeom (wide_wellFormed black_length) wellFormed ⟨rfl, rfl, rfl⟩
  obtain ⟨regions, found, covered⟩ := DiffInput.diffRegions_returns sound
  cases wide_regions covered
  obtain ⟨sub, extracted, length, pixels⟩ := extractSubrect_returns wellFormed
    (Nat.le_of_ble_eq_true rfl : wideRegion.x.toNat + wideRegion.w.toNat ≤ (wide dots).width)
    (Nat.le_of_ble_eq_true rfl : wideRegion.y.toNat + wideRegion.h.toNat ≤ (wide dots).height)
  have blurred : ∀ col < 48000, ∀ row < 2,
      pixelAt sub (4 * 48000) col row = (wide dots).pixel col row := by
    intro col col_lt row row_lt
    have same := pixels col col_lt row row_lt
    rwa [show wideRegion.x.toNat = 0 from rfl, show wideRegion.y.toNat = 0 from rfl, Nat.zero_add,
      Nat.zero_add] at same
  have regions : diffRegions (fun _ => true) (wide black).pixels (wide dots).pixels (wide dots).width
      (wide dots).height (wide dots).stride = .ok [wideRegion] := found
  have sent : (wide dots).subframe 1 wideRegion =
      .ok (.subframe 1 0 0 48000 2 192000 0 Compression.lz4DeltaQ2 sub) := by
    unfold Frame.subframe
    rw [extracted]
    rfl
  refine ⟨_, ?_, sub, rfl, wide_blurred length blurred⟩
  refine deltaMessages_single regions ?_ sent
  change 96000 * 10 < 60001 * 2 * 8
  decide

theorem receiveFrame_delta {state : HostState} {f prev : Frame} {tsUs : UInt64} {aligned : Nat → Bool}
    {published : List Message} (active : state.activeTabId = f.tabId)
    (unforced : state.forceFull f.tabId = false) (stored : state.lastFrames f.tabId = some prev)
    (same : prev.sameGeom f) (sent : prev.deltaMessages aligned f tsUs = .ok published) :
    state.receiveFrame f tsUs aligned =
      .ok ((state.removeForceFull f.tabId).insertFrame f, published) := by
  unfold HostState.receiveFrame
  rw [if_pos active, stored, unforced]
  simp only [Bool.not_false, true_and, if_pos same, sent]
  rfl

/-- The dot in the corner stays blurred however often the frame comes again. -/
theorem still_picture_blurred : ∃ published state picture,
    Runs pumpStep (HostState.new "a") [.frame (wide black) 0 fun _ => true,
      .frame (wide dots) 1 fun _ => true, .frame (wide dots) 2 fun _ => true] published state ∧
    replay (editsOf .bits64 published) none = some picture ∧
    (picture.pixel 0 0)[0]? = some 64 ∧ ((wide dots).pixel 0 0)[0]? = some 255 := by
  obtain ⟨delta, sent, sub, rfl, blurred⟩ := wide_delta
  have wellFormedBlack := wide_wellFormed black_length
  have wellFormed := wide_wellFormed dots_length
  have first : Runs pumpStep (HostState.new "a") [.frame (wide black) 0 fun _ => true]
      [(wide black).rawFrame 0] _ := .single (pumpStep_frame wellFormedBlack rfl)
  have second := first.step (pumpStep_frame wellFormed
    (receiveFrame_delta rfl rfl (insertFrame_self (wide black)) ⟨rfl, rfl, rfl⟩ sent))
  have third := second.step (pumpStep_frame wellFormed
    (receiveFrame_delta rfl rfl (insertFrame_self (wide dots)) ⟨rfl, rfl, rfl⟩
      (deltaMessages_self wellFormed (fun _ => true) 2)))
  obtain ⟨shown, replayed, width, height, _⟩ := replay_rawFrame wellFormedBlack 0 none
  have width_pos := wellFormedBlack.width_pos
  have height_pos := wellFormedBlack.height_pos
  refine ⟨_, _, shown.patch ⟨0, 0, 48000, 2⟩ (pixelAt
    (receivedPixels .bits64 Compression.lz4DeltaQ2 48000 2 sub) 192000), third, ?_, ?_, ?_⟩
  · rw [List.append_nil, editsOf_append, editsOf_rawFrame, replay_append, replayed]
    rfl
  · refine (congrArg (fun pixel : Bytes => pixel[0]?) (if_pos ?_)).trans blurred
    exact ⟨by decide, by omega, by omega⟩
  · rw [dots_pixel (by decide) (by decide), if_pos (by decide)]
    rfl

end Examples

end ExoBrowser.Host
