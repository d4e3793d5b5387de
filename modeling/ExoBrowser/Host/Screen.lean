import ExoBrowser.Host.DeltaStream
import ExoBrowser.Host.ExactCover
import ExoBrowser.Library.View

/-!
# The active tab through a window

What the host publishes leads every window that shows the active tab from one of its frames
to the next. What a window shows of a tab whose frame is gone does not matter.
-/

set_option autoImplicit false

namespace ExoBrowser.Host

open Library Proto Checked

variable {β : Type} {view : View Bytes β} {target : Target}

/-! ## What the pump sends -/

/-- A message that shows a frame or a rectangle inside it that is not empty. -/
inductive Frame.Sends (f : Frame) (tsUs : UInt64) : Message → Prop where
  | whole : f.Sends tsUs (f.rawFrame tsUs)
  | part {region : Region} {sub : Bytes} :
      region.x.toNat + region.w.toNat ≤ f.width → region.y.toNat + region.h.toNat ≤ f.height →
      0 < region.w.toNat → 0 < region.h.toNat →
      sub.length = region.h.toNat * (4 * region.w.toNat) →
      f.Sends tsUs (.subframe tsUs region.x region.y region.w region.h
        (UInt32.ofNat (region.w.toNat * 4)) f.format (regionCompression region) sub)

theorem DiffInput.IsBox.w_pos {input : DiffInput} {region : Region} (isBox : input.IsBox region) :
    0 < region.w.toNat := by
  obtain ⟨y, above, below, differs⟩ := isBox.left
  obtain ⟨_, right, _, _⟩ := isBox.bounds y _ above below differs
  simp only [Region.rect] at right
  omega

theorem subframe_sends {f : Frame} (wellFormed : f.WellFormed) (tsUs : UInt64) {region : Region}
    {input : DiffInput} (isBox : input.IsBox region) (width : input.w = f.width)
    (height : input.h = f.height) : Returns (f.subframe tsUs region) (f.Sends tsUs) := by
  have cols := isBox.cols_inside
  have rows := isBox.rows_inside
  rw [width] at cols
  rw [height] at rows
  unfold Frame.subframe
  refine (extractSubrect_returns wellFormed cols rows).bind fun sub ⟨length, _⟩ => ⟨_, rfl, ?_⟩
  exact .part cols rows isBox.w_pos isBox.h_pos length

theorem deltaMessages_sends {aligned : Nat → Bool} {prev f : Frame} (prevWellFormed : prev.WellFormed)
    (wellFormed : f.WellFormed) (same : prev.sameGeom f) (tsUs : UInt64) :
    Returns (prev.deltaMessages aligned f tsUs) fun published => ∀ m ∈ published, f.Sends tsUs m := by
  obtain ⟨published, result, sent⟩ :=
    deltaMessages_cases aligned prevWellFormed wellFormed same tsUs
  refine ⟨published, result, ?_⟩
  rcases sent with rfl | ⟨regions, covered, mapped⟩
  · exact List.forall_mem_singleton.mpr .whole
  · obtain ⟨found, again, _, each⟩ := Returns.mapM fun region member =>
      subframe_sends wellFormed tsUs (covered.boxes region member) rfl rfl
    cases mapped.symm.trans again
    intro m member
    obtain ⟨region, _, sends⟩ := each m member
    exact sends

/-- A patch lies in the frame that it is a part of. -/
theorem Frame.Sends.inside {f : Frame} {tsUs : UInt64} {m : Message} (sends : f.Sends tsUs m) :
    ∀ edit ∈ editOf target m, edit.Inside f.width f.height := by
  cases sends with
  | whole =>
      rintro edit ⟨⟩
      trivial
  | part cols rows =>
      rintro edit ⟨⟩
      exact ⟨Nat.zero_le _, Nat.zero_le _, (Nat.zero_add f.width).symm ▸ cols,
        (Nat.zero_add f.height).symm ▸ rows⟩

/-! ## Steps -/

/-- What a window shows of the messages, one after the other. -/
def seenEdits (view : View Bytes β) (target : Target) (messages : List Message) : List (Edit β) :=
  (editsOf target messages).map view.edit

theorem seenEdits_append (first second : List Message) :
    seenEdits view target (first ++ second) = seenEdits view target first ++ seenEdits view target second := by
  simp only [seenEdits, editsOf_append, List.map_append]

theorem seenEdits_of_editsOf {messages : List Message} (quiet : editsOf target messages = []) :
    seenEdits view target messages = [] := by
  simp only [seenEdits, quiet, List.map_nil]

def Frame.seen (view : View Bytes β) (f : Frame) : Nat → Nat → β :=
  view.target f.width f.height f.pixel

/-- The window has to show the stored frame of the active tab, if there is one. -/
def HostState.Aims (state : HostState) (view : View Bytes β) (aim : Nat → Nat → β) : Prop :=
  ∀ f, state.lastFrames state.activeTabId = some f → aim = f.seen view

/-- The events that select no tab. -/
def Event.Stays : Event → Prop
  | .switchTab _ _ => False
  | .createTab _ _ makeActive _ => makeActive = false
  | _ => True

/-- What is published leads windows to what they have to show next. -/
def LeadsOn (target : Target) (view : View Bytes β) (aim : Nat → Nat → β) (next : HostState)
    (published : List Message) : Prop :=
  ∃ nextAim, next.Aims view nextAim ∧
    Leads view.width view.height aim nextAim (seenEdits view target published)

variable {state next : HostState} {aim : Nat → Nat → β} {published : List Message}

/-- Nothing is shown, and no frame is new. -/
theorem leadsOn_quiet (aims : state.Aims view aim) (sameTab : next.activeTabId = state.activeTabId)
    (stored : ∀ f, next.lastFrames state.activeTabId = some f →
      state.lastFrames state.activeTabId = some f)
    (quiet : editsOf target published = []) : LeadsOn target view aim next published := by
  refine ⟨aim, fun f found => ?_, ?_⟩
  · rw [sameTab] at found
    exact aims f (stored f found)
  · rw [seenEdits_of_editsOf quiet]
    exact .refl

theorem leadsOn_frame {f : Frame} (stored : next.lastFrames next.activeTabId = some f)
    (leads : Leads view.width view.height aim (f.seen view) (seenEdits view target published)) :
    LeadsOn target view aim next published := by
  refine ⟨f.seen view, fun g found => ?_, leads⟩
  rw [stored] at found
  cases found
  rfl

theorem leads_whole {f : Frame} (wellFormed : f.WellFormed) (tsUs : UInt64) (aim : Nat → Nat → β) :
    Leads view.width view.height aim (f.seen view) (seenEdits view target [f.rawFrame tsUs]) := by
  have edits : seenEdits view target [f.rawFrame tsUs] =
      [.replace { width := view.width, height := view.height, pixel := f.seen view }] := by
    simp [seenEdits, editsOf, editOf_rawFrame wellFormed, View.edit, Frame.seen]
  rw [edits]
  constructor
  · intro edit member
    cases List.mem_singleton.mp member
    exact ⟨rfl, rfl, fun _ _ _ _ => rfl⟩
  · exact fun _ _ _ _ _ => ⟨_, List.mem_cons_self, trivial⟩

theorem leads_delta {aligned : Nat → Bool} {prev f : Frame} {tsUs : UInt64} (prevWellFormed : prev.WellFormed)
    (wellFormed : f.WellFormed) (same : prev.sameGeom f)
    (delta : prev.deltaMessages aligned f tsUs = .ok published) (small : ∀ m ∈ published, BelowQ2 m) :
    Leads view.width view.height (prev.seen view) (f.seen view) (seenEdits view target published) := by
  obtain ⟨found, returned, leads⟩ :=
    deltaMessages_returns aligned prevWellFormed wellFormed same tsUs
  cases delta.symm.trans returned
  obtain ⟨again, returned, sends⟩ := @deltaMessages_sends aligned _ _ prevWellFormed wellFormed same tsUs
  cases delta.symm.trans returned
  obtain ⟨width, height, _⟩ := same
  have inside : ∀ edit ∈ editsOf target published, edit.Inside f.width f.height := by
    intro edit member
    obtain ⟨m, sent, edits⟩ := List.mem_filterMap.mp member
    exact (sends m sent).inside edit edits
  have seen : prev.seen view = view.target f.width f.height prev.pixel := by
    rw [Frame.seen, width, height]
  rw [seen]
  exact View.leads (deltaMessages_leads target leads small) inside

/-- Messages of the bus that show no picture. -/
inductive Told : Message → Prop where
  | loadState (load : UInt8) : Told (.loadState load)
  | title (newTitle : String) : Told (.title newTitle)
  | urlChanged (newUrl : String) : Told (.urlChanged newUrl)
  | tabTitle (tabId : UInt32) (newTitle : String) : Told (.tabTitle tabId newTitle)
  | tabUrl (tabId : UInt32) (newUrl : String) : Told (.tabUrl tabId newUrl)
  | cursorState (shape : CursorShape) : Told (.cursorState shape 0 0 0)

theorem Told.silent {m : Message} (told : Told m) : sentEdit m = none := by
  cases told <;> rfl

theorem told_ifActive {m : Message} (told : Told m) (tabId : UInt32) :
    ∀ other ∈ state.ifActive tabId m, Told other := by
  unfold HostState.ifActive
  split
  case isTrue => exact List.forall_mem_singleton.mpr told
  case isFalse => exact List.forall_mem_nil _

/-- What a host publishes that stays on its tab: nothing that is seen, or what it has of a new frame,
whole or in the rectangles that differ. -/
inductive Delivers (state next : HostState) (published : List Message) : Prop where
  | quiet : (∀ m ∈ published, Told m) →
      (∀ f, next.lastFrames state.activeTabId = some f → state.lastFrames state.activeTabId = some f) →
      Delivers state next published
  | whole {f tsUs} : f.WellFormed → next.lastFrames state.activeTabId = some f →
      published = [f.rawFrame tsUs] → Delivers state next published
  | changes {prev f aligned tsUs} : f.WellFormed → next.lastFrames state.activeTabId = some f →
      state.lastFrames state.activeTabId = some prev → prev.sameGeom f →
      prev.deltaMessages aligned f tsUs = .ok published → Delivers state next published

theorem receiveFrame_delivers {f : Frame} (wellFormed : f.WellFormed) {tsUs : UInt64} {aligned : Nat → Bool}
    (received : state.receiveFrame f tsUs aligned = .ok (next, published)) :
    next.activeTabId = state.activeTabId ∧ Delivers state next published := by
  unfold HostState.receiveFrame at received
  by_cases active : state.activeTabId = f.tabId
  · rw [if_pos active] at received
    have kept : ((state.removeForceFull f.tabId).insertFrame f).lastFrames state.activeTabId = some f := by
      rw [active, insertFrame_self]
    cases stored : state.lastFrames f.tabId with
    | none =>
        rw [stored] at received
        cases received
        exact ⟨rfl, .whole wellFormed kept rfl⟩
    | some prev =>
        simp only [stored] at received
        split at received
        case isTrue delta =>
          obtain ⟨changes, returned, same⟩ := bind_eq_ok received
          cases same
          exact ⟨rfl, .changes wellFormed kept (active.symm ▸ stored) delta.2 returned⟩
        case isFalse =>
          cases received
          exact ⟨rfl, .whole wellFormed kept rfl⟩
  · rw [if_neg active] at received
    cases received
    exact ⟨rfl, .quiet (List.forall_mem_nil _) fun g found => (insertFrame_of_ne active).symm.trans found⟩

/-- One step of the host that selects no tab. -/
theorem step_delivers {event : Event} (allowed : event.Allowed state) (stays : event.Stays)
    (stepped : state.step event = .ok (next, published)) :
    next.activeTabId = state.activeTabId ∧ Delivers state next published := by
  cases event with
  | frame f tsUs aligned => exact receiveFrame_delivers allowed stepped
  | load tabId load =>
      cases load <;> cases stepped <;> exact ⟨rfl, .quiet (told_ifActive (.loadState _) tabId) fun _ => id⟩
  | title tabId newTitle =>
      cases stepped
      refine ⟨rfl, .quiet (List.forall_mem_cons.mpr ⟨.tabTitle tabId newTitle, ?_⟩) fun _ => id⟩
      exact told_ifActive (.title newTitle) tabId
  | url tabId newUrl =>
      cases stepped
      refine ⟨rfl, .quiet (List.forall_mem_cons.mpr ⟨.tabUrl tabId newUrl, ?_⟩) fun _ => id⟩
      exact told_ifActive (.urlChanged newUrl) tabId
  | cursor tabId shapeId =>
      cases stepped
      exact ⟨rfl, .quiet (told_ifActive (.cursorState _) tabId) fun _ => id⟩
  | switchTab tabId tsUs => exact stays.elim
  | createTab tabId url makeActive tsUs =>
      cases stays
      cases stepped
      exact ⟨rfl, .quiet (List.forall_mem_nil _) fun _ => id⟩
  | closeTab tabId =>
      cases stepped
      refine ⟨rfl, .quiet (List.forall_mem_nil _) fun f found => ?_⟩
      by_cases closed : state.activeTabId = tabId
      · subst closed
        simp at found
      · exact (Function.update_of_ne closed _ _).symm.trans found

theorem step_leadsOn (valid : state.Valid) (aims : state.Aims view aim) {event : Event}
    (allowed : event.Allowed state) (stays : event.Stays)
    (stepped : state.step event = .ok (next, published)) (small : ∀ m ∈ published, BelowQ2 m) :
    LeadsOn target view aim next published := by
  obtain ⟨sameTab, delivers⟩ := step_delivers allowed stays stepped
  cases delivers with
  | quiet told stored =>
      refine leadsOn_quiet aims sameTab stored (List.filterMap_eq_nil_iff.mpr fun m member => ?_)
      exact editOf_of_silent (told m member).silent
  | whole wellFormed stored sent =>
      subst sent
      exact leadsOn_frame (sameTab.symm ▸ stored) (leads_whole wellFormed _ aim)
  | changes wellFormed stored before same delta =>
      cases aims _ before
      exact leadsOn_frame (sameTab.symm ▸ stored) (leads_delta (valid _ _ before) wellFormed same delta small)

/-- What a host publishes that selects no tab. -/
def Ordinary (m : Message) : Prop :=
  (∃ f tsUs, f.WellFormed ∧ Frame.Sends f tsUs m) ∨ Told m

theorem step_publishes (valid : state.Valid) {event : Event} (allowed : event.Allowed state)
    (stays : event.Stays) (stepped : state.step event = .ok (next, published)) :
    ∀ m ∈ published, Ordinary m := by
  obtain ⟨_, delivers⟩ := step_delivers allowed stays stepped
  cases delivers with
  | quiet told => exact fun m member => .inr (told m member)
  | @whole f tsUs wellFormed stored sent =>
      rw [sent]
      exact List.forall_mem_singleton.mpr (.inl ⟨f, tsUs, wellFormed, .whole⟩)
  | @changes prev f aligned tsUs wellFormed stored before same delta =>
      obtain ⟨found, returned, sends⟩ :=
        @deltaMessages_sends aligned _ _ (valid _ prev before) wellFormed same tsUs
      cases delta.symm.trans returned
      exact fun m member => .inl ⟨f, tsUs, wellFormed, sends m member⟩

theorem snapshot_ordinary (valid : state.Valid) (tsUs : UInt64) :
    ∀ m ∈ state.snapshot tsUs, Ordinary m := by
  intro m snapped
  unfold HostState.snapshot at snapped
  cases stored : state.lastFrames state.activeTabId with
  | none => simp [stored] at snapped
  | some f =>
      simp only [stored, Option.map_some, Option.mem_def, Option.some.injEq] at snapped
      subst snapped
      exact .inl ⟨f, tsUs, valid _ f stored, .whole⟩

/-- The snapshot shows what windows have to show. -/
theorem snapshot_shows (valid : state.Valid) (aims : state.Aims view aim) (tsUs : UInt64)
    (shown : Option (Picture β)) {answer : Message} (snapped : state.snapshot tsUs = some answer) :
    ∃ picture, replay (seenEdits view target [answer]) shown = some picture ∧
      picture.Shows view.width view.height aim := by
  unfold HostState.snapshot at snapped
  cases stored : state.lastFrames state.activeTabId with
  | none => simp [stored] at snapped
  | some f =>
      cases aims f stored
      simp only [stored, Option.map_some, Option.some.injEq] at snapped
      subst snapped
      refine ⟨{ width := view.width, height := view.height, pixel := f.seen view }, ?_, rfl, rfl,
        fun _ _ _ _ => rfl⟩
      simp [seenEdits, editsOf, editOf_rawFrame (valid _ f stored), View.edit, Edit.apply, Frame.seen]

end ExoBrowser.Host
