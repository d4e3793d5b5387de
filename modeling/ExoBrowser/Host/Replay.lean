import ExoBrowser.Host.DeltaStream

/-!
# Snapshot and replay

New and lagged subscribers apply messages that are older than their snapshot. The
picture regresses in between, and ends as the last frame.
-/

set_option autoImplicit false

namespace ExoBrowser.Host

open Library Proto

/-- The pump publishes `published` for a frame of the active tab, when `prev` is stored
for that tab. -/
def PumpPublishes (prev : Option Frame) (f : Frame) (published : List Message) : Prop :=
  ∃ (state next : HostState) (tsUs : UInt64) (aligned : Nat → Bool),
    state.activeTabId = f.tabId ∧ state.lastFrames f.tabId = prev ∧
      state.receiveFrame f tsUs aligned = .ok (next, published)

/-- Frames with what the pump publishes for each, every one stored before the next arrives. -/
def FrameRun : Option Frame → List (Frame × List Message) → Prop
  | _, [] => True
  | prev, (f, published) :: rest => PumpPublishes prev f published ∧ FrameRun (some f) rest

variable {target : Target}

theorem PumpPublishes.leads (target : Target) {prev : Option Frame} {f : Frame} {published : List Message}
    (publishes : PumpPublishes prev f published) (prevWellFormed : ∀ g, prev = some g → g.WellFormed)
    (wellFormed : f.WellFormed) (small : ∀ m ∈ published, BelowQ2 m) :
    ∃ before, (∀ g, prev = some g → g.sameGeom f → before = g.pixel) ∧
      Leads f.width f.height before f.pixel (editsOf target published) := by
  obtain ⟨state, next, tsUs, aligned, active, stored, result⟩ := publishes
  unfold HostState.receiveFrame at result
  rw [if_pos active, stored] at result
  cases prev with
  | none =>
      cases result
      refine ⟨f.pixel, nofun, ?_⟩
      rw [editsOf_rawFrame]
      exact leads_rawFrame wellFormed tsUs f.pixel
  | some prev =>
      refine ⟨prev.pixel, fun g same _ => by rw [Option.some.inj same], ?_⟩
      simp only at result
      split at result
      case isTrue delta =>
        obtain ⟨found, returned, leads⟩ :=
          deltaMessages_returns aligned (prevWellFormed prev rfl) wellFormed delta.2 tsUs
        rw [returned] at result
        cases result
        exact deltaMessages_leads target leads small
      case isFalse =>
        cases result
        rw [editsOf_rawFrame]
        exact leads_rawFrame wellFormed tsUs prev.pixel

def sceneOf (target : Target) (delivery : Frame × List Message) :
    (Nat → Nat → Bytes) × List (Edit Bytes) :=
  (delivery.1.pixel, editsOf target delivery.2)

private theorem final_scene (target : Target) {frames : List (Frame × List Message)}
    {last : Frame × List Message}
    (ends : frames.getLast? = some last) (before : Nat → Nat → Bytes) :
    finalTarget before (frames.map (sceneOf target)) = last.1.pixel := by
  obtain ⟨earlier, rfl⟩ := List.getLast?_eq_some_iff.mp ends
  rw [List.map_append, finalTarget_append]
  rfl

private theorem flatMap_scenes (frames : List (Frame × List Message)) :
    (frames.map (sceneOf target)).flatMap (·.2) = editsOf target (frames.flatMap (·.2)) := by
  rw [editsOf, List.filterMap_flatMap, List.flatMap_map]
  rfl

/-- Frames of one geometry, published without loss, make a film. -/
theorem FrameRun.film (target : Target) {prev : Option Frame} {frames : List (Frame × List Message)}
    (run : FrameRun prev frames) (prevWellFormed : ∀ g, prev = some g → g.WellFormed)
    (wellFormed : ∀ delivery ∈ frames, delivery.1.WellFormed) {like : Frame}
    (geometry : ∀ delivery ∈ frames, delivery.1.sameGeom like)
    (small : ∀ delivery ∈ frames, ∀ m ∈ delivery.2, BelowQ2 m) :
    ∃ before, (∀ g, prev = some g → g.sameGeom like → before = g.pixel) ∧
      Film like.width like.height before (frames.map (sceneOf target)) := by
  induction frames generalizing prev with
  | nil =>
      cases prev with
      | none => exact ⟨like.pixel, nofun, trivial⟩
      | some prev => exact ⟨prev.pixel, fun g same _ => by rw [Option.some.inj same], trivial⟩
  | cons delivery frames ih =>
      obtain ⟨f, published⟩ := delivery
      obtain ⟨publishes, rest⟩ := run
      have here : f.WellFormed := wellFormed _ List.mem_cons_self
      have same : f.sameGeom like := geometry (f, published) List.mem_cons_self
      obtain ⟨before, from_prev, leads⟩ := publishes.leads target prevWellFormed here
        (small _ List.mem_cons_self)
      obtain ⟨next, from_f, film⟩ := ih rest (fun g stored => Option.some.inj stored ▸ here)
        (fun other member => wellFormed other (List.mem_cons_of_mem _ member))
        (fun other member => geometry other (List.mem_cons_of_mem _ member))
        (fun other member => small other (List.mem_cons_of_mem _ member))
      refine ⟨before, fun g stored sameGeom => from_prev g stored ?_, ?_, ?_⟩
      · obtain ⟨width_eq, height_eq, stride_eq⟩ := same
        exact ⟨sameGeom.1.trans width_eq.symm, sameGeom.2.1.trans height_eq.symm,
          sameGeom.2.2.trans stride_eq.symm⟩
      · obtain ⟨width_eq, height_eq, _⟩ := same
        rwa [width_eq, height_eq] at leads
      · rwa [from_f f rfl same] at film

/-- A client that shows the frame `k` of a run of one tab and one geometry, and applies
what was published from some point before the end of that frame's messages on, ends
showing the last frame. -/
theorem replay_converges (target : Target) {prev : Option Frame}
    {frames : List (Frame × List Message)} {k : Nat} {shown last : Frame × List Message}
    {dropped stale : List Message} {picture : Picture Bytes}
    (prevWellFormed : ∀ g, prev = some g → g.WellFormed)
    (wellFormed : ∀ delivery ∈ frames, delivery.1.WellFormed)
    (geometry : ∀ delivery ∈ frames, delivery.1.sameGeom shown.1)
    (run : FrameRun prev frames) (small : ∀ delivery ∈ frames, ∀ m ∈ delivery.2, BelowQ2 m)
    (snapshot : frames[k]? = some shown) (ends : frames.getLast? = some last)
    (split : frames.flatMap (·.2) = dropped ++ stale)
    (cut : dropped <+: (frames.take (k + 1)).flatMap (·.2))
    (shows : picture.Shows shown.1.width shown.1.height shown.1.pixel) :
    ∃ result, replay (editsOf target stale) (some picture) = some result ∧
      result.Shows last.1.width last.1.height last.1.pixel := by
  obtain ⟨before, _, film⟩ := run.film target prevWellFormed wellFormed geometry small
  obtain ⟨staleEarly, staleEarly_eq⟩ := cut
  have stale_eq : stale = staleEarly ++ (frames.drop (k + 1)).flatMap (·.2) := by
    rw [← List.take_append_drop (k + 1) frames, List.flatMap_append, ← staleEarly_eq,
      List.append_assoc] at split
    exact (List.append_cancel_left split).symm
  have shownLast : (frames.take (k + 1)).getLast? = some shown := by
    rw [List.getLast?_take]
    simp [snapshot]
  have parts : frames.map (sceneOf target) = (frames.take (k + 1)).map (sceneOf target) ++
      (frames.drop (k + 1)).map (sceneOf target) := by
    rw [← List.map_append, List.take_append_drop]
  rw [parts] at film
  have suffix : editsOf target staleEarly <:+
      ((frames.take (k + 1)).map (sceneOf target)).flatMap (·.2) := by
    rw [flatMap_scenes, ← staleEarly_eq, editsOf_append]
    exact List.suffix_append _ _
  have shownTarget := final_scene target shownLast before
  rw [← shownTarget] at shows
  obtain ⟨result, replayed, showsLast⟩ := film.converges suffix shows
  rw [← parts, final_scene target ends] at showsLast
  rw [flatMap_scenes, ← editsOf_append, ← stale_eq] at replayed
  obtain ⟨width_eq, height_eq, _⟩ := geometry last (List.mem_of_getLast? ends)
  rw [width_eq, height_eq]
  exact ⟨result, replayed, showsLast⟩

/-- A client with a snapshot of the second frame replays both, and so shows the first
frame again before it shows the second. -/
theorem replay_converges_regressing :
    let first : Frame × List Message := (rowFrame 0, [(rowFrame 0).rawFrame 0])
    let second : Frame × List Message :=
      (rowFrame 9, [.subframe 2 0 0 1 1 4 0 Compression.zstdDelta [9, 7, 7, 7]])
    ∃ result, replay (editsOf .bits64 (first.2 ++ second.2))
        (some { width := 4, height := 1, pixel := (rowFrame 9).pixel }) = some result ∧
      result.Shows 4 1 (rowFrame 9).pixel := by
  intro first second
  have run : FrameRun none [first, second] := by
    refine ⟨⟨_, _, 0, fun _ => true, rfl, rfl, firstStored_eq⟩,
      ⟨_, _, 2, fun _ => true, rfl, rfl, secondStored_eq⟩, trivial⟩
  have wellFormed : ∀ delivery ∈ [first, second], delivery.1.WellFormed := by
    intro delivery member
    rcases List.mem_pair.mp member with rfl | rfl
    · exact rowFrame_wellFormed 0
    · exact rowFrame_wellFormed 9
  have geometry : ∀ delivery ∈ [first, second], delivery.1.sameGeom second.1 := by decide
  have none_stored : ∀ g, (none : Option Frame) = some g → g.WellFormed := fun _ absent => nomatch absent
  have second_shown : [first, second][1]? = some second := rfl
  exact replay_converges .bits64 none_stored wellFormed geometry run (by decide) second_shown rfl
    (List.nil_append _).symm List.nil_prefix ⟨rfl, rfl, fun _ _ _ _ => rfl⟩

end ExoBrowser.Host
