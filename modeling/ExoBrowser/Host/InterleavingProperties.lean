import ExoBrowser.Host.Interleaving

/-!
# Frames under interleaving

When a lookup of `last_frames` finds a frame, and when the frames of a closed tab stay
hidden, whatever the order of the steps is.
-/

set_option autoImplicit false

namespace ExoBrowser.Host

open Library Proto

/-! ## Available frames -/

/-- A tab has a frame from the time the pump stores one while it is open to `close_tab`. -/
def observe (available : UInt32 → Bool) : Emission → UInt32 → Bool
  | .stored tabId isOpen => if isOpen then Function.update available tabId true else available
  | .closing tabId => Function.update available tabId false
  | .cleared tabId => Function.update available tabId false
  | _ => available

def available (emitted : List Emission) : UInt32 → Bool := emitted.foldl observe fun _ => false

/-- The pump has taken the frame of a tab and not stored the next one yet. -/
def PumpPhase.Holds (tabId : UInt32) : PumpPhase → Prop
  | .holding c _ _ _ => c.frame.tabId = tabId
  | _ => False

/-- A frame that is available is stored, or else the pump holds it. -/
structure Stocked {Caller : Type} (stock : UInt32 → Bool) (w : World Caller) : Prop where
  taken : ∀ tabId, w.pump.Holds tabId → w.lastFrames tabId = none
  found : ∀ tabId, stock tabId → w.lastFrames tabId = none → w.pump.Holds tabId

section Available

variable {Caller : Type} {stock less : UInt32 → Bool} {w next : World Caller}

theorem Stocked.of_same (stocked : Stocked stock w) (frames : next.lastFrames = w.lastFrames)
    (holds : ∀ tabId, next.pump.Holds tabId ↔ w.pump.Holds tabId)
    (fewer : ∀ tabId, less tabId → stock tabId) : Stocked less next where
  taken := fun tabId held => by
    rw [frames]
    exact stocked.taken tabId ((holds tabId).mp held)
  found := fun tabId member missing => by
    rw [frames] at missing
    exact (holds tabId).mpr (stocked.found tabId (fewer tabId member) missing)

/-- The pump stores a frame, and does not hold one any more. -/
theorem Stocked.store (stocked : Stocked stock w) {tabId : UInt32} {c : Capture}
    (frames : next.lastFrames = Function.update w.lastFrames tabId (some c))
    (idle : ∀ other, ¬ next.pump.Holds other) (only : ∀ other, w.pump.Holds other → other = tabId)
    (isOpen : Bool) : Stocked (observe stock (.stored tabId isOpen)) next where
  taken := fun other held => absurd held (idle other)
  found := fun other member missing => by
    rw [frames] at missing
    by_cases here : other = tabId
    · subst here
      rw [Function.update_self] at missing
      cases missing
    · rw [Function.update_of_ne here] at missing
      have available : stock other := by
        cases isOpen with
        | false => exact member
        | true => exact (Function.update_of_ne here ..).symm.trans member
      exact absurd (only other (stocked.found other available missing)) here

theorem foldl_observe_notes (messages : List Message) :
    (messages.map fun m => Emission.published m none).foldl observe stock = stock := by
  induction messages with
  | nil => rfl
  | cons m messages ih => exact ih

variable [DecidableEq Caller]

theorem Stocked.step {access : Access Caller} {emitted : List Emission} (stocked : Stocked stock w)
    (stepped : Atomic w access emitted next) : Stocked (emitted.foldl observe stock) next := by
  have shut (tabId : UInt32) : ∀ other, Function.update stock tabId false other → stock other := by
    intro other member
    by_cases here : other = tabId
    · subst here
      rw [Function.update_self] at member
      cases member
    · rwa [Function.update_of_ne here] at member
  have unheld {phase : PumpPhase} (pump : w.pump = phase) (free : ∀ tabId, ¬ phase.Holds tabId) :
      ∀ {later : PumpPhase}, (∀ tabId, ¬ later.Holds tabId) →
        ∀ tabId, later.Holds tabId ↔ w.pump.Holds tabId := by
    intro later idle tabId
    rw [pump]
    exact iff_of_false (idle tabId) (free tabId)
  cases stepped with
  | receive pump => exact stocked.of_same rfl (unheld pump nofun nofun) fun _ => id
  | collect pump => exact stocked.of_same rfl (unheld pump nofun nofun) fun _ => id
  | collected pump => exact stocked.of_same rfl (unheld pump nofun nofun) fun _ => id
  | serveActive pump => exact stocked.of_same rfl (unheld pump nofun nofun) fun _ => id
  | serveOther pump => exact stocked.of_same rfl (unheld pump nofun nofun) fun _ => id
  | @remove _ c batch pump =>
      constructor
      · rintro tabId rfl
        exact Function.update_self ..
      · intro tabId member missing
        by_cases here : tabId = c.frame.tabId
        · exact here.symm
        · have before : w.lastFrames tabId = none := (Function.update_of_ne here ..).symm.trans missing
          have held := stocked.found tabId member before
          rw [pump] at held
          cases held
  | store tsUs aligned pump =>
      refine stocked.store rfl (fun _ => id) (fun other held => ?_) _
      rw [pump] at held
      exact held.symm
  | storeOther pump =>
      refine stocked.store rfl (fun _ => id) (fun other held => ?_) _
      rw [pump] at held
      cases held
  | publish pump => exact stocked.of_same rfl (unheld pump nofun nofun) fun _ => id
  | published pump => exact stocked.of_same rfl (unheld pump nofun nofun) fun _ => id
  | served pump => exact stocked.of_same rfl (unheld pump nofun nofun) fun _ => id
  | note pump =>
      rw [foldl_observe_notes]
      exact stocked.of_same rfl (fun _ => Iff.rfl) fun _ => id
  | @closeTab _ who tabId => exact stocked.of_same rfl (fun _ => Iff.rfl) (shut tabId)
  | @clear _ who tabId since phase =>
      constructor
      · intro other held
        by_cases here : other = tabId
        · subst here
          exact Function.update_self ..
        · exact (Function.update_of_ne here ..).trans (stocked.taken other held)
      · intro other member missing
        have differs : other ≠ tabId := by
          rintro rfl
          have closed : false = true := (Function.update_self ..).symm.trans member
          cases closed
        have before : w.lastFrames other = none :=
          (Function.update_of_ne differs ..).symm.trans missing
        exact stocked.found other (shut tabId other member) before
  | _ => exact stocked.of_same rfl (fun _ => Iff.rfl) fun _ => id

theorem stocked_of_runs {initialUrl : String} {accesses : List (Access Caller)}
    {emitted : List Emission} (ran : Runs Atomic (.start initialUrl) accesses emitted w) :
    Stocked (available emitted) w := by
  have initial : Stocked (available []) (World.start initialUrl : World Caller) :=
    ⟨fun _ => False.elim, fun _ member => absurd member Bool.false_ne_true⟩
  refine ran.invariant (fun emitted w => Stocked (available emitted) w) initial ?_
  intro emitted w access added next stocked stepped
  unfold available
  rw [List.foldl_append]
  exact stocked.step stepped

theorem lookup_returns {access : Access Caller} {tabId : UInt32} {found : Option Capture}
    (looks : Atomic w access [.lookedUp tabId found] next) : found = w.lastFrames tabId := by
  generalize emission : [Emission.lookedUp tabId found] = emitted at looks
  cases looks with
  | lookup =>
      cases emission
      rfl
  | look =>
      cases emission
      rfl
  | note =>
      obtain ⟨m, _, same⟩ := List.mem_map.mp (emission ▸ List.mem_singleton_self _)
      cases same
  | _ => cases emission

/-- A lookup of an open tab whose frame was stored finds a frame, unless the pump has
taken it and not stored the next one yet. -/
theorem lookup_finds_frame_iff {initialUrl : String} {accesses : List (Access Caller)}
    {emitted : List Emission} (ran : Runs Atomic (.start initialUrl) accesses emitted w)
    {access : Access Caller} {tabId : UInt32} {found : Option Capture}
    (looks : Atomic w access [.lookedUp tabId found] next) (stored : available emitted tabId) :
    found.isSome ↔ ¬ w.pump.Holds tabId := by
  have stocked := stocked_of_runs ran
  rw [lookup_returns looks]
  constructor
  · intro present held
    rw [stocked.taken tabId held] at present
    cases present
  · intro free
    by_contra missing
    exact free (stocked.found tabId stored (Option.not_isSome_iff_eq_none.mp missing))

end Available

/-! ## One pixel -/

def dot (tabId : UInt32) : Frame where
  tabId
  width := 1
  height := 1
  stride := 4
  format := 0
  pixels := [1, 2, 3, 0]
  stride_lt := by decide

section Dot

variable {Caller : Type} [DecidableEq Caller] {w : World Caller} {c : Capture}

theorem Atomic.serve_alone (pump : w.pump = .serving [c]) (active : w.activeTabId = c.frame.tabId) :
    Atomic w (.serve c) [] (w.setPump (.taking c [])) :=
  @Atomic.serveActive Caller _ w [] c [] pump active

theorem Atomic.serve_alone_other (pump : w.pump = .serving [c])
    (inactive : w.activeTabId ≠ c.frame.tabId) :
    Atomic w (.serve c) [] (w.setPump (.storing c [])) :=
  @Atomic.serveOther Caller _ w [] c [] pump inactive

/-- The pump has stored and published a frame of tab 1, and takes the next one up. -/
theorem runs_dot_stored :
    ∃ accesses emitted, ∃ w : World Unit, Runs Atomic (.start "a") accesses emitted w ∧
      available emitted 1 ∧ w.calls () = .idle ∧ w.activeTabId = 1 ∧
      w.lastFrames 1 = some ⟨dot 1, 0⟩ ∧ w.pump = .taking ⟨dot 1, 1⟩ [] := by
  have captured : Runs Atomic (.start "a" : World Unit) [.capture (dot 1)] [] _ := .single .capture
  have collected := (captured.step (.receive rfl rfl)).step (.collected rfl rfl)
  have taken := (collected.step (.serve_alone rfl rfl)).step (.remove rfl)
  have stored := taken.step (.store 0 (fun _ => true) rfl rfl)
  have published := ((stored.step (.publish rfl)).step (.published rfl)).step (.served rfl)
  have again := (published.step (@Atomic.capture Unit _ _ (dot 1))).step (.receive rfl rfl)
  have served := (again.step (.collected rfl rfl)).step (.serve_alone rfl rfl)
  exact ⟨_, _, _, served, rfl, rfl, rfl, rfl, rfl⟩

theorem snapshot_looks {start : World Caller} {accesses : List (Access Caller)}
    {emitted : List Emission} {who : Caller} {tabId : UInt32} {found : Option Capture}
    (ran : Runs Atomic start accesses emitted w) (idle : w.calls who = .idle)
    (active : w.activeTabId = tabId) (frame : w.lastFrames tabId = found) :
    ∃ reached v next, Runs Atomic start reached emitted v ∧
      Atomic v (.advance who) [.lookedUp tabId found] next ∧ v.activeTabId = tabId := by
  subst active frame
  have called : (w.setCall who (.snapshotting w.activeTabId)).calls who = .snapshotting w.activeTabId :=
    Function.update_self ..
  have reached := ran.step (.snapshot idle)
  rw [List.append_nil] at reached
  exact ⟨_, _, _, reached, .lookup called, rfl⟩

theorem lookup_finds_frame_dot :
    ∃ accesses emitted found, ∃ w next : World Unit,
      Runs Atomic (.start "a") accesses emitted w ∧ available emitted 1 ∧
        Atomic w (.advance ()) [.lookedUp 1 found] next ∧ (found.isSome ↔ ¬ w.pump.Holds 1) := by
  obtain ⟨accesses, emitted, w, ran, stored, idle, active, frame, _⟩ := runs_dot_stored
  obtain ⟨_, v, next, reached, looks, _⟩ := snapshot_looks ran idle active frame
  exact ⟨_, _, _, v, next, reached, stored, looks, lookup_finds_frame_iff reached looks stored⟩

/-- Between two frames of the active tab a snapshot comes back empty. -/
theorem lookup_misses_dot :
    ∃ accesses emitted, ∃ w next : World Unit,
      Runs Atomic (.start "a") accesses emitted w ∧ available emitted 1 ∧ w.activeTabId = 1 ∧
        Atomic w (.advance ()) [.lookedUp 1 none] next := by
  obtain ⟨accesses, emitted, w, ran, stored, idle, active, _, taking⟩ := runs_dot_stored
  have removed := ran.step (.remove taking)
  rw [List.append_nil] at removed
  have missing : Function.update w.lastFrames (dot 1).tabId none 1 = none := Function.update_self ..
  obtain ⟨_, v, next, reached, looks, shown⟩ := snapshot_looks removed idle active missing
  exact ⟨_, _, v, next, reached, stored, shown, looks⟩

end Dot

end ExoBrowser.Host
