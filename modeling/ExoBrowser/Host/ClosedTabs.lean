import ExoBrowser.Host.InterleavingProperties

/-!
# Frames of closed tabs

A frame is stale once a call of `close_tab` that began after its capture has completed.
The pump and the calls do not look whether the frames they pass on are.
-/

set_option autoImplicit false

namespace ExoBrowser.Host

open Library Proto

/-! ## Stale frames -/

/-- The frame whose pixels an emission shows. -/
def Emission.source : Emission → Option Capture
  | .published _ source => source
  | .returned _ source => source
  | _ => none

/-- A frame of a tab is shown after a `close_tab` that began after its capture. -/
def Emission.Leaks (earlier later : Emission) : Prop :=
  ∃ tabId since c, earlier = .closed tabId since ∧ later.source = some c ∧
    c.frame.tabId = tabId ∧ c.serial < since

/-- What the pump is going to publish pixels of. -/
def PumpPhase.InHand (d : Capture) : PumpPhase → Prop
  | .taking c _ => c = d
  | .holding c _ _ _ => c = d
  | .publishing c _ _ => c = d
  | _ => False

/-- What a call is going to publish or to return pixels of. -/
def CallPhase.InHand (d : Capture) : CallPhase → Prop
  | .returning found => found = some d
  | .announcing messages => ∃ m, (m, some d) ∈ messages
  | _ => False

/-- A call is going to look the tab up. -/
def CallPhase.Exposes (tabId : UInt32) : CallPhase → Prop
  | .snapshotting looked => looked = tabId
  | .switching looked => looked = tabId
  | .looking looked _ => looked = tabId
  | _ => False

namespace World

variable {Caller : Type} (w : World Caller)

def Stale (c : Capture) : Prop := c.serial < w.closedSince c.frame.tabId

def InHand (c : Capture) : Prop := w.pump.InHand c ∨ ∃ who, (w.calls who).InHand c

/-- The tab is active, or a call is going to look it up. -/
def Exposed (tabId : UInt32) : Prop :=
  w.activeTabId = tabId ∨ ∃ who, (w.calls who).Exposes tabId

/-- A frame of the tab captured before `since` is stored, or about to be. -/
def Keeps (tabId : UInt32) (since : Nat) : Prop :=
  ∃ c, c.serial < since ∧ (w.lastFrames tabId = some c ∨
    ∃ batch, w.pump = .storing c batch ∧ c.frame.tabId = tabId)

end World

/-- What a call that goes on may not meet: a tab that becomes active keeps no stale frame, and
`close_tab` completes when no frame of the tab from before it is in hand, or kept while the
tab is exposed. -/
def CallPhase.Discreet {Caller : Type} (w : World Caller) : CallPhase → Prop
  | .opening tabId => ¬ w.Keeps tabId (w.closedSince tabId)
  | .closing tabId since =>
      (∀ c, w.InHand c → c.frame.tabId = tabId → since ≤ c.serial) ∧
        (w.Exposed tabId → ¬ w.Keeps tabId since)
  | _ => True

/-- The same of any step. The pump takes up no stale frame of an exposed tab. -/
def Access.Discreet {Caller : Type} (w : World Caller) : Access Caller → Prop
  | .serve c => w.Stale c → ¬ w.Exposed c.frame.tabId
  | .call _ (.switchTab tabId) => ¬ w.Keeps tabId (w.closedSince tabId)
  | .advance who => (w.calls who).Discreet w
  | _ => True

def discreetly {Caller : Type} [DecidableEq Caller] : Step (World Caller) (Access Caller) Emission :=
  Step.guarded Atomic fun w access => access.Discreet w

/-! ## One step -/

/-- No stale frame is in hand, or kept where it is going to be looked up. -/
structure Hidden {Caller : Type} (w : World Caller) : Prop where
  keyed : ∀ tabId c, w.lastFrames tabId = some c → c.frame.tabId = tabId
  fresh : ∀ c, w.InHand c → ¬ w.Stale c
  dropped : ∀ tabId, w.Exposed tabId → ¬ w.Keeps tabId (w.closedSince tabId)

section Hidden

variable {Caller : Type} {v w : World Caller}

theorem Hidden.congr (hidden : Hidden w) (frames : v.lastFrames = w.lastFrames)
    (active : v.activeTabId = w.activeTabId) (pump : v.pump = w.pump) (calls : v.calls = w.calls)
    (closed : v.closedSince = w.closedSince) : Hidden v := by
  obtain ⟨keyed, fresh, dropped⟩ := hidden
  constructor
  · rw [frames]
    exact keyed
  · unfold World.InHand World.Stale
    rw [pump, calls, closed]
    exact fresh
  · unfold World.Exposed World.Keeps
    rw [active, calls, frames, pump, closed]
    exact dropped

/-- A frame found where it was looked for is not stale. -/
theorem Hidden.found (hidden : Hidden w) {tabId : UInt32} {c : Capture} (exposed : w.Exposed tabId)
    (stored : w.lastFrames tabId = some c) : ¬ w.Stale c := by
  intro stale
  have same := hidden.keyed tabId c stored
  unfold World.Stale at stale
  rw [same] at stale
  exact hidden.dropped tabId exposed ⟨c, stale, .inl stored⟩

theorem Hidden.setPump (hidden : Hidden w) {phase : PumpPhase}
    (fresh : ∀ c, phase.InHand c → ¬ w.Stale c)
    (stored : ∀ c batch, phase = .storing c batch → w.Stale c → ¬ w.Exposed c.frame.tabId) :
    Hidden (w.setPump phase) where
  keyed := hidden.keyed
  fresh := fun c shown => by
    rcases shown with here | ⟨who, called⟩
    · exact fresh c here
    · exact hidden.fresh c (.inr ⟨who, called⟩)
  dropped := fun tabId exposed kept => by
    obtain ⟨c, stale, found | ⟨batch, storing, same⟩⟩ := kept
    · exact hidden.dropped tabId exposed ⟨c, stale, .inl found⟩
    · subst same
      exact stored c batch storing stale exposed

/-- The pump goes on with what it has in hand, or with nothing. -/
theorem Hidden.goOn (hidden : Hidden w) {phase : PumpPhase}
    (same : ∀ c, phase.InHand c → w.pump.InHand c) (idle : ∀ c batch, phase ≠ .storing c batch) :
    Hidden (w.setPump phase) :=
  hidden.setPump (fun c here => hidden.fresh c (.inl (same c here)))
    fun c batch storing => absurd storing (idle c batch)

theorem Hidden.setFrame (hidden : Hidden w) {tabId : UInt32} {found : Option Capture}
    (keyed : ∀ c, found = some c → c.frame.tabId = tabId)
    (fresh : ∀ c, found = some c → w.Stale c → ¬ w.Exposed tabId) : Hidden (w.setFrame tabId found) where
  keyed := fun other c stored => by
    rw [World.lastFrames_setFrame] at stored
    split at stored
    case isTrue here => exact here ▸ keyed c stored
    case isFalse => exact hidden.keyed other c stored
  fresh := hidden.fresh
  dropped := fun other exposed kept => by
    obtain ⟨c, stale, stored | storing⟩ := kept
    · rw [World.lastFrames_setFrame] at stored
      split at stored
      case isTrue here =>
        subst here
        refine fresh c stored ?_ exposed
        unfold World.Stale
        rw [keyed c stored]
        exact stale
      case isFalse => exact hidden.dropped other exposed ⟨c, stale, .inl stored⟩
    · exact hidden.dropped other exposed ⟨c, stale, .inr storing⟩

/-- A tab becomes active that keeps no stale frame. -/
theorem Hidden.activate (hidden : Hidden w) {tabId : UInt32}
    (clean : ¬ w.Keeps tabId (w.closedSince tabId)) : Hidden { w with activeTabId := tabId } where
  keyed := hidden.keyed
  fresh := hidden.fresh
  dropped := fun other exposed kept => by
    rcases exposed with active | called
    · change tabId = other at active
      exact clean (active ▸ kept)
    · exact hidden.dropped other (.inr called) kept

variable [DecidableEq Caller] {who : Caller}

theorem exists_setCall {property : CallPhase → Prop} {phase : CallPhase}
    (found : ∃ other, property ((w.setCall who phase).calls other)) :
    property phase ∨ ∃ other, property (w.calls other) := by
  obtain ⟨other, holds⟩ := found
  rw [World.calls_setCall] at holds
  split at holds
  · exact .inl holds
  · exact .inr ⟨other, holds⟩

theorem Hidden.setCall (hidden : Hidden w) {phase : CallPhase}
    (fresh : ∀ c, phase.InHand c → ¬ w.Stale c) (exposes : ∀ tabId, phase.Exposes tabId → w.Exposed tabId) :
    Hidden (w.setCall who phase) where
  keyed := hidden.keyed
  fresh := fun c shown => by
    rcases shown with here | called
    · exact hidden.fresh c (.inl here)
    · rcases exists_setCall called with now | before
      · exact fresh c now
      · exact hidden.fresh c (.inr before)
  dropped := fun tabId exposed kept => by
    refine hidden.dropped tabId ?_ kept
    rcases exposed with active | called
    · exact .inl active
    · rcases exists_setCall called with now | before
      · exact exposes tabId now
      · exact .inr before

omit [DecidableEq Caller] in
/-- A call of `close_tab` completes when no frame from before it is left where it matters. -/
theorem Hidden.close (hidden : Hidden w) {tabId : UInt32} {since : Nat}
    (free : ∀ c, w.InHand c → c.frame.tabId = tabId → since ≤ c.serial)
    (clean : w.Exposed tabId → ¬ w.Keeps tabId since) :
    Hidden { w with
      closedSince := Function.update w.closedSince tabId (max since (w.closedSince tabId)) } where
  keyed := hidden.keyed
  fresh := fun c shown stale => by
    have before := hidden.fresh c shown
    unfold World.Stale at stale before
    by_cases here : c.frame.tabId = tabId
    · have late := free c shown here
      have now : c.serial < max since (w.closedSince tabId) := by
        rw [here] at stale
        simpa only [Function.update_self] using stale
      rw [here] at before
      omega
    · exact before (by simpa only [Function.update_of_ne here] using stale)
  dropped := fun other exposed kept => by
    obtain ⟨c, stale, found⟩ := kept
    by_cases here : other = tabId
    · subst here
      have now : c.serial < max since (w.closedSince other) := by
        simpa only [Function.update_self] using stale
      rcases lt_max_iff.mp now with recent | older
      · exact clean exposed ⟨c, recent, found⟩
      · exact hidden.dropped other exposed ⟨c, older, found⟩
    · have now : c.serial < w.closedSince other := by
        simpa only [Function.update_of_ne here] using stale
      exact hidden.dropped other exposed ⟨c, now, found⟩

omit [DecidableEq Caller] in
theorem source_of_announcement {tabId : UInt32} {tab : TabEntry} {tsUs : UInt64}
    {found : Option Capture} {m : Message} {c : Capture}
    (member : (m, some c) ∈ announcement tabId tab tsUs found) : found = some c := by
  cases found with
  | none => simp [announcement] at member
  | some d =>
      have same : m = d.frame.rawFrame tsUs ∧ c = d := by simpa [announcement] using member
      rw [same.2]

theorem Hidden.step {access : Access Caller} {emitted : List Emission} {next : World Caller}
    (hidden : Hidden w) (discreet : access.Discreet w) (stepped : Atomic w access emitted next) :
    Hidden next := by
  have exposed {who : Caller} {phase : CallPhase} {tabId : UInt32} (called : w.calls who = phase)
      (exposes : phase.Exposes tabId) : w.Exposed tabId := .inr ⟨who, called ▸ exposes⟩
  cases stepped with
  | capture => exact hidden.congr rfl rfl rfl rfl rfl
  | @receive _ c rest pump =>
      have collecting : Hidden (w.setPump (.collecting [c])) := hidden.goOn (fun _ => False.elim) nofun
      exact collecting.congr rfl rfl rfl rfl rfl
  | @collect _ c rest batch pump =>
      have collecting : Hidden (w.setPump (.collecting (insertCapture c batch))) :=
        hidden.goOn (fun _ => False.elim) nofun
      exact collecting.congr rfl rfl rfl rfl rfl
  | collected pump => exact hidden.goOn (fun _ => False.elim) nofun
  | serveActive pump active =>
      refine hidden.setPump ?_ nofun
      rintro _ rfl stale
      exact discreet stale (.inl active)
  | serveOther pump =>
      refine hidden.setPump (fun _ => False.elim) ?_
      rintro _ _ ⟨⟩ stale
      exact discreet stale
  | @remove _ c batch pump =>
      have emptied : Hidden (w.setFrame c.frame.tabId none) := hidden.setFrame nofun nofun
      have held : Hidden ((w.setFrame c.frame.tabId none).setPump
          (.holding c ((w.lastFrames c.frame.tabId).map (·.frame)) (w.forceFull c.frame.tabId) batch)) :=
        emptied.goOn (fun d here => pump ▸ here) nofun
      exact held.congr rfl rfl rfl rfl rfl
  | @store _ c prev mustFull batch messages tsUs aligned pump computed =>
      have stored : Hidden (w.setFrame c.frame.tabId (some c)) := by
        refine hidden.setFrame ?_ ?_
        · rintro _ ⟨⟩
          rfl
        · rintro _ ⟨⟩ stale
          exact absurd stale (hidden.fresh c (.inl (pump ▸ rfl)))
      exact stored.goOn (fun d here => pump ▸ here) nofun
  | @storeOther _ c batch pump =>
      have stored : Hidden (w.setFrame c.frame.tabId (some c)) := by
        refine hidden.setFrame ?_ ?_
        · rintro _ ⟨⟩
          rfl
        · rintro _ ⟨⟩ stale seen
          exact hidden.dropped c.frame.tabId seen ⟨c, stale, .inr ⟨batch, pump, rfl⟩⟩
      exact stored.goOn (fun _ => False.elim) nofun
  | publish pump => exact hidden.goOn (fun d here => pump ▸ here) nofun
  | published pump => exact hidden.goOn (fun _ => False.elim) nofun
  | served pump => exact hidden.goOn (fun _ => False.elim) nofun
  | note => exact hidden.congr rfl rfl rfl rfl rfl
  | snapshot idle => exact hidden.setCall (fun _ => False.elim) fun tabId => .inl
  | @lookup _ who tabId phase =>
      exact hidden.setCall (fun c found => hidden.found (exposed phase rfl) found)
        fun _ => False.elim
  | answer => exact hidden.setCall (fun _ => False.elim) fun _ => False.elim
  | switchTab idle =>
      exact (hidden.activate discreet).setCall (fun _ => False.elim) fun _ => .inl
  | unknown => exact hidden.setCall (fun _ => False.elim) fun _ => False.elim
  | @known _ who tabId tab phase =>
      have looking : Hidden (w.setCall who (.looking tabId tab)) :=
        hidden.setCall (fun _ => False.elim) fun other same => exposed phase same
      exact looking.congr rfl rfl rfl rfl rfl
  | @look _ who tabId tab tsUs phase =>
      refine hidden.setCall ?_ fun _ => False.elim
      rintro c ⟨m, member⟩
      exact hidden.found (exposed phase rfl) (source_of_announcement member)
  | @announce _ who m source messages phase =>
      refine hidden.setCall ?_ fun _ => False.elim
      rintro c ⟨told, member⟩
      have before : (w.calls who).InHand c := by
        rw [phase]
        exact ⟨told, List.mem_cons_of_mem _ member⟩
      exact hidden.fresh c (.inr ⟨who, before⟩)
  | @announced _ who phase =>
      have idle : Hidden (w.setCall who .idle) :=
        hidden.setCall (fun _ => False.elim) fun _ => False.elim
      exact idle.congr rfl rfl rfl rfl rfl
  | @createTab _ who tabId url makeActive =>
      have opening : Hidden (w.setCall who (if makeActive then .opening tabId else .idle)) := by
        cases makeActive <;> exact hidden.setCall (fun _ => False.elim) fun _ => False.elim
      exact opening.congr rfl rfl rfl rfl rfl
  | @activate _ who tabId phase =>
      have clean : (CallPhase.opening tabId).Discreet w := phase ▸ discreet
      exact (hidden.activate clean).setCall (fun _ => False.elim) fun _ => .inl
  | @closeTab _ who tabId =>
      have clearing : Hidden (w.setCall who (.clearing tabId w.captured)) :=
        hidden.setCall (fun _ => False.elim) fun _ => False.elim
      exact clearing.congr rfl rfl rfl rfl rfl
  | @clear _ who tabId since phase =>
      have emptied : Hidden (w.setFrame tabId none) := hidden.setFrame nofun nofun
      exact emptied.setCall (fun _ => False.elim) fun _ => False.elim
  | @closed _ who tabId since phase =>
      have completes : (CallPhase.closing tabId since).Discreet w := phase ▸ discreet
      obtain ⟨free, clean⟩ := completes
      exact (hidden.close free clean).setCall (fun _ => False.elim) fun _ => False.elim

end Hidden

/-! ## Runs -/

section Runs

variable {Caller : Type} [DecidableEq Caller] {w next : World Caller} {access : Access Caller}
  {emitted : List Emission}

/-- Only what is in hand is shown. -/
theorem inHand_of_source (stepped : Atomic w access emitted next) {e : Emission} {c : Capture}
    (member : e ∈ emitted) (shown : e.source = some c) : w.InHand c := by
  cases stepped with
  | publish pump =>
      cases List.mem_singleton.mp member
      cases shown
      exact .inl (pump ▸ rfl)
  | note =>
      obtain ⟨m, _, rfl⟩ := List.mem_map.mp member
      cases shown
  | @answer _ who found tsUs phase =>
      cases List.mem_singleton.mp member
      have held : (w.calls who).InHand c := phase ▸ shown
      exact .inr ⟨who, held⟩
  | @announce _ who m source messages phase =>
      cases List.mem_singleton.mp member
      cases shown
      have held : (w.calls who).InHand c := by
        rw [phase]
        exact ⟨m, List.mem_cons_self⟩
      exact .inr ⟨who, held⟩
  | store | storeOther | lookup | look | closeTab | clear | closed =>
      cases List.mem_singleton.mp member
      cases shown
  | _ => cases member

theorem closedSince_mono (stepped : Atomic w access emitted next) (tabId : UInt32) :
    w.closedSince tabId ≤ next.closedSince tabId := by
  cases stepped with
  | @closed _ who closedId since phase =>
      change _ ≤ Function.update w.closedSince closedId _ tabId
      by_cases here : tabId = closedId
      · subst here
        rw [Function.update_self]
        exact le_max_right ..
      · rw [Function.update_of_ne here]
  | _ => exact Nat.le_refl _

theorem closed_recorded (stepped : Atomic w access emitted next) {tabId : UInt32} {since : Nat}
    (member : .closed tabId since ∈ emitted) :
    since ≤ next.closedSince tabId ∧ emitted = [.closed tabId since] := by
  cases stepped with
  | closed =>
      cases List.mem_singleton.mp member
      refine ⟨?_, rfl⟩
      change _ ≤ Function.update w.closedSince tabId _ tabId
      rw [Function.update_self]
      exact le_max_left ..
  | note =>
      obtain ⟨m, _, same⟩ := List.mem_map.mp member
      cases same
  | publish | answer | announce | store | storeOther | lookup | look | closeTab | clear =>
      cases List.mem_singleton.mp member
  | _ => cases member

/-- What is so throughout a run whose steps are discreet. -/
structure Kept (emitted : List Emission) (w : World Caller) : Prop where
  hidden : Hidden w
  recorded : ∀ tabId since, .closed tabId since ∈ emitted → since ≤ w.closedSince tabId
  silent : emitted.Pairwise fun earlier later => ¬ earlier.Leaks later

theorem Kept.step {added : List Emission} (kept : Kept emitted w) (discreet : access.Discreet w)
    (stepped : Atomic w access added next) : Kept (emitted ++ added) next where
  hidden := kept.hidden.step discreet stepped
  recorded := fun tabId since member => by
    rcases List.mem_append.mp member with before | now
    · exact (kept.recorded tabId since before).trans (closedSince_mono stepped tabId)
    · exact (closed_recorded stepped now).1
  silent := by
    refine List.pairwise_append.mpr ⟨kept.silent, ?_, ?_⟩
    · refine List.pairwise_of_forall_mem_list ?_
      rintro earlier first later second ⟨tabId, since, c, rfl, shown, _, _⟩
      rw [(closed_recorded stepped first).2] at second
      cases List.mem_singleton.mp second
      cases shown
    · rintro earlier before later now ⟨tabId, since, c, rfl, shown, rfl, older⟩
      have stale := older.trans_le (kept.recorded c.frame.tabId since before)
      exact kept.hidden.fresh c (inHand_of_source stepped now shown) stale

omit [DecidableEq Caller] in
theorem kept_start (initialUrl : String) : Kept [] (.start initialUrl : World Caller) where
  hidden := {
    keyed := nofun
    fresh := fun c _ => Nat.not_lt_zero _
    dropped := fun tabId _ kept => by
      obtain ⟨c, stale, _⟩ := kept
      exact Nat.not_lt_zero _ stale }
  recorded := nofun
  silent := .nil

/-- In a run whose steps are discreet no frame of a closed tab is shown again. -/
theorem closed_tab_stays_hidden {initialUrl : String} {accesses : List (Access Caller)}
    (ran : Runs discreetly (.start initialUrl) accesses emitted w) :
    emitted.Pairwise fun earlier later => ¬ earlier.Leaks later := by
  have kept := ran.invariant Kept (kept_start initialUrl) ?_
  · exact kept.silent
  · intro emitted w access added next kept stepped
    exact kept.step stepped.1 stepped.2

end Runs

/-! ## A frame in the channel -/

section Queued

theorem discreetly_pump {w next : World Unit} {emitted : List Emission}
    (stepped : Atomic w .pump emitted next) : discreetly w .pump emitted next := ⟨trivial, stepped⟩

/-- A frame of a tab is queued, nothing else happens, and nothing did but closes. -/
structure Queued (w : World Unit) (c : Capture) : Prop where
  pump : w.pump = .waiting
  channel : w.channel = [c]
  idle : w.calls () = .idle
  active : w.activeTabId = 1
  free : w.tableFree
  stored : ∀ tabId, w.lastFrames tabId = none

/-- A close while the pump waits is discreet. -/
theorem Queued.close {w : World Unit} {c : Capture} (queued : Queued w c) (tabId : UInt32) :
    ∃ accesses v, Runs discreetly w accesses
      [.closing tabId, .cleared tabId, .closed tabId w.captured] v ∧ Queued v c := by
  obtain ⟨pump, channel, idle, active, free, stored⟩ := queued
  let removed : World Unit := { w.setCall () (.clearing tabId w.captured) with
    tabs := Function.update w.tabs tabId none }
  let cleared := (removed.setFrame tabId none).setCall () (.closing tabId w.captured)
  have closing : Runs discreetly w [.call () (.closeTab tabId)] _ removed :=
    .single ⟨trivial, .closeTab idle free⟩
  have clearing : discreetly removed (.advance ()) _ cleared := ⟨trivial, .clear rfl⟩
  have unstored : ∀ other, cleared.lastFrames other = none := by
    intro other
    rw [show cleared.lastFrames = (removed.setFrame tabId none).lastFrames from rfl,
      World.lastFrames_setFrame]
    split
    · rfl
    · exact stored other
  have quiet : (CallPhase.closing tabId w.captured).Discreet cleared := by
    constructor
    · rintro d (held | ⟨_, held⟩)
      · exact absurd (pump ▸ held : PumpPhase.waiting.InHand d) id
      · exact held.elim
    · rintro _ ⟨d, _, found | ⟨batch, storing, _⟩⟩
      · rw [unstored] at found
        cases found
      · exact PumpPhase.noConfusion (pump.symm.trans storing)
  have closed : discreetly cleared (.advance ()) _ _ := ⟨quiet, .closed rfl⟩
  exact ⟨_, _, (closing.step clearing).step closed, pump, channel, rfl, active, free, unstored⟩

theorem queued_dot (tabId : UInt32) :
    ∃ w, Runs discreetly (.start "a" : World Unit) [.capture (dot tabId)] [] w ∧
      Queued w ⟨dot tabId, 0⟩ ∧ w.captured = 1 :=
  ⟨_, .single ⟨trivial, .capture⟩, ⟨rfl, rfl, rfl, rfl, rfl, fun _ => rfl⟩, rfl⟩

theorem Queued.serve {w : World Unit} {c : Capture} (queued : Queued w c) :
    ∃ v, Runs discreetly w [.pump, .pump] [] v ∧ v.pump = .serving [c] ∧ v.activeTabId = 1 ∧
      v.calls () = .idle ∧ ∀ tabId, v.lastFrames tabId = none := by
  have received : Runs discreetly w [.pump] [] _ :=
    .single (discreetly_pump (.receive queued.pump queued.channel))
  have collected := received.step (discreetly_pump (.collected rfl rfl))
  exact ⟨_, collected, rfl, queued.active, queued.idle, queued.stored⟩

/-- Tab 2 is closed while a frame of it is queued. The pump stores the frame. -/
theorem closed_tab_stays_hidden_dot :
    ∃ accesses emitted, ∃ w : World Unit, Runs discreetly (.start "a") accesses emitted w ∧
      .closed 2 1 ∈ emitted ∧ w.lastFrames 2 = some ⟨dot 2, 0⟩ ∧
      emitted.Pairwise fun earlier later => ¬ earlier.Leaks later := by
  obtain ⟨w, captured, queued, count⟩ := queued_dot 2
  obtain ⟨_, closed, closing, after⟩ := queued.close 2
  obtain ⟨v, serving, pump, active, idle, _⟩ := after.serve
  have hidden : (Access.serve ⟨dot 2, 0⟩ : Access Unit).Discreet v := by
    rintro _ (shown | ⟨_, called⟩)
    · exact absurd (active.symm.trans shown) (by decide)
    · exact absurd (idle ▸ called : CallPhase.idle.Exposes 2) id
  have inactive : v.activeTabId ≠ (dot 2).tabId := fun same => absurd (active.symm.trans same) (by decide)
  have served := ((captured.trans closing).trans serving).step
    ⟨hidden, Atomic.serve_alone_other pump inactive⟩
  have stored := served.step (discreetly_pump (.storeOther rfl))
  have kept : (v.setFrame 2 (some ⟨dot 2, 0⟩)).lastFrames 2 = some ⟨dot 2, 0⟩ := by
    rw [World.lastFrames_setFrame, if_pos rfl]
  rw [count] at stored
  refine ⟨_, _, _, stored, ?_, ?_, closed_tab_stays_hidden stored⟩
  · simp
  · exact kept

/-- Tab 1 is closed while a frame of it is queued. It stays active, and the pump publishes
the frame. -/
theorem closed_tab_shown_dot :
    ∃ accesses emitted, ∃ w : World Unit, Runs Atomic (.start "a") accesses emitted w ∧
      ¬ emitted.Pairwise fun earlier later => ¬ earlier.Leaks later := by
  obtain ⟨w, captured, queued, count⟩ := queued_dot 1
  obtain ⟨_, closed, closing, after⟩ := queued.close 1
  obtain ⟨v, serving, pump, active, _, unstored⟩ := after.serve
  have reached := ((captured.trans closing).trans serving).of_guarded
  have taken := (reached.step (.serve_alone pump active)).step (.remove rfl)
  have computed : (dot 1).pumpMessages (fun _ => true) ((v.lastFrames 1).map (·.frame))
      (v.forceFull 1) 0 = .ok [(dot 1).rawFrame 0] := by
    rw [unstored]
    rfl
  have published := (taken.step (.store 0 (fun _ => true) rfl computed)).step (.publish rfl)
  rw [count] at published
  refine ⟨_, _, _, published, fun silent => ?_⟩
  have apart := (List.pairwise_append.mp silent).2.2 (.closed 1 1) (by simp)
    (.published ((dot 1).rawFrame 0) (some ⟨dot 1, 0⟩)) (by simp)
  exact apart ⟨1, 1, ⟨dot 1, 0⟩, rfl, rfl, rfl, Nat.zero_lt_one⟩

end Queued

end ExoBrowser.Host
