import ExoBrowser.Client.Controls
import ExoBrowser.Client.RenderSafety

/-!
# Balance of buttons and keys

A press and its release may be any distance apart. What is sent on is balanced in a run exactly
where the client judges both in the same way.
-/

set_option autoImplicit false

namespace ExoBrowser.Client

open Library Proto Link Checked

variable {build : Build} {target : Target} {painter : Painter}

/-! ## Calls -/

theorem sends_input (core : BrowserCore) (device : Device) :
    Yields (device.input build core) fun next => Sends core next (device.sends core) := by
  cases device with
  | modifiers mods => exact .pure (.none rfl)
  | key keysym pressed text =>
      exact .bind fun result returned => .pure (BrowserCore.sends_onKey keysym pressed text result returned)
  | button x y which pressed => exact BrowserCore.sends_onMouseButton x y which pressed
  | motion x y =>
      refine .pure ?_
      unfold BrowserCore.onPointerMove
      split
      · exact .event (.motion x (y - 96) core.mods) rfl
      · exact .none rfl
  | scroll dx dy =>
      refine .pure ?_
      unfold BrowserCore.onScroll
      split
      · exact .event (.scroll dx dy) rfl
      · exact .none rfl
  | resize w h =>
      refine .pure ?_
      unfold BrowserCore.onResize
      simp only
      split
      · exact .event (.resize _ _) rfl
      · exact .none rfl

theorem sends_applyMessages (core : BrowserCore) (messages : List Message) :
    Yields (messages.foldlM (BrowserCore.applyMessage build) core) fun next => Sends core next [] := by
  refine Yields.foldlM (fun state => Sends core state []) (fun state sent msg _ next applied => ?_) (.none rfl)
  have silent : Sends state next [] :=
    .none (BrowserCore.applied_applyMessage msg next applied).outboundInputs
  exact sent.trans silent

theorem sends_renderInto (core : BrowserCore) (buffer : List UInt32) :
    Yields (core.renderInto build painter buffer) fun result => Sends core result.1 [] := by
  intro result returned
  obtain ⟨base, _, _, _, _, kept | done, same⟩ := BrowserCore.renderInto_eq_ok returned
  · rw [same, kept]
    exact .none rfl
  · rw [same, done]
    exact .none rfl

/-- What a call adds to the queue. Nothing is added where the queue is taken. -/
theorem added_apply (core : BrowserCore) (event : CoreEvent) :
    Yields (event.apply build target painter core) fun result =>
      (result.1.outboundInputs.drop core.outboundInputs.length).filterMap InputEvent.edge =
        event.sends core := by
  cases event with
  | reported device => exact .bind fun next took => .pure (sends_input core device next took).added
  | told event =>
      refine .bind fun result handled => .pure ?_
      have silent : Sends core result.1 [] :=
        .none (BrowserCore.applied_handleRenderEvent event result handled).outboundInputs
      exact silent.added
  | ingested inbuf =>
      obtain ⟨result, _, spec⟩ := ingest_eq build target core inbuf
      refine .bind fun ingested returned => .pure ?_
      obtain ⟨next, applied, same⟩ := bind_eq_ok (spec.symm.trans returned)
      cases same
      exact (sends_applyMessages core _ next applied).added
  | submitted => exact .pure (BrowserCore.sends_load _).added
  | clicked x y button =>
      exact .bind fun next clicked => .pure (BrowserCore.sends_handleChromeClick next clicked).added
  | encoded tsUs => exact .pure (by rw [BrowserCore.drainOutbound, List.drop_nil]; rfl)
  | audioDrained =>
      have silent : Sends core { core with pendingAudio := [] } [] := .none rfl
      exact .pure silent.added
  | rendered buffer =>
      exact .bind fun result rendered => .pure (sends_renderInto core buffer result rendered).added

/-! ## Runs -/

/-- A call, the core before it and the events that it adds for the host. -/
structure Moment where
  core : BrowserCore
  event : CoreEvent
  added : List InputEvent

/-- A call that returns, with what is noted of it. -/
def noteCall (build : Build) (target : Target) (painter : Painter) (core : BrowserCore)
    (event : CoreEvent) : Option (BrowserCore × List Moment) :=
  match event.apply build target painter core with
  | .ok (next, _) =>
      some (next, [{ core, event, added := next.outboundInputs.drop core.outboundInputs.length }])
  | .error _ => none

def momentStep (build : Build) (target : Target) (painter : Painter) :
    Step BrowserCore CoreEvent Moment :=
  fun core event noted next => noteCall build target painter core event = some (next, noted)

/-- The presses and releases of a control that the host is told of. -/
def Moment.sent (control : Control) (moment : Moment) : List Bool :=
  (moment.added.filterMap InputEvent.edge).filterMap fun edge =>
    if edge.1 = control then some edge.2 else none

/-- A button is sent on below the toolbar, and a key where the client does not keep it. -/
def Device.report (core : BrowserCore) (control : Control) : Device → Option Report
  | .button _ y which pressed =>
      if control = .button which then
        some { down := pressed, passes := decide (which ≠ 0 ∧ (chromeH.toNat : Int) ≤ y.toInt) }
      else none
  | .key keysym pressed _ =>
      if control = .key keysym then
        some { down := pressed, passes := decide (keysym ≠ 0 ∧ ¬ core.KeepsKey keysym pressed) }
      else none
  | _ => none

def Moment.report (control : Control) (moment : Moment) : Option Report :=
  match moment.event with
  | .reported device => device.report moment.core control
  | _ => none

section Moments

variable {start final : BrowserCore} {events : List CoreEvent} {moments : List Moment}

/-- The host is told of what the call sends on. -/
def Moment.Told (moment : Moment) : Prop :=
  moment.added.filterMap InputEvent.edge = moment.event.sends moment.core

theorem told_of_run (ran : Runs (momentStep build target painter) start events moments final) :
    ∀ moment ∈ moments, moment.Told := by
  refine ran.invariant (fun moments _ => ∀ moment ∈ moments, moment.Told) ?_ ?_
  · intro moment absent
    cases absent
  · intro earlier core event noted next before stepped moment inside
    unfold momentStep noteCall at stepped
    split at stepped
    case h_2 => cases stepped
    case h_1 _ encoded returned =>
    cases stepped
    rcases List.mem_append.mp inside with early | last
    · exact before moment early
    · cases List.mem_singleton.mp last
      exact added_apply core event _ returned

/-- Of one press or release at most, a control is sent what is passed on of it. -/
theorem sent_single (control other : Control) (down : Bool) (passes : Prop) [Decidable passes] :
    ((if passes then [(other, down)] else []).filterMap fun edge : Control × Bool =>
        if edge.1 = control then some edge.2 else none) =
      passedOn (if control = other then some { down, passes := decide passes } else none).toList := by
  by_cases same : control = other
  · subst same
    by_cases sent : passes <;> simp [passedOn, sent]
  · by_cases sent : passes <;> simp [same, Ne.symm same, sent]

theorem Moment.Told.sent {moment : Moment} (told : moment.Told) (control : Control) :
    moment.sent control = passedOn (moment.report control).toList := by
  obtain ⟨core, event, added⟩ := moment
  rw [Moment.sent, told]
  cases event with
  | reported device =>
      cases device with
      | button x y which pressed => exact sent_single control (.button which) pressed _
      | key keysym pressed text => exact sent_single control (.key keysym) pressed _
      | modifiers mods => rfl
      | motion x y => rfl
      | scroll dx dy => rfl
      | resize w h => rfl
  | told event => rfl
  | ingested inbuf => rfl
  | submitted => rfl
  | clicked x y button => rfl
  | encoded tsUs => rfl
  | audioDrained => rfl
  | rendered buffer => rfl

/-- A run that is played. -/
theorem exists_run {property : List Moment → Prop} [DecidablePred property]
    (played : (runAll (noteCall build target painter) start events).any
      (fun result => decide (property result.2)) = true) :
    ∃ moments final, Runs (momentStep build target painter) start events moments final ∧
      property moments := by
  obtain ⟨⟨final, moments⟩, result, holds⟩ := (Option.any_eq_true _ _).mp played
  exact ⟨moments, final, .of_runAll result, of_decide_eq_true holds⟩

theorem controls_balanced_iff
    (ran : Runs (momentStep build target painter) start events moments final) (control : Control)
    (physical : Alternates true ((moments.filterMap (Moment.report control)).map Report.down)) :
    Balanced (Moment.report control) (Moment.sent control) moments ↔
      Paired (moments.filterMap (Moment.report control)) :=
  balanced_iff_paired (fun moment inside => (told_of_run ran moment inside).sent control) physical

/-- In every run in which a button is pressed and released in turn, the host is told of it in turn
and never left with the button down, exactly where each release is on the side of the toolbar's
edge on which the press before it was. -/
theorem buttons_balanced_iff
    (ran : Runs (momentStep build target painter) start events moments final) (which : UInt32)
    (physical : Alternates true ((moments.filterMap (Moment.report (.button which))).map Report.down)) :
    Balanced (Moment.report (.button which)) (Moment.sent (.button which)) moments ↔
      Paired (moments.filterMap (Moment.report (.button which))) :=
  controls_balanced_iff ran (.button which) physical

/-- A drag from the page to another place of it: the press and the release are both sent on. -/
theorem buttons_balanced_iff_drag :
    ∃ moments final,
      Runs (momentStep ⟨true⟩ .bits64 Painter.blank) (.newNoStd 640 480 "a" false)
        [.reported (.button 10 200 1 true), .reported (.button 90 300 1 false)] moments final ∧
      Balanced (Moment.report (.button 1)) (Moment.sent (.button 1)) moments := by
  obtain ⟨moments, final, ran, physical, paired⟩ :=
    @exists_run ⟨true⟩ .bits64 Painter.blank (.newNoStd 640 480 "a" false)
      [.reported (.button 10 200 1 true), .reported (.button 90 300 1 false)]
      (fun moments => Alternates true ((moments.filterMap (Moment.report (.button 1))).map Report.down) ∧
        Paired (moments.filterMap (Moment.report (.button 1)))) _ (by decide)
  exact ⟨moments, final, ran, (buttons_balanced_iff ran 1 physical).mpr paired⟩

/-- A drag from the page into the toolbar. The host is not told that it ends. -/
theorem button_release_lost :
    ∃ moments final,
      Runs (momentStep ⟨true⟩ .bits64 Painter.blank) (.newNoStd 640 480 "a" false)
        [.reported (.button 10 200 1 true), .reported (.button 10 50 1 false)] moments final ∧
      Alternates true ((moments.filterMap (Moment.report (.button 1))).map Report.down) ∧
      ¬ Balanced (Moment.report (.button 1)) (Moment.sent (.button 1)) moments := by
  obtain ⟨moments, final, ran, physical, released, left⟩ :=
    @exists_run ⟨true⟩ .bits64 Painter.blank (.newNoStd 640 480 "a" false)
      [.reported (.button 10 200 1 true), .reported (.button 10 50 1 false)]
      (fun moments => Alternates true ((moments.filterMap (Moment.report (.button 1))).map Report.down) ∧
        (moments.filterMap (Moment.report (.button 1))).getLast?.map Report.down = some false ∧
        LeftDown (moments.flatMap (Moment.sent (.button 1)))) _ (by decide)
  exact ⟨moments, final, ran, physical, fun balanced =>
    balanced.released moments (List.prefix_refl moments) released left⟩

/-- In every run in which a key is pressed and released in turn, the host is told of it in turn and
never left with the key down, exactly where the client keeps each release if and only if it kept
the press before it. -/
theorem keys_balanced_iff
    (ran : Runs (momentStep build target painter) start events moments final) (keysym : UInt32)
    (physical : Alternates true ((moments.filterMap (Moment.report (.key keysym))).map Report.down)) :
    Balanced (Moment.report (.key keysym)) (Moment.sent (.key keysym)) moments ↔
      Paired (moments.filterMap (Moment.report (.key keysym))) :=
  controls_balanced_iff ran (.key keysym) physical

/-- Enter on the page: the press and the release are both sent on. -/
theorem keys_balanced_iff_enter :
    ∃ moments final,
      Runs (momentStep ⟨true⟩ .bits64 Painter.blank) (.newNoStd 640 480 "a" false)
        [.reported (.key 0xff0d true none), .reported (.key 0xff0d false none)] moments final ∧
      Balanced (Moment.report (.key 0xff0d)) (Moment.sent (.key 0xff0d)) moments := by
  obtain ⟨moments, final, ran, physical, paired⟩ :=
    @exists_run ⟨true⟩ .bits64 Painter.blank (.newNoStd 640 480 "a" false)
      [.reported (.key 0xff0d true none), .reported (.key 0xff0d false none)]
      (fun moments => Alternates true ((moments.filterMap (Moment.report (.key 0xff0d))).map Report.down) ∧
        Paired (moments.filterMap (Moment.report (.key 0xff0d)))) _ (by decide)
  exact ⟨moments, final, ran, (keys_balanced_iff ran 0xff0d physical).mpr paired⟩

/-- Ctrl+L begins to edit the omnibox, and Ctrl is released in it. -/
theorem ctrl_release_lost :
    ∃ moments final,
      Runs (momentStep ⟨true⟩ .bits64 Painter.blank) (.newNoStd 640 480 "a" false)
        [.reported (.key 0xffe3 true none), .reported (.modifiers modCtrl),
          .reported (.key 0x6c true none), .reported (.key 0x6c false none),
          .reported (.modifiers 0), .reported (.key 0xffe3 false none)] moments final ∧
      Alternates true ((moments.filterMap (Moment.report (.key 0xffe3))).map Report.down) ∧
      ¬ Balanced (Moment.report (.key 0xffe3)) (Moment.sent (.key 0xffe3)) moments := by
  obtain ⟨moments, final, ran, physical, released, left⟩ :=
    @exists_run ⟨true⟩ .bits64 Painter.blank (.newNoStd 640 480 "a" false)
      [.reported (.key 0xffe3 true none), .reported (.modifiers modCtrl),
        .reported (.key 0x6c true none), .reported (.key 0x6c false none),
        .reported (.modifiers 0), .reported (.key 0xffe3 false none)]
      (fun moments => Alternates true ((moments.filterMap (Moment.report (.key 0xffe3))).map Report.down) ∧
        (moments.filterMap (Moment.report (.key 0xffe3))).getLast?.map Report.down = some false ∧
        LeftDown (moments.flatMap (Moment.sent (.key 0xffe3)))) _ (by decide)
  exact ⟨moments, final, ran, physical, fun balanced =>
    balanced.released moments (List.prefix_refl moments) released left⟩

end Moments

end ExoBrowser.Client
