import ExoBrowser.Client.Reach
import ExoBrowser.Library.Balance

/-!
# Buttons and keys

Which presses and releases the client sends on. Each is judged by itself: a button by where the
pointer is, a key by the shortcuts and by whether the omnibox is edited at that moment.
-/

set_option autoImplicit false

namespace ExoBrowser.Client

open Library Proto Checked

/-- What is pressed and released. -/
inductive Control where
  | button (which : UInt32)
  | key (keysym : UInt32)
deriving DecidableEq, Repr

def InputEvent.edge : InputEvent → Option (Control × Bool)
  | .button _ _ which pressed _ => some (.button which, pressed)
  | .key keysym _ pressed => some (.key keysym, pressed)
  | _ => none

def ctrlShortcuts : List UInt32 :=
  [0x6c, 0x4c, 0x74, 0x54, 0x77, 0x57, 0x72, 0x52, 0x6d, 0x4d, 0x3d, 0x2b, 0x2d, 0x30, 0xff09]

namespace BrowserCore

variable (core : BrowserCore)

/-- Pressed, the key is a shortcut. -/
def IsShortcut (keysym : UInt32) : Prop :=
  keysym = 0xffc8 ∨ keysym = 0xffc2 ∨
    (core.mods &&& modAlt ≠ 0 ∧ (keysym = 0xff51 ∨ keysym = 0xff53)) ∨
    (core.mods &&& modCtrl ≠ 0 ∧ keysym ∈ ctrlShortcuts)

instance (keysym : UInt32) : Decidable (core.IsShortcut keysym) :=
  inferInstanceAs (Decidable (_ ∨ _))

/-- The client keeps a key for itself. -/
def KeepsKey (keysym : UInt32) (pressed : Bool) : Prop :=
  core.editing = true ∨ pressed = true ∧ core.IsShortcut keysym

instance (keysym : UInt32) (pressed : Bool) : Decidable (core.KeepsKey keysym pressed) :=
  inferInstanceAs (Decidable (_ ∨ _))

end BrowserCore

/-- The press or release that an input sends on. -/
def Device.sends (core : BrowserCore) : Device → List (Control × Bool)
  | .button _ y which pressed =>
      if which ≠ 0 ∧ (chromeH.toNat : Int) ≤ y.toInt then [(.button which, pressed)] else []
  | .key keysym pressed _ =>
      if keysym ≠ 0 ∧ ¬ core.KeepsKey keysym pressed then [(.key keysym, pressed)] else []
  | _ => []

def CoreEvent.sends (core : BrowserCore) : CoreEvent → List (Control × Bool)
  | .reported device => device.sends core
  | _ => []

/-! ## What is added for the host -/

/-- The events that are added tell of these presses and releases, and of no others. -/
def Sends (core next : BrowserCore) (edges : List (Control × Bool)) : Prop :=
  ∃ added, next.outboundInputs = core.outboundInputs ++ added ∧ added.filterMap InputEvent.edge = edges

namespace Sends

variable {core middle next : BrowserCore} {edges more : List (Control × Bool)}

theorem none (told : next.outboundInputs = core.outboundInputs) : Sends core next [] :=
  ⟨[], told.trans (List.append_nil _).symm, rfl⟩

theorem event (ev : InputEvent) (told : next.outboundInputs = core.outboundInputs ++ [ev]) :
    Sends core next ev.edge.toList := by
  refine ⟨[ev], told, ?_⟩
  cases edge : ev.edge with
  | none => rw [List.filterMap_cons_none edge]; rfl
  | some entry => rw [List.filterMap_cons_some edge]; rfl

theorem trans (first : Sends core middle edges) (second : Sends middle next more) :
    Sends core next (edges ++ more) := by
  obtain ⟨added, told, same⟩ := first
  obtain ⟨others, told', same'⟩ := second
  refine ⟨added ++ others, ?_, ?_⟩
  · rw [told', told, List.append_assoc]
  · rw [List.filterMap_append, same, same']

theorem added (sends : Sends core next edges) :
    (next.outboundInputs.drop core.outboundInputs.length).filterMap InputEvent.edge = edges := by
  obtain ⟨added, told, same⟩ := sends
  rw [told, List.drop_left, same]

end Sends

/-! ## Keys and clicks -/

namespace BrowserCore

variable {build : Build} {core : BrowserCore}

theorem sends_newTab : Yields (core.newTab build) fun next => Sends core next [] :=
  .bind fun _ _ => .pure (.event (.createTab core.nextTabId homeUrl) rfl)

theorem sends_activateFirst : Sends core core.activateFirst [] := by
  unfold activateFirst
  split
  case h_1 first _ => exact .event (.switchTab first.id) rfl
  case h_2 => exact .none rfl

theorem sends_closeActiveTab : Sends core core.closeActiveTab [] := by
  let told := (core.emitInput (.closeTab core.activeTabId)).removeComposite core.activeTabId
  have closed : Sends core { told with tabs := told.tabs.filter (·.id ≠ core.activeTabId) } [] :=
    .event (.closeTab core.activeTabId) rfl
  exact closed.trans sends_activateFirst

theorem sends_closeTabAt (i : Nat) (tabId : UInt32) : Sends core (core.closeTabAt i tabId) [] := by
  let told := (core.emitInput (.closeTab tabId)).removeComposite tabId
  let closed : BrowserCore := { told with tabs := told.tabs.eraseIdx i }
  have first : Sends core closed [] := .event (.closeTab tabId) rfl
  have second : Sends closed (if closed.activeTabId = tabId then
      { closed.activateFirst with fullContentDirty := true } else closed) [] := by
    split
    · exact sends_activateFirst
    · exact .none rfl
  exact first.trans second

theorem sends_nextTab : Yields core.nextTab fun next => Sends core next [] := by
  refine .bind fun chosen _ => .pure ?_
  refine .event (.switchTab chosen.id) ?_
  simp only [emitInput]
  split <;> rfl

theorem sends_clickTab (tab : TabInfo) : Sends core (core.clickTab tab) [] := by
  unfold clickTab
  split
  · exact .event (.switchTab tab.id) rfl
  · exact .none rfl

theorem sends_load (url : String) : Sends core (core.load url) [] := .event (.navigate url) rfl

theorem sends_setZoom (levelMilli : UInt32) : Sends core (core.setZoom levelMilli) [] :=
  .event (.setZoom levelMilli) rfl

theorem sends_zoomIn : Yields (core.zoomIn build) fun next => Sends core next [] :=
  .bind fun _ _ => .pure (sends_setZoom _)

theorem sends_clickTabBar {x : Int} {button : UInt32} :
    Yields (core.clickTabBar build x button) fun next => Sends core next [] := by
  refine .bind fun tabW _ => .bind fun hit _ => ?_
  cases hit with
  | inl entry =>
      refine .bind fun closeX _ => .ite (fun _ => .pure ?_) fun _ => .pure ?_
      · exact sends_closeTabAt entry.1 entry.2.1.id
      · exact sends_clickTab entry.2.1
  | inr tx =>
      refine .ite (fun _ => .pure (.none rfl)) fun _ => .bind fun right _ => ?_
      exact .ite (fun _ => sends_newTab) fun _ => .pure (.none rfl)

theorem sends_clickNavBar {x : Int} :
    Yields (core.clickNavBar build x) fun next => Sends core next [] := by
  refine .ite (fun _ => .pure (.event (.navAction 0) rfl)) fun _ => ?_
  refine .ite (fun _ => .pure (.event (.navAction 1) rfl)) fun _ => ?_
  refine .ite (fun _ => .pure ?reload) fun _ => ?_
  case reload =>
    split
    · exact .event .stop rfl
    · exact .event (.navAction 2) rfl
  refine .ite (fun _ => .pure (.event (.navigate homeUrl) rfl)) fun _ => ?_
  refine .bind fun right _ => .ite (fun _ => .pure ?omnibox) fun _ => ?_
  case omnibox => split <;> exact .none rfl
  refine .ite (fun _ => .pure (.none rfl)) fun _ => ?_
  refine .ite (fun _ => .pure (sends_setZoom _)) fun _ => ?_
  refine .ite (fun _ => .pure (sends_setZoom _)) fun _ => ?_
  refine .ite (fun _ => sends_zoomIn) fun _ => ?_
  exact .ite (fun _ => .pure (.event (.clearData true true true) rfl)) fun _ => .pure (.none rfl)

/-- The toolbar sends no buttons on. -/
theorem sends_handleChromeClick {x y : Int32} {button : UInt32} :
    Yields (core.handleChromeClick build x y button) fun next => Sends core next [] := by
  refine .ite (fun _ => sends_clickTabBar) fun _ => .ite (fun _ => sends_clickNavBar) fun _ => ?_
  split
  · exact .pure (sends_load _)
  · exact .pure (.none rfl)

theorem sends_contentClick {middle : BrowserCore} {editing clicked : Prop} [Decidable editing]
    [Decidable clicked] {ev : InputEvent} (told : middle.outboundInputs = core.outboundInputs) :
    Sends core (if clicked then
        (if editing then { middle with editing := false, chromeDirty := true } else middle).emitInput ev
      else if editing then { middle with editing := false, chromeDirty := true } else middle)
      (if clicked then ev.edge.toList else []) := by
  split
  · split <;> exact .event ev (congrArg (· ++ [ev]) told)
  · split <;> exact .none told

theorem sends_onMouseButton (x y : Int32) (which : UInt32) (pressed : Bool) :
    Yields (core.onMouseButton build x y which pressed) fun next =>
      Sends core next (Device.sends core (.button x y which pressed)) := by
  refine .ite (fun above => ?_) fun below => .pure ?_
  · have kept : Device.sends core (.button x y which pressed) = [] := by
      have reached : ¬ (chromeH.toNat : Int) ≤ y.toInt := Int.not_le.mpr above
      simp only [Device.sends, reached, and_false, if_false]
    rw [kept]
    refine .ite (fun _ => ?_) fun _ => .pure (.none rfl)
    intro next clicked
    obtain ⟨added, told, silent⟩ := sends_handleChromeClick next clicked
    exact ⟨added, told, silent⟩
  · have sent : Device.sends core (.button x y which pressed) =
        if which ≠ 0 then [(.button which, pressed)] else [] := by
      simp [Device.sends, Int.not_lt.mp below]
    rw [sent]
    exact sends_contentClick rfl

theorem isSome_ite {α : Type} {condition : Prop} [Decidable condition] {first : α} {rest : Option α} :
    (if condition then some first else rest).isSome = true ↔ condition ∨ rest.isSome = true := by
  split <;> simp_all

theorem isSome_onCtrlKey (keysym : UInt32) :
    (core.onCtrlKey build keysym).isSome = true ↔ keysym ∈ ctrlShortcuts := by
  simp only [onCtrlKey, isSome_ite, ctrlShortcuts, List.mem_cons, List.not_mem_nil, or_assoc,
    Option.isSome_none, Bool.false_eq_true]

theorem sends_onCtrlKey {keysym : UInt32} :
    ∀ taken ∈ core.onCtrlKey build keysym, Yields taken fun next => Sends core next [] := by
  unfold onCtrlKey
  refine taken_ite (.pure (.none rfl)) <| taken_ite sends_newTab <| taken_ite ?close <|
    taken_ite (.pure (.event (.navAction 2) rfl)) <| taken_ite (.pure (.none rfl)) <|
    taken_ite sends_zoomIn <| taken_ite (.pure (sends_setZoom _)) <|
    taken_ite (.pure (sends_setZoom _)) <| taken_ite ?next
    fun _ absent => absurd absent (Option.not_mem_none _)
  case close =>
    refine .pure ?_
    split
    · exact sends_closeActiveTab
    · exact .none rfl
  case next => exact .ite (fun _ => sends_nextTab) fun _ => .pure (.none rfl)

theorem sends_onEditKey {keysym : UInt32} : ∀ next ∈ core.onEditKey keysym, Sends core next [] := by
  unfold onEditKey
  exact taken_ite (sends_load _) <| taken_ite (.none rfl) <| taken_ite (.none rfl)
    fun _ absent => absurd absent (Option.not_mem_none _)

theorem sends_typeText (keysym : UInt32) (text : Option String) :
    Sends core (core.typeText keysym text) [] := by
  unfold typeText
  split
  · exact .none rfl
  · split <;> exact .none rfl

theorem sends_onPlainKey (keysym : UInt32) (pressed modified : Bool) (text : Option String) :
    Sends core (core.onPlainKey keysym pressed modified text)
      (if keysym ≠ 0 ∧ ¬ core.editing = true then [(.key keysym, pressed)] else []) := by
  unfold onPlainKey
  cases editing : core.editing with
  | true =>
      have kept : (if keysym ≠ 0 ∧ ¬ True then [(Control.key keysym, pressed)] else []) = [] :=
        if_neg fun sent => sent.2 trivial
      simp only [if_true, kept]
      split
      · exact sends_typeText keysym text
      · exact .none rfl
  | false =>
      simp only [Bool.false_eq_true, if_false, not_false_eq_true, and_true]
      split
      · exact .event (.key keysym core.mods pressed) rfl
      · exact .none rfl

theorem sends_onKey (keysym : UInt32) (pressed : Bool) (text : Option String) :
    Yields (core.onKey build keysym pressed text) fun result =>
      Sends core result.1 (Device.sends core (.key keysym pressed text)) := by
  have plain (modified : Bool) : Sends core (core.onPlainKey keysym pressed modified text) _ :=
    sends_onPlainKey keysym pressed modified text
  have kept (keeps : core.KeepsKey keysym pressed) :
      Device.sends core (.key keysym pressed text) = [] := if_neg fun sent => sent.2 keeps
  unfold onKey
  cases pressed with
  | false =>
      have same : Device.sends core (.key keysym false text) =
          if keysym ≠ 0 ∧ ¬ core.editing = true then [(.key keysym, false)] else [] := by
        simp [Device.sends, KeepsKey]
      rw [same]
      exact .pure (plain _)
  | true =>
      have shortcut (is : core.IsShortcut keysym) {next : BrowserCore} (silent : Sends core next []) :
          Sends core next (Device.sends core (.key keysym true text)) := by
        rw [kept (.inr ⟨rfl, is⟩)]
        exact silent
      refine .ite (fun _ => ?_) fun absent => absurd rfl absent
      refine .ite (fun quits => .pure (shortcut (.inl quits) (.none rfl))) fun quits => ?_
      refine .ite (fun reloads => .pure ?reload) fun reloads => ?_
      case reload => exact shortcut (.inr (.inl reloads)) (.event (.navAction 2) rfl)
      refine .ite (fun back => .pure ?back) fun back => ?_
      case back => exact shortcut (.inr (.inr (.inl ⟨back.1, .inl back.2⟩))) (.event (.navAction 0) rfl)
      refine .ite (fun onward => .pure ?onward) fun onward => ?_
      case onward =>
        exact shortcut (.inr (.inr (.inl ⟨onward.1, .inr onward.2⟩))) (.event (.navAction 1) rfl)
      split
      case h_1 taken found =>
        split at found
        case isTrue ctrl =>
          have listed := (isSome_onCtrlKey keysym).mp (Option.isSome_of_eq_some found)
          refine .bind fun next returned => .pure ?_
          exact shortcut (.inr (.inr (.inr ⟨ctrl, listed⟩))) (sends_onCtrlKey taken found next returned)
        case isFalse => cases found
      case h_2 none_found =>
        split
        case h_1 taken edited =>
          split at edited
          case isTrue editing =>
            rw [kept (.inl editing)]
            exact .pure (sends_onEditKey taken edited)
          case isFalse => cases edited
        case h_2 =>
          have other : ¬ core.IsShortcut keysym := by
            intro is
            rcases is with quit | reload | ⟨alt, left | right⟩ | ⟨ctrl, listed⟩
            · exact quits quit
            · exact reloads reload
            · exact back ⟨alt, left⟩
            · exact onward ⟨alt, right⟩
            · rw [if_pos ctrl] at none_found
              have found : (core.onCtrlKey build keysym).isSome = true := (isSome_onCtrlKey keysym).mpr listed
              rw [none_found] at found
              cases found
          have same : Device.sends core (.key keysym true text) =
              if keysym ≠ 0 ∧ ¬ core.editing = true then [(.key keysym, true)] else [] := by
            simp [Device.sends, KeepsKey, other]
          rw [same]
          exact .pure (plain _)

end BrowserCore

end ExoBrowser.Client
