import ExoBrowser.Client.Input

/-!
# The strip

The tabs and the toolbar of the client as the user takes them, and what can be done to
them. Every input and every event from the host comes to one of these actions.
-/

set_option autoImplicit false

namespace ExoBrowser.Client

open Library Proto Checked

structure Strip where
  tabs : List TabInfo
  activeTabId : UInt32
  nextTabId : UInt32
  urlBuf : String
  editing : Bool
  isLoading : Bool
deriving DecidableEq

def BrowserCore.strip (core : BrowserCore) : Strip where
  tabs := core.tabs
  activeTabId := core.activeTabId
  nextTabId := core.nextTabId
  urlBuf := core.urlBuf
  editing := core.editing
  isLoading := core.isLoading

/-- The actions of the user come first, then what the host tells. -/
inductive StripAction where
  | keep
  | edit (text : String)
  | blur
  | cancel
  | load (url : String)
  | home
  | newTab
  | closeActive
  | closeAt (i : Nat)
  | showNext
  | click (i : Nat)
  | loadState (isLoading : Bool)
  | urlChanged (url : String)
  | title (newTitle : String)
  | created (tabId : UInt32) (newTitle url : String)
  | closed (tabId : UInt32)
  | activated (tabId : UInt32)
  | tabTitle (tabId : UInt32) (newTitle : String)
  | tabUrl (tabId : UInt32) (url : String)
deriving DecidableEq

/-! ## Tabs -/

def TabInfo.loading (t : TabInfo) (url : String) : TabInfo :=
  { t with url, isSecure := isSecureUrl url, isLoading := true }

def TabInfo.moved (t : TabInfo) (url : String) : TabInfo :=
  { t with url, isSecure := isSecureUrl url }

def TabInfo.renamed (t : TabInfo) (newTitle : String) : TabInfo := { t with title := newTitle }

/-- A tab that the host tells of, where an empty text tells nothing. -/
def TabInfo.updated (t : TabInfo) (newTitle url : String) : TabInfo :=
  { t with
    title := if newTitle.isEmpty then t.title else newTitle
    isSecure := if url.isEmpty then t.isSecure else isSecureUrl url
    url := if url.isEmpty then t.url else url }

/-- The tab that the client opens by itself. -/
def TabInfo.opened (id : UInt32) : TabInfo :=
  { id, title := "New Tab", url := homeUrl, isLoading := true, isSecure := true }

/-- The tab that the client lists when it first hears of it. -/
def TabInfo.heard (id : UInt32) (newTitle url : String) : TabInfo :=
  { id, title := if newTitle.isEmpty then "New Tab" else newTitle
    isSecure := isSecureUrl url, url, isLoading := false }

namespace Strip

variable (s : Strip)

def ids : List UInt32 := s.tabs.map (·.id)

def find (tabId : UInt32) : Option TabInfo := s.tabs.find? (·.id = tabId)

def activeTab : Option TabInfo := s.find s.activeTabId

/-- The tab behind the active one, around the end. -/
def nextTab : Option TabInfo :=
  s.tabs[((s.tabs.findIdx? (·.id = s.activeTabId)).getD 0 + 1) % s.tabs.length]?

/-- The first tab, if there is one, becomes active. -/
def showFirst : Strip :=
  match s.tabs.head? with
  | some first => { s with activeTabId := first.id, urlBuf := first.url }
  | none => s

theorem showFirst_of_some {first : TabInfo} (found : s.tabs.head? = some first) :
    s.showFirst = { s with activeTabId := first.id, urlBuf := first.url } := by
  unfold showFirst
  rw [found]

theorem showFirst_of_none (empty : s.tabs.head? = none) : s.showFirst = s := by
  unfold showFirst
  rw [empty]

def without (tabId : UInt32) : Strip := { s with tabs := s.tabs.filter (·.id ≠ tabId) }

def change (tabId : UInt32) (changed : TabInfo → TabInfo) : Strip :=
  { s with tabs := modifyFirst tabId changed s.tabs }

end Strip

/-! ## Actions -/

def StripAction.apply (s : Strip) : StripAction → Strip
  | .keep => s
  | .edit text => { s with urlBuf := text, editing := true }
  | .blur => { s with editing := false }
  | .cancel =>
      { s with
        editing := false
        urlBuf := match s.activeTab with
          | some t => t.url
          | none => s.urlBuf }
  | .load url =>
      { s.change s.activeTabId (·.loading url) with
        urlBuf := url, editing := false, isLoading := true }
  | .home => { s with urlBuf := homeUrl, editing := false }
  | .newTab =>
      { s with
        tabs := s.tabs ++ [TabInfo.opened s.nextTabId]
        activeTabId := s.nextTabId
        nextTabId := s.nextTabId + 1
        urlBuf := homeUrl
        editing := false }
  | .closeActive => (s.without s.activeTabId).showFirst
  | .closeAt i =>
      let closed := { s with tabs := s.tabs.eraseIdx i }
      match s.tabs[i]? with
      | some tab => if s.activeTabId = tab.id then closed.showFirst else closed
      | none => s
  | .showNext =>
      match s.nextTab with
      | some next =>
          { s with
            activeTabId := next.id
            urlBuf := match s.find next.id with
              | some t => t.url
              | none => s.urlBuf }
      | none => s
  | .click i =>
      match s.tabs[i]? with
      | some tab =>
          if s.activeTabId ≠ tab.id then
            { s with activeTabId := tab.id, urlBuf := tab.url, editing := false }
          else s
      | none => s
  | .loadState isLoading =>
      { s.change s.activeTabId fun t => { t with isLoading } with isLoading }
  | .urlChanged url =>
      { s.change s.activeTabId (·.moved url) with urlBuf := if s.editing then s.urlBuf else url }
  | .title newTitle => s.change s.activeTabId (·.renamed newTitle)
  | .created tabId newTitle url =>
      let listed := match s.find tabId with
        | some _ => s.change tabId (·.updated newTitle url)
        | none => { s with tabs := s.tabs ++ [TabInfo.heard tabId newTitle url] }
      { listed with nextTabId := max s.nextTabId (tabId + 1) }
  | .closed tabId =>
      let closed := s.without tabId
      if s.activeTabId = tabId then closed.showFirst else closed
  | .activated tabId =>
      if s.activeTabId ≠ tabId then
        match s.find tabId with
        | some t =>
            { s with
              activeTabId := tabId
              urlBuf := if s.editing then s.urlBuf else t.url
              isLoading := t.isLoading }
        | none => { s with activeTabId := tabId }
      else s
  | .tabTitle tabId newTitle => s.change tabId (·.renamed newTitle)
  | .tabUrl tabId url =>
      match s.find tabId with
      | some _ =>
          { s.change tabId (·.moved url) with
            urlBuf := if tabId = s.activeTabId ∧ !s.editing then url else s.urlBuf }
      | none => s

namespace StripAction

variable {s : Strip} {tabId : UInt32}

theorem closeAt_apply {i : Nat} {tab : TabInfo} (here : s.tabs[i]? = some tab) :
    (closeAt i).apply s =
      if s.activeTabId = tab.id then { s with tabs := s.tabs.eraseIdx i }.showFirst
      else { s with tabs := s.tabs.eraseIdx i } := by
  unfold apply
  simp only [here]

theorem closeAt_apply_of_none {i : Nat} (beyond : s.tabs[i]? = none) : (closeAt i).apply s = s := by
  unfold apply
  simp only [beyond]

theorem click_apply {i : Nat} {tab : TabInfo} (here : s.tabs[i]? = some tab) :
    (click i).apply s =
      if s.activeTabId ≠ tab.id then
        { s with activeTabId := tab.id, urlBuf := tab.url, editing := false }
      else s := by
  unfold apply
  simp only [here]

theorem click_apply_of_none {i : Nat} (beyond : s.tabs[i]? = none) : (click i).apply s = s := by
  unfold apply
  simp only [beyond]

theorem showNext_apply {next : TabInfo} (chosen : s.nextTab = some next) :
    showNext.apply s =
      { s with
        activeTabId := next.id
        urlBuf := match s.find next.id with
          | some t => t.url
          | none => s.urlBuf } := by
  unfold apply
  simp only [chosen]

theorem showNext_apply_of_none (empty : s.nextTab = none) : showNext.apply s = s := by
  unfold apply
  simp only [empty]

theorem created_apply {t : TabInfo} {newTitle url : String} (found : s.find tabId = some t) :
    (created tabId newTitle url).apply s =
      { s.change tabId (·.updated newTitle url) with nextTabId := max s.nextTabId (tabId + 1) } := by
  unfold apply
  simp only [found]

theorem created_apply_of_none {newTitle url : String} (absent : s.find tabId = none) :
    (created tabId newTitle url).apply s =
      { s with
        tabs := s.tabs ++ [TabInfo.heard tabId newTitle url]
        nextTabId := max s.nextTabId (tabId + 1) } := by
  unfold apply
  simp only [absent]

theorem closed_apply :
    (closed tabId).apply s =
      if s.activeTabId = tabId then (s.without tabId).showFirst else s.without tabId := rfl

theorem activated_apply {t : TabInfo} (other : s.activeTabId ≠ tabId) (found : s.find tabId = some t) :
    (activated tabId).apply s =
      { s with
        activeTabId := tabId
        urlBuf := if s.editing then s.urlBuf else t.url
        isLoading := t.isLoading } := by
  unfold apply
  simp only [if_pos other, found]

theorem activated_apply_of_none (other : s.activeTabId ≠ tabId) (absent : s.find tabId = none) :
    (activated tabId).apply s = { s with activeTabId := tabId } := by
  unfold apply
  simp only [if_pos other, absent]

theorem activated_apply_of_eq (same : s.activeTabId = tabId) : (activated tabId).apply s = s :=
  if_neg (not_not_intro same)

theorem tabUrl_apply {t : TabInfo} {url : String} (found : s.find tabId = some t) :
    (tabUrl tabId url).apply s =
      { s.change tabId (·.moved url) with
        urlBuf := if tabId = s.activeTabId ∧ !s.editing then url else s.urlBuf } := by
  unfold apply
  simp only [found]

theorem tabUrl_apply_of_none {url : String} (absent : s.find tabId = none) :
    (tabUrl tabId url).apply s = s := by
  unfold apply
  simp only [absent]

end StripAction

/-! ## What an event comes to -/

def RenderEvent.action : RenderEvent → StripAction
  | .loadState state => .loadState (state < 3)
  | .initialUrl url => .urlChanged url
  | .urlChanged url => .urlChanged url
  | .title newTitle => .title newTitle
  | .tabCreated tabId newTitle url => .created tabId newTitle url
  | .tabClosed tabId => .closed tabId
  | .tabActivated tabId => .activated tabId
  | .tabTitle tabId newTitle => .tabTitle tabId newTitle
  | .tabUrl tabId url => .tabUrl tabId url
  | _ => .keep

namespace BrowserCore

variable (build : Build) (core : BrowserCore)

def tabBarAction (x : Int) (button : UInt32) : Run StripAction := do
  let tabW ← core.tabWidth build
  match ← hitTab build x tabW core.tabs 0 6 with
  | .inl (i, _, tx) =>
      let closeX ← build.i32 (tx + tabW - 24)
      if (button = 2 ∨ (button = 1 ∧ x ≥ closeX)) ∧ core.tabs.length > 1 then return .closeAt i
      else return .click i
  | .inr tx =>
      if x < tx then return .keep
      else if x ≤ (← build.i32 (tx + 32)) then return .newTab
      else return .keep

def navBarAction (x : Int) : Run StripAction := do
  if 104 ≤ x ∧ x < 132 then return .home
  else if x < 140 then return .keep
  else do
    let rightX := max (← build.i32 (asI32 core.winSize.1.toNat - 216)) 200
    let omniW := max (rightX - 150) 80
    if x < 140 + omniW ∧ !core.editing then return .edit ""
    else return .keep

def chromeClickAction (x y : Int32) (button : UInt32) : Run StripAction := do
  if y.toInt < tabBarH.toNat then core.tabBarAction build x.toInt button
  else if y.toInt < (tabBarH + navBarH).toNat then core.navBarAction build x.toInt
  else match hitBookmark x.toInt bookmarks 8 with
    | some url => return .load url
    | none => return .keep

def mouseButtonAction (x y : Int32) (button : UInt32) (pressed : Bool) : Run StripAction := do
  if y.toInt < chromeH.toNat then
    if pressed then core.chromeClickAction build x y button else return .keep
  else return if pressed ∧ core.editing then .blur else .keep

/-- The shortcuts with Ctrl. Loading again, sound and zoom are not about the strip. -/
def ctrlKeyAction (keysym : UInt32) : Option StripAction :=
  if keysym = 0x6c ∨ keysym = 0x4c then some (.edit "")
  else if keysym = 0x74 ∨ keysym = 0x54 then some .newTab
  else if keysym = 0x77 ∨ keysym = 0x57 then
    some (if core.tabs.length > 1 then .closeActive else .keep)
  else if keysym = 0x72 ∨ keysym = 0x52 then some .keep
  else if keysym = 0x6d ∨ keysym = 0x4d then some .keep
  else if keysym = 0x3d ∨ keysym = 0x2b then some .keep
  else if keysym = 0x2d then some .keep
  else if keysym = 0x30 then some .keep
  else if keysym = 0xff09 then some (if core.tabs.length > 1 then .showNext else .keep)
  else none

def editKeyAction (keysym : UInt32) : Option StripAction :=
  if keysym = 0xff0d ∨ keysym = 0xff8d then some (.load (canonicalizeUrl core.urlBuf))
  else if keysym = 0xff1b then some .cancel
  else if keysym = 0xff08 then some (.edit (String.ofList core.urlBuf.toList.dropLast))
  else none

def typeTextAction (keysym : UInt32) : Option String → StripAction
  | some t => .edit (core.urlBuf ++ String.ofList (t.toList.filter (!isControl ·)))
  | none =>
      if 0x20 ≤ keysym ∧ keysym ≤ 0x7e then .edit (core.urlBuf.push (Char.ofNat keysym.toNat))
      else .keep

def plainKeyAction (keysym : UInt32) (pressed modified : Bool) (text : Option String) : StripAction :=
  if core.editing ∧ pressed ∧ !modified then core.typeTextAction keysym text else .keep

def keyAction (keysym : UInt32) (pressed : Bool) (text : Option String) : StripAction :=
  let ctrl := core.mods &&& modCtrl ≠ 0
  let alt := core.mods &&& modAlt ≠ 0
  let plain := core.plainKeyAction keysym pressed (ctrl || alt) text
  if pressed then
    if keysym = 0xffc8 ∨ keysym = 0xffc2 ∨ (alt ∧ (keysym = 0xff51 ∨ keysym = 0xff53)) then .keep
    else
      match if ctrl then core.ctrlKeyAction keysym else none with
      | some action => action
      | none => ((if core.editing then core.editKeyAction keysym else none).getD plain)
  else plain

end BrowserCore

/-- What the user means by an input, by where it hits the toolbar and which key it is. -/
def Device.action (build : Build) (core : BrowserCore) : Device → Run StripAction
  | .key keysym pressed text => return core.keyAction keysym pressed text
  | .button x y which pressed => core.mouseButtonAction build x y which pressed
  | _ => return .keep

end ExoBrowser.Client
