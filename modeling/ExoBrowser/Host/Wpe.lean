import ExoBrowser.Host.Requests
import ExoBrowser.Library.Mirror
import Mathlib.Data.List.Infix

/-!
# The tabs of WPE

The runner hands its calls to the main loop of WPE, which keeps a table of tabs of its
own and runs what it is handed in order. An url passes through a C string on the way.
-/

set_option autoImplicit false

namespace ExoBrowser.Host

open Library Proto

/-! ## C strings -/

def nul : Char := Char.ofNat 0

/-- A string that ends at its first NUL for C. -/
structure CString where
  text : String
  noNul : nul ∉ text.toList
deriving DecidableEq

/-- `CString::new`, which fails on a NUL inside. -/
def CString.new (s : String) : Option CString :=
  if noNul : nul ∉ s.toList then some { text := s, noNul } else none

theorem CString.new_eq_some {s : String} (noNul : nul ∉ s.toList) :
    CString.new s = some { text := s, noNul } := dif_pos noNul

theorem CString.new_eq_none {s : String} (found : nul ∈ s.toList) : CString.new s = none :=
  dif_neg (not_not_intro found)

/-! ## The main loop -/

/-- `tab_t`, with the url that its view was asked for last. -/
structure WpeTab where
  curW : Int32
  curH : Int32
  asked : Option CString

def WpeTab.load (tab : WpeTab) (url : CString) : WpeTab := { tab with asked := some url }

def WpeTab.resize (tab : WpeTab) (w h : UInt32) : WpeTab :=
  { tab with curW := w.toInt32, curH := h.toInt32 }

/-- `instance_t`. -/
structure Instance where
  tabs : UInt32 → Option WpeTab
  defW : Int32
  defH : Int32

/-- What waits in the main loop. Input, zoom and history go to the view of a tab. -/
inductive IdleOp where
  | createTab (tabId : UInt32) (url : CString)
  | closeTab (tabId : UInt32)
  | loadUri (tabId : UInt32) (url : CString)
  | resizeAll (w h : UInt32)
  | view (tabId : UInt32) (call : RunnerCall)
  | clear (cookies cache storage : Bool)

/-- The methods of `WpeRunner` with the C functions behind them, the handle being ready. -/
def RunnerCall.marshal (call : RunnerCall) : Option IdleOp :=
  match call with
  | .createTab tabId url => (CString.new url).map (.createTab tabId)
  | .closeTab tabId => some (.closeTab tabId)
  | .loadUri tabId url => (CString.new url).map (.loadUri tabId)
  | .resizeAll w h => if w = 0 ∨ h = 0 then none else some (.resizeAll w h)
  | .injectPointerMotion tabId _ _ _ => some (.view tabId call)
  | .injectPointerButton tabId _ _ _ _ _ => some (.view tabId call)
  | .injectKey tabId _ _ _ => some (.view tabId call)
  | .injectAxis tabId _ _ _ _ _ => some (.view tabId call)
  | .setZoom tabId _ => some (.view tabId call)
  | .goBack tabId => some (.view tabId call)
  | .goForward tabId => some (.view tabId call)
  | .reload tabId => some (.view tabId call)
  | .stopLoading tabId => some (.view tabId call)
  | .clearData cookies cache storage => some (.clear cookies cache storage)

namespace Instance

variable (inst : Instance)

/-- A view is asked for an url that is not empty. Its creation succeeds. -/
def createTabInternal (tabId : UInt32) (url : CString) : Instance :=
  let tab : WpeTab :=
    { curW := if inst.defW > 0 then inst.defW else 1280
      curH := if inst.defH > 0 then inst.defH else 720
      asked := if url.text = "" then none else some url }
  { inst with tabs := Function.update inst.tabs tabId (some tab) }

def idleCreateTab (tabId : UInt32) (url : CString) : Instance :=
  match inst.tabs tabId with
  | some _ => inst
  | none => inst.createTabInternal tabId url

def idleCloseTab (tabId : UInt32) : Instance :=
  { inst with tabs := Function.update inst.tabs tabId none }

def idleLoadUri (tabId : UInt32) (url : CString) : Instance :=
  { inst with tabs := Function.update inst.tabs tabId ((inst.tabs tabId).map (·.load url)) }

/-- `idle_resize` for all tabs. -/
def idleResize (w h : UInt32) : Instance :=
  { tabs := fun tabId => (inst.tabs tabId).map (·.resize w h)
    defW := w.toInt32
    defH := h.toInt32 }

/-- Runs an operation, and returns what it asks of a view or of the data manager. -/
def run : IdleOp → Instance × List RunnerCall
  | .createTab tabId url => (inst.idleCreateTab tabId url, [])
  | .closeTab tabId => (inst.idleCloseTab tabId, [])
  | .loadUri tabId url => (inst.idleLoadUri tabId url, [])
  | .resizeAll w h => (inst.idleResize w h, [])
  | .view tabId call => (inst, if (inst.tabs tabId).isSome then [call] else [])
  | .clear cookies cache storage =>
      (inst, if cookies || cache || storage then [.clearData cookies cache storage] else [])

/-- The state of `gutted_wpe_run` when its main loop starts. -/
def start (initialUrl : CString) (viewportW viewportH : Int32) : Instance :=
  let empty : Instance := { tabs := fun _ => none, defW := viewportW, defH := viewportH }
  empty.createTabInternal 1 initialUrl

end Instance

/-! ## The two sides -/

structure Wired where
  host : HostState
  queue : List IdleOp
  wpe : Instance

/-- A request is handled, or the main loop runs what has waited longest. -/
inductive WiredEvent where
  | request (request : Request)
  | idle

namespace Wired

/-- `HostState::new`, whose url must not contain NUL. -/
def new (initialUrl : CString) : Wired where
  host := .new initialUrl.text
  queue := []
  wpe := .start initialUrl 1280 648

variable (wired : Wired)

def step : WiredEvent → Wired × List RunnerCall
  | .request request =>
      let handled := wired.host.handle request
      ({ wired with
          host := handled.state
          queue := wired.queue ++ handled.calls.filterMap RunnerCall.marshal }, [])
  | .idle =>
      match wired.queue with
      | [] => (wired, [])
      | op :: rest =>
          let (next, asked) := wired.wpe.run op
          ({ wired with queue := rest, wpe := next }, asked)

/-- The C side once the queued operations have run. -/
def settled : Instance := wired.queue.foldl (fun inst op => (inst.run op).1) wired.wpe

end Wired

def wiredStep : Step Wired WiredEvent RunnerCall := fun wired event asked next =>
  wired.step event = (next, asked)

def WiredEvent.msg : WiredEvent → Option Message
  | .request r => some r.msg
  | .idle => none

/-! ## What marks a tab open -/

/-- What a request does to a table at a tab, where a create counts for some urls only. -/
def tabMark (counts : String → Bool) (tabId : UInt32) : Message → Option Bool
  | .createTab made url => if made = tabId ∧ counts url then some true else none
  | .closeTab gone => if gone = tabId then some false else none
  | _ => none

def anyUrl (_ : String) : Bool := true

def cUrl (url : String) : Bool := nul ∉ url.toList

section Marks

variable (tabId : UInt32)

def IdleOp.mark : IdleOp → Option Bool
  | .createTab made _ => if made = tabId then some true else none
  | .closeTab gone => if gone = tabId then some false else none
  | _ => none

theorem filterMap_one {α β : Type} (f : α → Option β) (a : α) : [a].filterMap f = (f a).toList := by
  cases found : f a with
  | none => exact List.filterMap_cons_none found
  | some b => exact List.filterMap_cons_some found

/-- The marks of an entry that is written or erased. -/
theorem update_isSome_iff {α : Type} (table : UInt32 → Option α) (key : UInt32) (entry : Option α) :
    (Function.update table key entry tabId).isSome ↔
      final (table tabId).isSome (if key = tabId then some entry.isSome else none).toList := by
  by_cases same : key = tabId
  · subst same
    rw [if_pos rfl, Function.update_self]
    rfl
  · rw [if_neg same, Function.update_of_ne (Ne.symm same)]
    rfl

theorem handle_isSome_iff (host : HostState) (request : Request) :
    ((host.handle request).state.tabs tabId).isSome ↔
      final (host.tabs tabId).isSome (tabMark anyUrl tabId request.msg).toList := by
  have effect : TabEffect host request.msg (host.handle request).state := handle_tabEffect request
  generalize request.msg = msg at effect
  generalize (host.handle request).state = next at effect
  cases effect with
  | @create made url next tabs active =>
      rw [tabs]
      refine (update_isSome_iff tabId host.tabs made (some _)).trans ?_
      simp [tabMark, anyUrl]
  | close tabs active =>
      rw [tabs]
      exact update_isSome_iff tabId host.tabs _ _
  | switch tabs active =>
      rw [tabs]
      rfl
  | other noCreate noClose noSwitch same =>
      subst same
      unfold tabMark
      split
      case h_1 made url => exact absurd rfl (noCreate made url)
      case h_2 gone => exact absurd rfl (noClose gone)
      case h_3 => rfl

theorem idleCreateTab_isSome_iff (inst : Instance) (made : UInt32) (url : CString) :
    ((inst.idleCreateTab made url).tabs tabId).isSome ↔
      final (inst.tabs tabId).isSome (if made = tabId then some true else none).toList := by
  unfold Instance.idleCreateTab
  cases found : inst.tabs made with
  | none => exact update_isSome_iff tabId inst.tabs made (some _)
  | some tab =>
      by_cases same : made = tabId
      · subst same
        rw [if_pos rfl]
        exact iff_of_true (by rw [found]; rfl) rfl
      · rw [if_neg same]
        rfl

theorem run_isSome_iff (inst : Instance) (op : IdleOp) :
    ((inst.run op).1.tabs tabId).isSome ↔
      final (inst.tabs tabId).isSome (op.mark tabId).toList := by
  cases op with
  | createTab made url => exact idleCreateTab_isSome_iff tabId inst made url
  | closeTab gone => exact update_isSome_iff tabId inst.tabs gone none
  | loadUri loaded url =>
      change (Function.update inst.tabs loaded _ tabId).isSome ↔ (inst.tabs tabId).isSome
      by_cases same : loaded = tabId
      · subst same
        rw [Function.update_self, Option.isSome_map]
      · rw [Function.update_of_ne (Ne.symm same)]
  | resizeAll w h =>
      change ((inst.tabs tabId).map _).isSome ↔ (inst.tabs tabId).isSome
      rw [Option.isSome_map]
  | view shown call => rfl
  | clear cookies cache storage => rfl

/-- What a call of the runner is going to do to the table of the C side. -/
def RunnerCall.mark (call : RunnerCall) : Option Bool := call.marshal.bind (IdleOp.mark tabId)

theorem createTab_mark (made : UInt32) (url : String) :
    (RunnerCall.createTab made url).mark tabId = tabMark cUrl tabId (.createTab made url) := by
  change ((CString.new url).map (IdleOp.createTab made)).bind (IdleOp.mark tabId) = _
  by_cases found : nul ∈ url.toList
  · rw [CString.new_eq_none found]
    simp [tabMark, cUrl, found]
  · rw [CString.new_eq_some found]
    simp [tabMark, cUrl, found, IdleOp.mark]

theorem loadUri_mark (loaded : UInt32) (url : String) :
    (RunnerCall.loadUri loaded url).mark tabId = none := by
  change ((CString.new url).map (IdleOp.loadUri loaded)).bind _ = none
  cases CString.new url <;> rfl

theorem resizeAll_mark (w h : UInt32) : (RunnerCall.resizeAll w h).mark tabId = none := by
  change (if w = 0 ∨ h = 0 then none else some (IdleOp.resizeAll w h)).bind _ = none
  split <;> rfl

theorem handle_calls_marks (host : HostState) (request : Request) :
    (host.handle request).calls.filterMap (RunnerCall.mark tabId) =
      (tabMark cUrl tabId request.msg).toList := by
  obtain ⟨msg, lastPointer, tsUs⟩ := request
  cases msg with
  | createTab made url =>
      rw [← createTab_mark]
      exact filterMap_one _ _
  | closeTab gone => exact filterMap_one _ _
  | resize viewportW viewportH dprHundredths =>
      exact (filterMap_one _ _).trans (congrArg Option.toList (resizeAll_mark tabId _ _))
  | nav url => exact (filterMap_one _ _).trans (congrArg Option.toList (loadUri_mark tabId _ _))
  | navAction action =>
      unfold HostState.handle
      simp only
      split
      · rfl
      · split
        · rfl
        · split <;> rfl
  | _ => rfl

end Marks

/-! ## The two tables -/

/-- Both sides know the same tabs once the main loop has caught up. -/
def Wired.InStep (wired : Wired) : Prop :=
  ∀ tabId, (wired.host.tabs tabId).isSome ↔ (wired.settled.tabs tabId).isSome

/-- Since its last close, the tab has been created with an url that counts. -/
def CreatedWith (counts : String → Bool) (tabId : UInt32) (msgs : List Message) : Prop :=
  ∃ url after, counts url ∧ .createTab tabId url :: after <:+ msgs ∧ .closeTab tabId ∉ after

/-- A tab that has been created since its last close has been so with an url without NUL,
or is the first tab and has never been closed. -/
def CreatesReach (msgs : List Message) : Prop :=
  ∀ tabId, CreatedWith anyUrl tabId msgs →
    CreatedWith cUrl tabId msgs ∨ (tabId = 1 ∧ .closeTab tabId ∉ msgs)

section Tables

variable (tabId : UInt32)

theorem foldl_run_isSome_iff (ops : List IdleOp) (inst : Instance) :
    ((ops.foldl (fun inst op => (inst.run op).1) inst).tabs tabId).isSome ↔
      final (inst.tabs tabId).isSome (ops.filterMap (IdleOp.mark tabId)) := by
  induction ops generalizing inst with
  | nil => rfl
  | cons op ops ih =>
      have ran := final_congr (run_isSome_iff tabId inst op) (ops.filterMap (IdleOp.mark tabId))
      rw [← final_append] at ran
      refine (ih _).trans (ran.trans ?_)
      rw [← filterMap_one, ← List.filterMap_append]
      rfl

/-- Each table holds what the requests have marked, from the first tab on. -/
structure Wired.Marked (wired : Wired) (msgs : List Message) : Prop where
  host : (wired.host.tabs tabId).isSome ↔ final (tabId = 1) (msgs.filterMap (tabMark anyUrl tabId))
  wpe : (wired.settled.tabs tabId).isSome ↔ final (tabId = 1) (msgs.filterMap (tabMark cUrl tabId))

theorem new_marked (initialUrl : CString) : (Wired.new initialUrl).Marked tabId [] := by
  have first {α : Type} (entry : α) :
      (Function.update (fun _ => none) (1 : UInt32) (some entry) tabId).isSome ↔ tabId = 1 := by
    by_cases same : tabId = 1
    · rw [same, Function.update_self]
      exact iff_of_true rfl rfl
    · rw [Function.update_of_ne same]
      exact iff_of_false Bool.false_ne_true same
  exact { host := first _, wpe := first _ }

theorem request_settled (wired : Wired) (request : Request) :
    (wired.step (.request request)).1.settled =
      ((wired.host.handle request).calls.filterMap RunnerCall.marshal).foldl
        (fun inst op => (inst.run op).1) wired.settled := List.foldl_append

theorem idle_host (wired : Wired) : (wired.step .idle).1.host = wired.host := by
  unfold Wired.step
  cases wired.queue <;> rfl

theorem idle_settled (wired : Wired) : (wired.step .idle).1.settled = wired.settled := by
  obtain ⟨host, queue, wpe⟩ := wired
  cases queue <;> rfl

theorem request_marked {wired : Wired} {msgs : List Message} (marked : wired.Marked tabId msgs)
    (request : Request) :
    (wired.step (.request request)).1.Marked tabId (msgs ++ [request.msg]) where
  host := by
    rw [List.filterMap_append, filterMap_one, final_append]
    exact (handle_isSome_iff tabId wired.host request).trans (final_congr marked.host _)
  wpe := by
    rw [List.filterMap_append, filterMap_one, final_append]
    refine Iff.trans ?_ (final_congr marked.wpe _)
    rw [request_settled, foldl_run_isSome_iff, List.filterMap_filterMap]
    exact iff_of_eq (congrArg _ (handle_calls_marks tabId wired.host request))

theorem idle_marked {wired : Wired} {msgs : List Message} (marked : wired.Marked tabId msgs) :
    (wired.step .idle).1.Marked tabId msgs where
  host := by
    rw [idle_host]
    exact marked.host
  wpe := by
    rw [idle_settled]
    exact marked.wpe

theorem run_marked {initialUrl : CString} {events : List WiredEvent} {asked : List RunnerCall}
    {wired : Wired} (ran : Runs wiredStep (.new initialUrl) events asked wired) :
    wired.Marked tabId (events.filterMap WiredEvent.msg) := by
  induction ran with
  | start => exact new_marked tabId initialUrl
  | @step events asked wired event added next ran stepped ih =>
      have reached : (wired.step event).1 = next := congrArg Prod.fst stepped
      rw [List.filterMap_append, ← reached]
      cases event with
      | request request => exact request_marked tabId ih request
      | idle =>
          have kept := idle_marked tabId ih
          rwa [← List.append_nil (List.filterMap _ _)] at kept

theorem tabMark_eq_some_true_iff {counts : String → Bool} {msg : Message} :
    tabMark counts tabId msg = some true ↔ ∃ url, counts url ∧ msg = .createTab tabId url := by
  unfold tabMark
  split
  case h_1 made url =>
      constructor
      · intro marked
        split at marked
        case isTrue both => exact ⟨url, both.2, by rw [both.1]⟩
        case isFalse => cases marked
      · rintro ⟨other, counted, same⟩
        cases same
        exact if_pos ⟨rfl, counted⟩
  case h_2 gone => simp
  case h_3 noCreate noClose => simpa using fun url _ same => noCreate _ url same

theorem tabMark_ne_some_false_iff {counts : String → Bool} {msg : Message} :
    tabMark counts tabId msg ≠ some false ↔ msg ≠ .closeTab tabId := by
  unfold tabMark
  split
  case h_1 made url => simp
  case h_2 gone => simp
  case h_3 noCreate noClose => simpa using fun same => noClose _ same

theorem final_tabMarks_iff (counts : String → Bool) (msgs : List Message) :
    final (tabId = 1) (msgs.filterMap (tabMark counts tabId)) ↔
      CreatedWith counts tabId msgs ∨ (tabId = 1 ∧ .closeTab tabId ∉ msgs) := by
  have unclosed (later : List Message) :
      (∀ msg ∈ later, tabMark counts tabId msg ≠ some false) ↔ .closeTab tabId ∉ later := by
    simp only [tabMark_ne_some_false_iff]
    exact List.forall_mem_ne'
  rw [final_filterMap_iff, unclosed]
  refine or_congr_left ⟨?_, ?_⟩
  · rintro ⟨msg, after, marked, suffix, kept⟩
    obtain ⟨url, counted, rfl⟩ := (tabMark_eq_some_true_iff tabId).mp marked
    exact ⟨url, after, counted, suffix, (unclosed after).mp kept⟩
  · rintro ⟨url, after, counted, suffix, kept⟩
    have marked := (tabMark_eq_some_true_iff tabId).mpr ⟨url, counted, rfl⟩
    exact ⟨_, after, marked, suffix, (unclosed after).mpr kept⟩

end Tables

/-- Whatever the main loop has run so far, the two tables agree after a sequence of requests
if and only if every tab left open has been created with an url that C can hold. -/
theorem tables_in_step_iff (initialUrl : CString) (events : List WiredEvent)
    (asked : List RunnerCall) (wired : Wired)
    (ran : Runs wiredStep (.new initialUrl) events asked wired) :
    wired.InStep ↔ CreatesReach (events.filterMap WiredEvent.msg) := by
  refine forall_congr' fun tabId => ?_
  have marked := run_marked tabId ran
  rw [marked.host, marked.wpe, final_tabMarks_iff, final_tabMarks_iff]
  generalize (tabId = 1 ∧ .closeTab tabId ∉ events.filterMap WiredEvent.msg) = first
  constructor
  · intro same created
    exact same.mp (.inl created)
  · intro reach
    refine ⟨?_, ?_⟩
    · rintro (created | unclosed)
      · exact reach created
      · exact .inr unclosed
    · rintro (⟨url, after, counted, suffix, kept⟩ | unclosed)
      · exact .inl ⟨url, after, rfl, suffix, kept⟩
      · exact .inr unclosed

/-- The url of tab 2 ends in NUL. The host lists the tab, and WPE never hears of it. -/
theorem create_with_nul_lost :
    let url := String.ofList ['a', nul]
    ∃ (initialUrl : CString) (asked : List RunnerCall) (wired : Wired),
      Runs wiredStep (.new initialUrl) [.request ⟨.createTab 2 url, (0, 0), 0⟩] asked wired ∧
      wired.queue = [] ∧ (wired.host.tabs 2).isSome ∧ wired.wpe.tabs 2 = none ∧ ¬ wired.InStep := by
  intro url
  let initialUrl : CString := ⟨"a", by decide⟩
  let wired := ((Wired.new initialUrl).step (.request ⟨.createTab 2 url, (0, 0), 0⟩)).1
  have empty : wired.queue = [] := by decide
  have settled : wired.settled = wired.wpe := by
    unfold Wired.settled
    rw [empty]
    rfl
  refine ⟨initialUrl, [], wired, .single rfl, empty, rfl, rfl, fun same => ?_⟩
  have listed := (same 2).mp rfl
  rw [settled] at listed
  cases listed

theorem tables_in_step_created :
    ∃ (initialUrl : CString) (asked : List RunnerCall) (wired : Wired),
      Runs wiredStep (.new initialUrl) [.request ⟨.createTab 2 "b", (0, 0), 0⟩] asked wired ∧
      wired.InStep := by
  let initialUrl : CString := ⟨"a", by decide⟩
  have ran : Runs wiredStep (.new initialUrl) [.request ⟨.createTab 2 "b", (0, 0), 0⟩] _ _ :=
    .single rfl
  refine ⟨initialUrl, _, _, ran, (tables_in_step_iff initialUrl _ _ _ ran).mpr ?_⟩
  rintro tabId ⟨url, after, _, ⟨front, split⟩, kept⟩
  change front ++ .createTab tabId url :: after = [.createTab 2 "b"] at split
  cases front with
  | nil =>
      cases split
      exact .inl ⟨"b", [], by decide, List.suffix_rfl, kept⟩
  | cons first front => simp at split

end ExoBrowser.Host
