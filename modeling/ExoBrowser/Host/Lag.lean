import ExoBrowser.Host.WriterProperties

/-!
# Lagging subscribers

A task that learns from `recv` that it lags sends a snapshot. One that learns it from
`try_recv` does not: the inner loop takes the notice for the end of the batch.
-/

set_option autoImplicit false

namespace ExoBrowser.Host

open Library Proto

variable {actions : List Action}

/-! ## What is owed -/

private theorem snoc_cases {before later : List Action} {pivot last : Action}
    (split : actions ++ [last] = before ++ pivot :: later) :
    (before = actions ∧ pivot = last ∧ later = []) ∨
      ∃ rest, later = rest ++ [last] ∧ actions = before ++ pivot :: rest := by
  rcases List.eq_nil_or_concat later with rfl | ⟨rest, other, rfl⟩
  · obtain ⟨same, final⟩ := List.append_inj' split rfl
    exact .inl ⟨same.symm, (List.cons.inj final).1.symm, rfl⟩
  · rw [List.concat_eq_append, ← List.cons_append, ← List.append_assoc] at split
    obtain ⟨same, final⟩ := List.append_inj' split rfl
    rw [(List.cons.inj final).1, List.concat_eq_append]
    exact .inr ⟨rest, rfl, same⟩

theorem owing_of_snoc {last : Action} {first count : Nat} (other : last ≠ .lost first count)
    (owing : Owing (actions ++ [last]) first count) : Owing actions first count := by
  obtain ⟨earlier, between, split, unanswered⟩ := owing
  rcases snoc_cases split with ⟨_, same, _⟩ | ⟨rest, rfl, before⟩
  · exact absurd same.symm other
  · exact ⟨earlier, rest, before, fun answer member =>
      unanswered answer (List.mem_append_left _ member)⟩

theorem not_owing_snapshot {answer : Option Message} {first count : Nat} :
    ¬ Owing (actions ++ [.snapshot answer]) first count := by
  rintro ⟨earlier, between, split, unanswered⟩
  rcases snoc_cases split with ⟨_, different, _⟩ | ⟨rest, rfl, _⟩
  · cases different
  · exact unanswered answer (List.mem_append_right _ List.mem_cons_self)

theorem resynced_snoc {last : Action} (resynced : Resynced actions)
    (allowed : ∀ index m, last = .item index m → ∀ first count, ¬ Owing actions first count) :
    Resynced (actions ++ [last]) := by
  intro before index m later split first count owing
  rcases snoc_cases split with ⟨same, isItem, _⟩ | ⟨rest, _, earlier⟩
  · exact absurd (same ▸ owing) (allowed index m isItem.symm first count)
  · exact resynced before index m rest earlier first count owing

/-! ## Runs -/

def InTime (state : WriterState) (event : WriterEvent) : Prop :=
  event = .receive → ∀ index item, state.phase = .draining index item →
    ¬ Broadcast.Lags busCapacity state.sent state.next

def inTimeStep (writer : Writer) : Library.Step WriterState WriterEvent Action :=
  fun state event actions next => InTime state event ∧ writerStep writer state event actions next

/-- What is owed while no notice was swallowed: nothing, except for a task that was just told. -/
structure Answered (actions : List Action) (state : WriterState) : Prop where
  resynced : Resynced actions
  told : ∀ first count, Owing actions first count → state.phase = .lagged

theorem Answered.snoc {state next : WriterState} {last : Action}
    (answered : Answered actions state) (active : state.phase ≠ .lagged)
    (keeps : ∀ first count, last ≠ .lost first count) : Answered (actions ++ [last]) next := by
  have clear : ∀ first count, ¬ Owing actions first count := fun first count owing =>
    active (answered.told first count owing)
  exact ⟨resynced_snoc answered.resynced fun _ _ _ => clear, fun first count owing =>
    absurd (owing_of_snoc (keeps first count) owing) (clear first count)⟩

theorem answered_move {writer : Writer} {state next : WriterState} {event : WriterEvent}
    {added : List Action} (answered : Answered actions state) (inTime : InTime state event)
    (move : Move writer state event added next) : Answered (actions ++ added) next := by
  obtain ⟨resynced, told⟩ := answered
  cases move with
  | publish =>
      rw [List.append_nil]
      exact ⟨resynced, told⟩
  | store =>
      rw [List.append_nil]
      exact ⟨resynced, told⟩
  | take =>
      rw [List.append_nil]
      exact ⟨resynced, fun first count owing => nomatch told first count owing⟩
  | lag => exact ⟨resynced_snoc resynced nofun, fun _ _ _ => rfl⟩
  | supersede =>
      rw [List.append_nil]
      exact ⟨resynced, fun first count owing => nomatch told first count owing⟩
  | write => exact Answered.snoc ⟨resynced, told⟩ nofun nofun
  | swallow lags => exact absurd lags (inTime rfl _ _ rfl)
  | finish => exact Answered.snoc ⟨resynced, told⟩ nofun nofun
  | snapshot =>
      exact ⟨resynced_snoc resynced nofun, fun _ _ owing => absurd owing not_owing_snapshot⟩
  | reply => exact Answered.snoc ⟨resynced, told⟩ nofun nofun

/-- In a run in which no `try_recv` is called by a receiver that lags, a snapshot is sent
between any loss and the first item newer than it. -/
theorem lag_resynced (writer : Writer) {sent : List Message} {stored : Option Message}
    {events : List WriterEvent} {state : WriterState}
    (ran : Runs (inTimeStep writer) (.subscribe sent stored) events actions state) :
    Resynced actions := by
  have start : Answered [] (.subscribe sent stored) := by
    refine ⟨fun before index m later split => ?_, fun first count owing => ?_⟩
    · cases before <;> cases split
    · obtain ⟨earlier, between, split, _⟩ := owing
      cases earlier <;> cases split
  have answered := ran.invariant Answered start fun _ _ _ _ _ answered ⟨inTime, stepped⟩ =>
    answered_move answered inTime (move_of_writerStep stepped)
  exact answered.resynced

private theorem publishes_inTime (writer : Writer) (state : WriterState) (messages : List Message) :
    Runs (inTimeStep writer) state (messages.map .publish) []
      { state with sent := state.sent ++ messages } := by
  induction messages generalizing state with
  | nil =>
      rw [List.append_nil]
      exact .start
  | cons m messages ih =>
      have first : inTimeStep writer state (.publish m) [] { state with sent := state.sent ++ [m] } :=
        ⟨fun isReceive => (nomatch isReceive), rfl⟩
      have rest := ih { state with sent := state.sent ++ [m] }
      rw [List.append_assoc] at rest
      exact (Runs.single first).trans rest

/-- One of 257 items is lost before the first `recv`. Its snapshot goes out first. -/
theorem lag_resynced_told : Resynced [.lost 0 1, .snapshot (some .stop), .item 1 .stop] := by
  let full : List Message := List.replicate 257 .stop
  let reached (next : Nat) (phase : Phase) : WriterState := ⟨full, some .stop, next, phase⟩
  have published := publishes_inTime tcpWriter (.subscribe [] (some .stop)) full
  have told : inTimeStep tcpWriter (reached 0 .waiting) .receive [.lost 0 1] (reached 1 .lagged) := by
    refine ⟨fun _ index item draining => (nomatch draining), ?_⟩
    unfold writerStep
    decide +kernel
  have answered : inTimeStep tcpWriter (reached 1 .lagged) .snapshot [.snapshot (some .stop)]
      (reached 1 .waiting) := ⟨fun isReceive => (nomatch isReceive), rfl⟩
  have taken : inTimeStep tcpWriter (reached 1 .waiting) .receive []
      (reached 2 (.draining 1 .stop)) := by
    refine ⟨fun _ index item draining => (nomatch draining), ?_⟩
    unfold writerStep
    decide +kernel
  have written : inTimeStep tcpWriter (reached 2 (.draining 1 .stop)) .receive [.item 1 .stop]
      (reached 3 (.draining 2 .stop)) := by
    refine ⟨fun _ _ _ _ => by decide +kernel, ?_⟩
    unfold writerStep
    decide +kernel
  exact lag_resynced tcpWriter
    ((((published.trans (.single told)).trans (.single answered)).trans (.single taken)).trans
      (.single written))

/-! ## A swallowed notice -/

def storedFrame : Message := .rawFrame 0 1 1 4 0 Compression.zstd [0, 0, 0, 255]

/-- An item is taken, and before `try_recv` is called, 258 more are published. -/
def swallowedLag : List WriterEvent :=
  [.publish .stop, .receive] ++ List.replicate 258 (.publish .stop) ++
    [.receive, .receive, .receive]

/-- The task loses the items 1 and 2 and goes on with the third, although there is a
snapshot to send. -/
def LosesSilently (writer : Writer) : Prop :=
  ∃ actions state, Runs (writerStep writer) (.subscribe [] (some storedFrame)) swallowedLag
    actions state ∧ state.stored = some storedFrame ∧ ¬ Resynced actions

private theorem losesSilently (writer : Writer) : LosesSilently writer := by
  have result : runAll (WriterState.step writer) (.subscribe [] (some storedFrame)) swallowedLag =
      some ({ sent := List.replicate 259 .stop, stored := some storedFrame, next := 5
              phase := .draining 4 .stop },
        [.lost 1 2, .item 0 .stop, .item 3 .stop]) := by
    cases writer with
    | mk replies => cases replies <;> decide +kernel
  refine ⟨_, _, Runs.of_runAll result, rfl, fun resynced => ?_⟩
  have newer := resynced [.lost 1 2, .item 0 .stop] 3 .stop [] rfl 1 2
    ⟨[], [.item 0 .stop], rfl, by simp⟩
  exact absurd newer (by decide)

theorem lag_swallowed :
    LosesSilently quicWriter ∧ LosesSilently tcpWriter ∧ LosesSilently webSocketWriter :=
  ⟨losesSilently quicWriter, losesSilently tcpWriter, losesSilently webSocketWriter⟩

end ExoBrowser.Host
