import Mathlib.Data.List.Basic

/-!
# Presses and releases

A control is pressed and released in turn, and some of the reports are passed on. Those that are
passed on come in turn as well, and never leave the control down when it is up, exactly where of
each press and its release both are passed on, or neither is.
-/

set_option autoImplicit false

namespace Library

/-- A press or a release, and whether it is passed on. -/
structure Report where
  down : Bool
  passes : Bool
deriving DecidableEq, Repr

/-- The values come in turn, `next` first. -/
def Alternates : Bool → List Bool → Prop
  | _, [] => True
  | next, value :: rest => value = next ∧ Alternates (!next) rest

instance decidableAlternates : ∀ next values, Decidable (Alternates next values)
  | _, [] => .isTrue trivial
  | next, value :: rest =>
      have := decidableAlternates (!next) rest
      inferInstanceAs (Decidable (value = next ∧ Alternates (!next) rest))

def passedOn (reports : List Report) : List Bool := (reports.filter (·.passes)).map (·.down)

/-- Of a press and its release both are passed on, or neither is. -/
def Paired : List Report → Prop
  | press :: release :: rest => press.passes = release.passes ∧ Paired rest
  | _ => True

instance decidablePaired : ∀ reports, Decidable (Paired reports)
  | [] => .isTrue trivial
  | [_] => .isTrue trivial
  | press :: release :: rest =>
      have := decidablePaired rest
      inferInstanceAs (Decidable (press.passes = release.passes ∧ Paired rest))

/-- The control is down by the last of the values. -/
def LeftDown (values : List Bool) : Prop := values.getLast? = some true

instance decidableLeftDown (values : List Bool) : Decidable (LeftDown values) :=
  inferInstanceAs (Decidable (_ = _))

section Reports

@[simp] theorem passedOn_nil : passedOn [] = [] := rfl

theorem passedOn_cons_of_passes {report : Report} (passes : report.passes = true) (reports : List Report) :
    passedOn (report :: reports) = report.down :: passedOn reports := by
  simp [passedOn, passes]

theorem passedOn_cons_of_kept {report : Report} (kept : report.passes = false) (reports : List Report) :
    passedOn (report :: reports) = passedOn reports := by
  simp [passedOn, kept]

/-- A press and its release begin. -/
theorem passedOn_pair {press release : Report} (down : press.down = true) (up : release.down = false)
    (same : press.passes = release.passes) (reports : List Report) :
    passedOn (press :: release :: reports) =
      (if press.passes then [true, false] else []) ++ passedOn reports := by
  cases passes : press.passes with
  | true =>
      rw [passedOn_cons_of_passes passes, passedOn_cons_of_passes (same ▸ passes), down, up]
      rfl
  | false =>
      rw [passedOn_cons_of_kept passes, passedOn_cons_of_kept (same ▸ passes)]
      rfl

/-- What is passed on comes in turn, and does not leave the control down when it is up. -/
structure InTurn (reports : List Report) : Prop where
  alternates : Alternates true (passedOn reports)
  released : ∀ before behind, reports = before ++ behind → before.getLast?.map Report.down = some false →
    ¬ LeftDown (passedOn before)

theorem inTurn_nil : InTurn [] where
  alternates := trivial
  released before behind split up := by
    obtain ⟨rfl, rfl⟩ := List.append_eq_nil_iff.mp split.symm
    cases up

theorem inTurn_single {press : Report} (down : press.down = true) : InTurn [press] where
  alternates := by
    cases passes : press.passes with
    | true =>
        rw [passedOn_cons_of_passes passes, down]
        exact ⟨rfl, trivial⟩
    | false =>
        rw [passedOn_cons_of_kept passes]
        trivial
  released before behind split up := by
    cases before with
    | nil => cases up
    | cons first before =>
        obtain ⟨rfl, others⟩ := List.cons_eq_cons.mp split
        obtain ⟨rfl, rfl⟩ := List.append_eq_nil_iff.mp others.symm
        simp [down] at up

/-- A press and its release, both passed on or both kept, change nothing for what is behind. -/
theorem inTurn_pair {press release : Report} (down : press.down = true) (up : release.down = false)
    (rest : List Report) :
    InTurn (press :: release :: rest) ↔ press.passes = release.passes ∧ InTurn rest := by
  constructor
  · intro turn
    have same : press.passes = release.passes := by
      cases pressed : press.passes <;> cases released : release.passes
      · rfl
      · have alternates := turn.alternates
        rw [passedOn_cons_of_kept pressed, passedOn_cons_of_passes released, up] at alternates
        exact alternates.1
      · have left := turn.released [press, release] rest rfl (by simp [up])
        rw [passedOn_cons_of_passes pressed, passedOn_cons_of_kept released, down] at left
        exact absurd rfl left
      · rfl
    refine ⟨same, ?_, ?_⟩
    · have alternates := turn.alternates
      rw [passedOn_pair down up same] at alternates
      cases passes : press.passes with
      | true =>
          rw [passes] at alternates
          exact alternates.2.2
      | false =>
          rw [passes] at alternates
          exact alternates
    · intro before behind split released left
      refine turn.released (press :: release :: before) behind (by rw [split]; rfl) ?_ ?_
      · cases before with
        | nil => cases released
        | cons first before => simpa using released
      · rw [passedOn_pair down up same, LeftDown, List.getLast?_append, left]
        rfl
  · intro both
    obtain ⟨same, turn⟩ := both
    refine ⟨?_, ?_⟩
    · rw [passedOn_pair down up same]
      cases press.passes with
      | true => exact ⟨rfl, rfl, turn.alternates⟩
      | false => exact turn.alternates
    · intro before behind split released left
      match before, split, released, left with
      | [first], split, released, left =>
          cases split
          simp [down] at released
      | first :: second :: before, split, released, left =>
          cases split
          rw [passedOn_pair down up same, LeftDown, List.getLast?_append] at left
          have kept : ¬ LeftDown (passedOn before) := by
            cases before with
            | nil => simp [LeftDown]
            | cons first before => exact turn.released _ behind rfl (by simpa using released)
          cases last : (passedOn before).getLast? with
          | none =>
              rw [last] at left
              cases passes : press.passes <;> simp [passes] at left
          | some value =>
              rw [last] at left
              exact kept (last.trans left)

theorem inTurn_iff_paired : ∀ {reports : List Report}, Alternates true (reports.map Report.down) →
    (InTurn reports ↔ Paired reports)
  | [], _ => iff_of_true inTurn_nil trivial
  | [_], physical => iff_of_true (inTurn_single physical.1) trivial
  | _ :: _ :: rest, physical => by
      rw [inTurn_pair physical.1 physical.2.1, inTurn_iff_paired physical.2.2]
      rfl

end Reports

/-! ## Runs -/

section Runs

variable {μ : Type} {report : μ → Option Report} {sent : μ → List Bool} {run : List μ}

/-- What is sent in a run comes in turn, a press first. Whenever the last report is a release, what
was sent last is none of a press. -/
structure Balanced (report : μ → Option Report) (sent : μ → List Bool) (run : List μ) : Prop where
  alternates : Alternates true (run.flatMap sent)
  released : ∀ before, before <+: run → (before.filterMap report).getLast?.map Report.down = some false →
    ¬ LeftDown (before.flatMap sent)

theorem flatMap_sent (faithful : ∀ moment ∈ run, sent moment = passedOn (report moment).toList) :
    run.flatMap sent = passedOn (run.filterMap report) := by
  induction run with
  | nil => rfl
  | cons moment run ih =>
      have here := faithful moment List.mem_cons_self
      rw [List.flatMap_cons, here, ih fun other behind => faithful other (List.mem_cons_of_mem moment behind)]
      cases reported : report moment with
      | none => rw [List.filterMap_cons_none reported]; rfl
      | some entry =>
          rw [List.filterMap_cons_some reported]
          simp only [Option.toList_some, passedOn, List.filter_cons]
          split <;> simp

/-- A run that sends what is passed on is balanced where the presses are paired with the releases. -/
theorem balanced_iff_paired (faithful : ∀ moment ∈ run, sent moment = passedOn (report moment).toList)
    (physical : Alternates true ((run.filterMap report).map Report.down)) :
    Balanced report sent run ↔ Paired (run.filterMap report) := by
  have sends (before : List μ) (begins : before <+: run) :
      before.flatMap sent = passedOn (before.filterMap report) :=
    flatMap_sent fun moment early => faithful moment (begins.subset early)
  rw [← inTurn_iff_paired physical]
  constructor
  · intro balanced
    refine ⟨sends run (List.prefix_refl run) ▸ balanced.alternates, ?_⟩
    intro before behind split up
    obtain ⟨early, late, rfl, rfl, rfl⟩ := List.filterMap_eq_append_iff.mp split
    have begins : early <+: early ++ late := List.prefix_append early late
    rw [← sends early begins]
    exact balanced.released early begins up
  · intro turn
    refine ⟨(sends run (List.prefix_refl run)).symm ▸ turn.alternates, ?_⟩
    intro before begins up
    rw [sends before begins]
    obtain ⟨behind, rfl⟩ := begins
    exact turn.released _ _ List.filterMap_append up

end Runs

end Library
