import Mathlib.Data.List.Basic

/-!
# Framed streams

Messages are cut off the front of a growing buffer. What is cut off a stream does
not depend on the pieces in which the stream arrives.
-/

set_option autoImplicit false

namespace Library

inductive Front (β μ ε : Type) where
  | incomplete
  | item (message : μ) (rest : List β)
  | malformed (error : ε)

/-- A decoder that takes something with every message, and whose verdicts no
further input changes. -/
structure Framing (β μ ε : Type) where
  front : List β → Front β μ ε
  item_shorter : ∀ {buf message rest}, front buf = .item message rest → rest.length < buf.length
  item_append : ∀ {buf message rest}, front buf = .item message rest →
    ∀ more, front (buf ++ more) = .item message (rest ++ more)
  malformed_append : ∀ {buf error}, front buf = .malformed error →
    ∀ more, front (buf ++ more) = .malformed error

/-- The messages cut off a buffer, the error that ended it, and what is left. -/
structure Drained (β μ ε : Type) where
  messages : List μ
  error : Option ε
  left : List β
deriving DecidableEq

namespace Drained

variable {β μ ε : Type}

def cons (message : μ) (tail : Drained β μ ε) : Drained β μ ε :=
  { tail with messages := message :: tail.messages }

def after (messages : List μ) (tail : Drained β μ ε) : Drained β μ ε :=
  { tail with messages := messages ++ tail.messages }

end Drained

namespace Framing

variable {β μ ε : Type} (framing : Framing β μ ε)

/-- Cut off messages until the front is incomplete or malformed. -/
def drain (buf : List β) : Drained β μ ε :=
  match _found : framing.front buf with
  | .incomplete => ⟨[], none, buf⟩
  | .malformed error => ⟨[], some error, buf⟩
  | .item message rest => (drain rest).cons message
termination_by buf.length
decreasing_by exact framing.item_shorter _found

variable {framing}

theorem drain_incomplete {buf : List β} (found : framing.front buf = .incomplete) :
    framing.drain buf = ⟨[], none, buf⟩ := by
  rw [drain]
  split <;> simp_all

theorem drain_malformed {buf : List β} {error : ε} (found : framing.front buf = .malformed error) :
    framing.drain buf = ⟨[], some error, buf⟩ := by
  rw [drain]
  split <;> simp_all

theorem drain_item {buf rest : List β} {message : μ} (found : framing.front buf = .item message rest) :
    framing.drain buf = (framing.drain rest).cons message := by
  rw [drain]
  split <;> simp_all

theorem forall_mem_drain {good : μ → Prop}
    (each : ∀ buf message rest, framing.front buf = .item message rest → good message)
    (buf : List β) : ∀ message ∈ (framing.drain buf).messages, good message := by
  induction buf using Framing.drain.induct framing with
  | case1 buf found =>
      rw [drain_incomplete found]
      exact nofun
  | case2 buf error found =>
      rw [drain_malformed found]
      exact nofun
  | case3 buf message rest found ih =>
      rw [drain_item found]
      exact List.forall_mem_cons.mpr ⟨each buf message rest found, ih⟩

/-- Draining a buffer and going on with more input is draining both at once. -/
theorem drain_append (buf more : List β) :
    framing.drain (buf ++ more) =
      match (framing.drain buf).error with
      | some error => ⟨(framing.drain buf).messages, some error, (framing.drain buf).left ++ more⟩
      | none => (framing.drain ((framing.drain buf).left ++ more)).after
          (framing.drain buf).messages := by
  induction buf using Framing.drain.induct framing with
  | case1 buf found =>
      rw [drain_incomplete found]
      rfl
  | case2 buf error found =>
      rw [drain_malformed found, drain_malformed (framing.malformed_append found more)]
  | case3 buf message rest found ih =>
      rw [drain_item found, drain_item (framing.item_append found more), ih]
      cases ended : (framing.drain rest).error with
      | some error => simp only [Drained.cons, ended]
      | none => simp only [Drained.cons, Drained.after, ended, List.cons_append]

/-- What is left tells why the drain ended. -/
theorem front_left (buf : List β) :
    framing.front (framing.drain buf).left =
      match (framing.drain buf).error with
      | some error => .malformed error
      | none => .incomplete := by
  induction buf using Framing.drain.induct framing with
  | case1 buf found =>
      rw [drain_incomplete found]
      exact found
  | case2 buf error found =>
      rw [drain_malformed found]
      exact found
  | case3 buf message rest found ih =>
      rw [drain_item found]
      exact ih

/-- A drain that throws away what it found goes on as one that has not stopped. -/
theorem left_drain_left (buf more : List β) :
    (framing.drain ((framing.drain buf).left ++ more)).left = (framing.drain (buf ++ more)).left := by
  have ended : framing.front (framing.drain buf).left = _ := front_left buf
  rw [drain_append buf more]
  cases found : (framing.drain buf).error with
  | some error =>
      rw [found] at ended
      rw [drain_malformed (framing.malformed_append ended more)]
  | none => rfl

/-- A prefix of a stream of whole frames leaves the frames that the rest completes. -/
theorem drain_prefix {buf more : List β} {messages : List μ}
    (clean : framing.drain (buf ++ more) = ⟨messages, none, []⟩) :
    (framing.drain buf).error = none ∧ ∃ later, messages = (framing.drain buf).messages ++ later ∧
      framing.drain ((framing.drain buf).left ++ more) = ⟨later, none, []⟩ := by
  rw [drain_append buf more] at clean
  cases found : (framing.drain buf).error with
  | some error =>
      rw [found] at clean
      cases clean
  | none =>
      rw [found] at clean
      refine ⟨rfl, (framing.drain ((framing.drain buf).left ++ more)).messages, ?_, ?_⟩
      · exact (congrArg Drained.messages clean).symm
      · obtain ⟨_, error, left⟩ := Drained.mk.inj clean
        cases rest : framing.drain ((framing.drain buf).left ++ more) with
        | mk later ended last =>
            rw [rest] at error left
            simp only at error left
            rw [error, left]

theorem drain_drain_left {buf : List β} (clean : (framing.drain buf).error = none) :
    (framing.drain (framing.drain buf).left).messages = [] := by
  have ended : framing.front (framing.drain buf).left = _ := front_left buf
  rw [clean] at ended
  rw [drain_incomplete ended]

/-- A frame of one message, whatever follows it. -/
def IsFrame (framing : Framing β μ ε) (frame : List β) (message : μ) : Prop :=
  ∀ more, framing.front (frame ++ more) = .item message more

theorem isFrame_of_front {frame : List β} {message : μ}
    (whole : framing.front frame = .item message []) : framing.IsFrame frame message := by
  intro more
  have extended := framing.item_append whole more
  rwa [List.nil_append] at extended

/-- A frame more is a message more. -/
theorem IsFrame.drain_snoc {stream frame : List β} {messages : List μ} {message : μ}
    (isFrame : framing.IsFrame frame message) (nothing : framing.front [] = .incomplete)
    (clean : framing.drain stream = ⟨messages, none, []⟩) :
    framing.drain (stream ++ frame) = ⟨messages ++ [message], none, []⟩ := by
  have whole := isFrame []
  rw [List.append_nil] at whole
  rw [drain_append, clean]
  simp only [List.nil_append]
  rw [drain_item whole, drain_incomplete nothing]
  rfl

/-- Behind the front message of a stream come the others. -/
theorem drain_behind {buf rest more : List β} {message : μ} {messages : List μ}
    (found : framing.front buf = .item message rest)
    (clean : framing.drain (buf ++ more) = ⟨messages, none, []⟩) :
    ∃ others, messages = message :: others ∧ framing.drain (rest ++ more) = ⟨others, none, []⟩ := by
  rw [drain_item (framing.item_append found more)] at clean
  cases drained : framing.drain (rest ++ more) with
  | mk others error left =>
      rw [drained] at clean
      cases clean
      exact ⟨others, rfl, rfl⟩

/-- No part of a stream without errors is an error. -/
theorem front_ne_malformed {buf more : List β} {messages : List μ}
    (clean : framing.drain (buf ++ more) = ⟨messages, none, []⟩) (error : ε) :
    framing.front buf ≠ .malformed error := by
  intro found
  rw [drain_malformed (framing.malformed_append found more)] at clean
  cases clean

/-- No strict part of a frame is a message or an error. -/
theorem IsFrame.incomplete {frame : List β} {message : μ} (isFrame : framing.IsFrame frame message)
    {count : Nat} (strict : count < frame.length) :
    framing.front (frame.take count) = .incomplete := by
  have whole := isFrame []
  rw [List.append_nil] at whole
  cases found : framing.front (frame.take count) with
  | incomplete => rfl
  | malformed error =>
      have persists := framing.malformed_append found (frame.drop count)
      rw [List.take_append_drop, whole] at persists
      cases persists
  | item early rest =>
      have persists := framing.item_append found (frame.drop count)
      rw [List.take_append_drop, whole] at persists
      injection persists with _ nothing
      have remaining := congrArg List.length nothing
      rw [List.length_append, List.length_drop, List.length_nil] at remaining
      omega

theorem drain_frames {frames : List (List β × μ)}
    (each : ∀ frame ∈ frames, framing.IsFrame frame.1 frame.2) (rest : List β) :
    framing.drain ((frames.map Prod.fst).flatten ++ rest) =
      (framing.drain rest).after (frames.map Prod.snd) := by
  induction frames with
  | nil => rfl
  | cons frame frames ih =>
      have isFrame := each frame List.mem_cons_self
      have others := ih fun other member => each other (List.mem_cons_of_mem _ member)
      rw [List.map_cons, List.flatten_cons, List.append_assoc, drain_item (isFrame _), others]
      rfl

/-! ## Drains that keep their input on errors -/

section Keeping

variable (framing)

/-- What a drain leaves behind if an error makes it keep its whole input. -/
def kept (buf : List β) : List β :=
  if (framing.drain buf).error.isSome then buf else (framing.drain buf).left

/-- The messages that drains find, each after more input, if errors make them keep it. -/
def keepingDrains : List β → List (List β) → List μ
  | _, [] => []
  | buf, chunk :: chunks =>
      (framing.drain (buf ++ chunk)).messages ++
        keepingDrains (framing.kept (buf ++ chunk)) chunks

def keptAfter (buf : List β) (chunks : List (List β)) : List β :=
  chunks.foldl (fun buf chunk => framing.kept (buf ++ chunk)) buf

/-- The first drain that meets the error, after the input `stream`, finds no message
before it, unless it is the last drain. -/
def ErrorAlone (stream : List β) (chunks : List (List β)) : Prop :=
  ∀ earlier chunk later, chunks = earlier ++ chunk :: later → later ≠ [] →
    (framing.drain (stream ++ earlier.flatten)).error = none →
    (framing.drain (stream ++ earlier.flatten ++ chunk)).error.isSome →
    (framing.drain (stream ++ earlier.flatten ++ chunk)).messages =
      (framing.drain (stream ++ earlier.flatten)).messages

variable {framing}

theorem drain_append_error {buf : List β} {error : ε} (found : (framing.drain buf).error = some error)
    (more : List β) :
    (framing.drain (buf ++ more)).error = some error ∧
      (framing.drain (buf ++ more)).messages = (framing.drain buf).messages := by
  rw [drain_append, found]
  exact ⟨rfl, rfl⟩

theorem keepingDrains_snoc (buf : List β) (chunks : List (List β)) (chunk : List β) :
    framing.keepingDrains buf (chunks ++ [chunk]) = framing.keepingDrains buf chunks ++
      (framing.drain (framing.keptAfter buf chunks ++ chunk)).messages := by
  induction chunks generalizing buf with
  | nil => exact List.append_nil _
  | cons first chunks ih =>
      rw [List.cons_append, keepingDrains, keepingDrains, ih, List.append_assoc]
      rfl

theorem keepingDrains_error {buf : List β} (failed : (framing.drain buf).error.isSome)
    (chunks : List (List β)) :
    framing.keepingDrains buf chunks =
      (List.replicate chunks.length (framing.drain buf).messages).flatten := by
  obtain ⟨error, found⟩ := Option.isSome_iff_exists.mp failed
  induction chunks generalizing buf with
  | nil => rfl
  | cons chunk chunks ih =>
      obtain ⟨again, same⟩ := drain_append_error found chunk
      have isSome : (framing.drain (buf ++ chunk)).error.isSome := by rw [again]; rfl
      rw [keepingDrains, kept, if_pos isSome, ih isSome again, same, List.length_cons,
        List.replicate_succ, List.flatten_cons]

private theorem errorAlone_cons_clean {stream chunk : List β} {chunks : List (List β)}
    (clean : (framing.drain (stream ++ chunk)).error = none) :
    framing.ErrorAlone stream (chunk :: chunks) ↔ framing.ErrorAlone (stream ++ chunk) chunks := by
  have joined (earlier : List (List β)) :
      stream ++ (chunk :: earlier).flatten = stream ++ chunk ++ earlier.flatten := by
    rw [List.flatten_cons, List.append_assoc]
  constructor
  · intro alone earlier next later split
    have behind := alone (chunk :: earlier) next later (by rw [split]; rfl)
    rwa [joined] at behind
  · intro alone earlier next later split
    cases earlier with
    | nil =>
        obtain ⟨rfl, _⟩ := List.cons.inj split
        intro _ _ failed
        rw [List.flatten_nil, List.append_nil, clean] at failed
        cases failed
    | cons first earlier =>
        obtain ⟨rfl, rest⟩ := List.cons.inj split
        rw [joined]
        exact alone earlier next later rest

private theorem errorAlone_cons_error {stream chunk : List β} {chunks : List (List β)} {error : ε}
    (clean : (framing.drain stream).error = none)
    (failed : (framing.drain (stream ++ chunk)).error = some error) :
    framing.ErrorAlone stream (chunk :: chunks) ↔
      (chunks ≠ [] → (framing.drain (stream ++ chunk)).messages = (framing.drain stream).messages) := by
  constructor
  · intro alone more
    have here := alone [] chunk chunks rfl more
    rw [List.flatten_nil, List.append_nil, failed] at here
    exact here clean rfl
  · intro alone earlier next later split more before
    cases earlier with
    | nil =>
        obtain ⟨rfl, rfl⟩ := List.cons.inj split
        rw [List.flatten_nil, List.append_nil]
        exact fun _ => alone more
    | cons first earlier =>
        obtain ⟨rfl, rest⟩ := List.cons.inj split
        have persists := (drain_append_error failed earlier.flatten).1
        rw [List.flatten_cons, ← List.append_assoc, persists] at before
        cases before

private theorem flatten_replicate_eq_nil {count : Nat} {messages : List μ} :
    (List.replicate count messages).flatten = [] ↔ count = 0 ∨ messages = [] := by
  rw [List.flatten_eq_nil_iff]
  constructor
  · intro empty
    rcases Nat.eq_zero_or_pos count with none | some
    · exact .inl none
    · exact .inr (empty messages (List.mem_replicate.mpr ⟨Nat.ne_of_gt some, rfl⟩))
  · rintro (rfl | rfl) part member
    · cases member
    · exact (List.mem_replicate.mp member).2

/-- The drains find every message once if and only if the error comes alone. -/
theorem keepingDrains_once_iff {stream : List β} (clean : (framing.drain stream).error = none)
    (chunks : List (List β)) :
    (framing.drain stream).messages ++
        framing.keepingDrains (framing.drain stream).left chunks =
      (framing.drain (stream ++ chunks.flatten)).messages ↔ framing.ErrorAlone stream chunks := by
  induction chunks generalizing stream with
  | nil =>
      simp only [keepingDrains, List.flatten_nil, List.append_nil, true_iff]
      intro earlier chunk later split
      cases earlier <;> cases split
  | cons chunk chunks ih =>
      have extended : framing.drain (stream ++ chunk) =
          (framing.drain ((framing.drain stream).left ++ chunk)).after
            (framing.drain stream).messages := by rw [drain_append, clean]
      have error_eq : (framing.drain (stream ++ chunk)).error =
          (framing.drain ((framing.drain stream).left ++ chunk)).error := by rw [extended]; rfl
      have messages_eq : (framing.drain (stream ++ chunk)).messages = (framing.drain stream).messages ++
          (framing.drain ((framing.drain stream).left ++ chunk)).messages := by rw [extended]; rfl
      have left_eq : (framing.drain (stream ++ chunk)).left =
          (framing.drain ((framing.drain stream).left ++ chunk)).left := by rw [extended]; rfl
      rw [keepingDrains, ← List.append_assoc, ← messages_eq, kept, ← error_eq, ← left_eq,
        List.flatten_cons, ← List.append_assoc]
      cases found : (framing.drain (stream ++ chunk)).error with
      | none =>
          rw [if_neg (by simp)]
          exact (ih found).trans (errorAlone_cons_clean found).symm
      | some error =>
          have again : (framing.drain ((framing.drain stream).left ++ chunk)).error.isSome := by
            rw [← error_eq, found]
            rfl
          rw [if_pos Option.isSome_some, keepingDrains_error again,
            (drain_append_error found chunks.flatten).2, List.append_right_eq_self,
            flatten_replicate_eq_nil, errorAlone_cons_error clean found, messages_eq,
            List.append_right_eq_self, List.length_eq_zero_iff]
          exact or_iff_not_imp_left

end Keeping

end Framing

end Library
