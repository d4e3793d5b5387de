import Mathlib.Data.List.Induction
import Mathlib.Data.Set.Insert
import Mathlib.Data.Set.Basic

/-!
# Mirrored selections

A host keeps a set of keys and selects one of them. A client mirrors both: it changes its
copy at once, asks the host for the change, and learns from the host over two channels.
The set always converges. The selection does if no answer overtakes a later one.
-/

set_option autoImplicit false

namespace Library

variable {κ : Type}

inductive Ask (κ : Type) where
  | create (key : κ)
  | close (key : κ)
  | select (key : κ)
deriving DecidableEq

inductive Tell (κ : Type) where
  | created (key : κ)
  | closed (key : κ)
  | selected (key : κ)
deriving DecidableEq

/-- `live` and `held` are the host's, `ids` and `shown` the client's. What is asked and told
is on its way in order, on the channel of the replies and on the bus. -/
structure Mirror (κ : Type) where
  live : Set κ
  held : κ
  ids : Set κ
  shown : κ
  asks : List (Ask κ)
  replies : List (Tell κ)
  bus : List (Tell κ)

def Ask.key : Ask κ → κ
  | .create key => key
  | .close key => key
  | .select key => key

def Tell.key : Tell κ → κ
  | .created key => key
  | .closed key => key
  | .selected key => key

/-- The key that an ask selects. -/
def Ask.selects : Ask κ → Option κ
  | .create key => some key
  | .close _ => none
  | .select key => some key

namespace Mirror

/-- The client has the key, or shows it. -/
def Knows (m : Mirror κ) (key : κ) : Prop := key ∈ m.ids ∨ key = m.shown

/-- The key selected last, once the host has handled everything. -/
def target (m : Mirror κ) : κ := (m.asks.filterMap Ask.selects).getLast?.getD m.held

/-- The client is still going to hear of the selection made last. -/
def Confirmed (m : Mirror κ) : Prop :=
  .selected m.target ∈ m.bus ∨ .selected m.target ∈ m.replies ∨
    m.target ∈ m.asks.filterMap Ask.selects

def Settled (m : Mirror κ) : Prop := m.asks = [] ∧ m.replies = [] ∧ m.bus = []

end Mirror

/-! ## Moves -/

/-- What the client does to its copy with what it asks. -/
inductive Acted (m : Mirror κ) : List (Ask κ) → Set κ → κ → Prop where
  | created {key ids} : key ∈ ids → (∀ other, other ≠ key → (other ∈ ids ↔ other ∈ m.ids)) →
      Acted m [.create key] ids key
  | closed {key ids} : m.Knows key → (∀ other ∈ ids, other ∈ m.ids) →
      (∀ other, other ≠ key → (other ∈ ids ↔ other ∈ m.ids)) → Acted m [.close key] ids m.shown
  | replaced {key next ids} : m.Knows key → next ∈ m.ids → (∀ other ∈ ids, other ∈ m.ids) →
      (∀ other, other ≠ key → (other ∈ ids ↔ other ∈ m.ids)) →
      Acted m [.close key, .select next] ids next
  | selected {key} : key ∈ m.ids → Acted m [.select key] m.ids key

/-- What the host does with an ask, what it tells over the bus, and its reply. -/
inductive Handled (m : Mirror κ) : Ask κ → Set κ → κ → List (Tell κ) → Tell κ → Prop where
  | create {key} : Handled m (.create key) (insert key m.live) key [.selected key] (.created key)
  | close {key} : Handled m (.close key) (m.live \ {key}) m.held [] (.closed key)
  | select {key told} : (∀ t ∈ told, t = .selected key) →
      Handled m (.select key) m.live key told (.selected key)

/-- What the client does to its copy when it is told. -/
inductive Learned (m : Mirror κ) : Tell κ → Set κ → κ → Prop where
  | created {key ids} : key ∈ ids → (∀ other, other ≠ key → (other ∈ ids ↔ other ∈ m.ids)) →
      Learned m (.created key) ids m.shown
  | closed {key ids shown} : key ∉ ids → (∀ other, other ≠ key → (other ∈ ids ↔ other ∈ m.ids)) →
      (m.shown ≠ key → shown = m.shown) → m.Knows shown → Learned m (.closed key) ids shown
  | selected {key} : Learned m (.selected key) m.ids key

inductive Turn (κ : Type) where
  | act (asks : List (Ask κ))
  | handle
  | reply
  | bus

inductive Move (m : Mirror κ) : Turn κ → Mirror κ → Prop where
  | act {asks ids shown} : Acted m asks ids shown →
      Move m (.act asks) { m with ids, shown, asks := m.asks ++ asks }
  | handle {a rest live held told reply} : m.asks = a :: rest → Handled m a live held told reply →
      Move m .handle
        { m with live, held, asks := rest, bus := m.bus ++ told, replies := m.replies ++ [reply] }
  | reply {t rest ids shown} : m.replies = t :: rest → Learned m t ids shown →
      Move m .reply { m with ids, shown, replies := rest }
  | bus {t rest ids shown} : m.bus = t :: rest → Learned m t ids shown →
      Move m .bus { m with ids, shown, bus := rest }

/-! ## Known keys -/

/-- Every key that the client has or may still hear of is known. -/
structure Mirror.Within (known : κ → Prop) (m : Mirror κ) : Prop where
  ids : ∀ key ∈ m.ids, known key
  shown : known m.shown
  asks : ∀ a ∈ m.asks, known a.key
  replies : ∀ t ∈ m.replies, known t.key
  bus : ∀ t ∈ m.bus, known t.key

section Within

variable {known : κ → Prop} {m next : Mirror κ}

theorem Mirror.Within.mono {more : κ → Prop} (within : m.Within known)
    (grown : ∀ key, known key → more key) : m.Within more where
  ids := fun key member => grown key (within.ids key member)
  shown := grown m.shown within.shown
  asks := fun a member => grown a.key (within.asks a member)
  replies := fun t member => grown t.key (within.replies t member)
  bus := fun t member => grown t.key (within.bus t member)

theorem Mirror.Within.of_knows {key : κ} (within : m.Within known) (knows : m.Knows key) :
    known key := by
  rcases knows with member | rfl
  · exact within.ids key member
  · exact within.shown

/-- What is not known is not being closed either. -/
theorem Mirror.Within.not_closing {key : κ} (within : m.Within known) (unknown : ¬ known key) :
    .closed key ∉ m.replies ∧ .close key ∉ m.asks :=
  ⟨fun member => unknown (within.replies _ member), fun member => unknown (within.asks _ member)⟩

theorem Acted.within {asks : List (Ask κ)} {ids : Set κ} {shown : κ} (acted : Acted m asks ids shown)
    (within : m.Within known) (created : ∀ key, .create key ∈ asks → known key) :
    (∀ key ∈ ids, known key) ∧ known shown ∧ ∀ a ∈ asks, known a.key := by
  cases acted with
  | created added others =>
      have new := created shown List.mem_cons_self
      refine ⟨fun key member => ?_, new, fun a member => ?_⟩
      · by_cases same : key = shown
        · exact same ▸ new
        · exact within.ids key ((others key same).mp member)
      · cases List.mem_singleton.mp member
        exact new
  | closed knows kept others =>
      refine ⟨fun key member => within.ids key (kept key member), within.shown, fun a member => ?_⟩
      cases List.mem_singleton.mp member
      exact within.of_knows knows
  | replaced knows listed kept others =>
      refine ⟨fun key member => within.ids key (kept key member), within.ids _ listed, ?_⟩
      intro a member
      rcases List.mem_cons.mp member with rfl | later
      · exact within.of_knows knows
      · cases List.mem_singleton.mp later
        exact within.ids _ listed
  | selected listed =>
      refine ⟨within.ids, within.ids _ listed, fun a member => ?_⟩
      cases List.mem_singleton.mp member
      exact within.ids _ listed

theorem Handled.within {a : Ask κ} {live : Set κ} {held : κ} {told : List (Tell κ)} {reply : Tell κ}
    (handled : Handled m a live held told reply) (asked : known a.key) :
    (∀ t ∈ told, known t.key) ∧ known reply.key := by
  cases handled with
  | create =>
      refine ⟨fun t member => ?_, asked⟩
      cases List.mem_singleton.mp member
      exact asked
  | close => exact ⟨fun t member => absurd member List.not_mem_nil, asked⟩
  | select all =>
      refine ⟨fun t member => ?_, asked⟩
      rw [all t member]
      exact asked

theorem Learned.within {t : Tell κ} {ids : Set κ} {shown : κ} (learned : Learned m t ids shown)
    (within : m.Within known) (told : known t.key) : (∀ key ∈ ids, known key) ∧ known shown := by
  cases learned with
  | @created made ids added others =>
      refine ⟨fun key member => ?_, within.shown⟩
      by_cases same : key = made
      · exact same ▸ told
      · exact within.ids key ((others key same).mp member)
  | @closed gone ids shown missing others same knows =>
      refine ⟨fun key member => ?_, within.of_knows knows⟩
      have differs : key ≠ gone := fun same => missing (same ▸ member)
      exact within.ids key ((others key differs).mp member)
  | selected => exact ⟨within.ids, told⟩

theorem Mirror.Within.move {turn : Turn κ} (within : m.Within known)
    (created : ∀ asks, turn = .act asks → ∀ key, .create key ∈ asks → known key)
    (moved : Move m turn next) : next.Within known := by
  cases moved with
  | act acted =>
      obtain ⟨ids, shown, asks⟩ := acted.within within (created _ rfl)
      exact ⟨ids, shown, List.forall_mem_append.mpr ⟨within.asks, asks⟩, within.replies, within.bus⟩
  | handle first handled =>
      have asks := within.asks
      rw [first] at asks
      obtain ⟨asked, rest⟩ := List.forall_mem_cons.mp asks
      obtain ⟨told, replied⟩ := handled.within asked
      refine ⟨within.ids, within.shown, rest, ?_, List.forall_mem_append.mpr ⟨within.bus, told⟩⟩
      exact List.forall_mem_append.mpr ⟨within.replies, by simpa using replied⟩
  | reply first learned =>
      have replies := within.replies
      rw [first] at replies
      obtain ⟨told, rest⟩ := List.forall_mem_cons.mp replies
      obtain ⟨ids, shown⟩ := learned.within within told
      exact ⟨ids, shown, within.asks, rest, within.bus⟩
  | bus first learned =>
      have bus := within.bus
      rw [first] at bus
      obtain ⟨told, rest⟩ := List.forall_mem_cons.mp bus
      obtain ⟨ids, shown⟩ := learned.within within told
      exact ⟨ids, shown, within.asks, within.replies, rest⟩

end Within

/-! ## The set -/

/-- Whether a key is there after what was asked or told about it. -/
def final (start : Prop) (marks : List Bool) : Prop :=
  match marks.getLast? with
  | some present => present
  | none => start

theorem final_append_singleton (start : Prop) (marks : List Bool) (present : Bool) :
    final start (marks ++ [present]) ↔ present := by
  rw [final, List.getLast?_append, List.getLast?_singleton]
  rfl

theorem final_cons (start : Prop) (present : Bool) (marks : List Bool) :
    final start (present :: marks) ↔ final present marks := by
  cases marks with
  | nil => rfl
  | cons next marks =>
      unfold final
      rw [List.getLast?_cons_cons]
      cases found : (next :: marks).getLast? with
      | none => simp at found
      | some last => rfl

theorem final_congr {start other : Prop} (same : start ↔ other) (marks : List Bool) :
    final start marks ↔ final other marks := by
  unfold final
  cases marks.getLast? with
  | none => exact same
  | some present => rfl

theorem final_append (start : Prop) (marks more : List Bool) :
    final start (marks ++ more) ↔ final (final start marks) more := by
  unfold final
  rw [List.getLast?_append]
  cases more.getLast? <;> rfl

/-- Something has marked the key present and nothing behind has marked it absent, or it has
been there from the start. -/
theorem final_filterMap_iff {ε : Type} (mark : ε → Option Bool) (start : Prop) (events : List ε) :
    final start (events.filterMap mark) ↔
      (∃ event after, mark event = some true ∧ event :: after <:+ events ∧
        ∀ later ∈ after, mark later ≠ some false) ∨
      (start ∧ ∀ event ∈ events, mark event ≠ some false) := by
  induction events using List.reverseRecOn with
  | nil => simp [final]
  | append_singleton events last ih =>
      rw [List.filterMap_append]
      simp only [List.suffix_concat_iff, List.forall_mem_append, List.forall_mem_singleton]
      cases marked : mark last with
      | none =>
          rw [List.filterMap_cons_none marked, List.filterMap_nil, List.append_nil, ih]
          refine or_congr ⟨?_, ?_⟩ (by simp)
          · rintro ⟨event, after, present, suffix, kept⟩
            refine ⟨event, after ++ [last], present, .inr ⟨event :: after, rfl, suffix⟩, ?_⟩
            simp only [List.forall_mem_append, List.forall_mem_singleton, marked]
            exact ⟨kept, (Option.some_ne_none false).symm⟩
          · rintro ⟨event, after, present, empty | ⟨front, split, suffix⟩, kept⟩
            · cases empty
            · cases front with
              | nil =>
                  cases split
                  rw [marked] at present
                  cases present
              | cons first front =>
                  cases split
                  exact ⟨event, front, present, suffix, (List.forall_mem_append.mp kept).1⟩
      | some present =>
          rw [List.filterMap_cons_some marked, List.filterMap_nil, final_append_singleton]
          cases present with
          | true =>
              refine iff_of_true rfl (.inl ⟨last, [], marked, .inr ⟨[], rfl, List.nil_suffix⟩, ?_⟩)
              exact List.forall_mem_nil _
          | false =>
              refine iff_of_false Bool.false_ne_true ?_
              rintro (⟨event, after, present, empty | ⟨front, split, suffix⟩, kept⟩ | ⟨_, _, kept⟩)
              · cases empty
              · cases front with
                | nil =>
                    cases split
                    rw [marked] at present
                    cases present
                | cons first front =>
                    cases split
                    exact (List.forall_mem_append.mp kept).2 last (List.mem_singleton_self last) marked
              · exact kept rfl

section Marks

variable [DecidableEq κ]

def Ask.mark (key : κ) : Ask κ → Option Bool
  | .create made => if made = key then some true else none
  | .close gone => if gone = key then some false else none
  | .select _ => none

def Tell.mark (key : κ) : Tell κ → Option Bool
  | .created made => if made = key then some true else none
  | .closed gone => if gone = key then some false else none
  | .selected _ => none

namespace Mirror

/-- What the host is going to do about the key, and what the client is going to hear of it. -/
def askMarks (m : Mirror κ) (key : κ) : List Bool := m.asks.filterMap (Ask.mark key)

def tellMarks (m : Mirror κ) (key : κ) : List Bool := m.replies.filterMap (Tell.mark key)

/-- The copy and the set come to the same once everything is handled and told, and the bus
tells of selections only. -/
structure Converging (m : Mirror κ) : Prop where
  same : ∀ key, final (key ∈ m.ids) (m.tellMarks key ++ m.askMarks key) ↔
    final (key ∈ m.live) (m.askMarks key)
  selections : ∀ t ∈ m.bus, ∃ key, t = .selected key

end Mirror

variable {m next : Mirror κ}

theorem Acted.mark_cases {asks : List (Ask κ)} {ids : Set κ} {shown : κ}
    (acted : Acted m asks ids shown) (key : κ) :
    (asks.filterMap (Ask.mark key) = [] ∧ (key ∈ ids ↔ key ∈ m.ids)) ∨
      ∃ present, asks.filterMap (Ask.mark key) = [present] := by
  cases acted with
  | created added others =>
      by_cases here : shown = key
      · exact .inr ⟨true, by simp [Ask.mark, here]⟩
      · exact .inl ⟨by simp [Ask.mark, here], others key (Ne.symm here)⟩
  | @closed gone ids known kept others =>
      by_cases here : gone = key
      · exact .inr ⟨false, by simp [Ask.mark, here]⟩
      · exact .inl ⟨by simp [Ask.mark, here], others key (Ne.symm here)⟩
  | @replaced gone chosen ids known listed kept others =>
      by_cases here : gone = key
      · exact .inr ⟨false, by simp [Ask.mark, here]⟩
      · exact .inl ⟨by simp [Ask.mark, here], others key (Ne.symm here)⟩
  | selected => exact .inl ⟨rfl, Iff.rfl⟩

theorem Handled.mark_cases {a : Ask κ} {live : Set κ} {held : κ} {told : List (Tell κ)}
    {reply : Tell κ} (handled : Handled m a live held told reply) (key : κ) :
    (Ask.mark key a = none ∧ Tell.mark key reply = none ∧ (key ∈ live ↔ key ∈ m.live)) ∨
      ∃ present : Bool, Ask.mark key a = some present ∧ Tell.mark key reply = some present ∧
        (key ∈ live ↔ present) := by
  cases handled with
  | create =>
      by_cases here : held = key
      · subst here
        exact .inr ⟨true, by simp [Ask.mark], by simp [Tell.mark], by simp⟩
      · refine .inl ⟨by simp [Ask.mark, here], by simp [Tell.mark, here], ?_⟩
        simp [Ne.symm here]
  | @close gone =>
      by_cases here : gone = key
      · subst here
        exact .inr ⟨false, by simp [Ask.mark], by simp [Tell.mark], by simp⟩
      · refine .inl ⟨by simp [Ask.mark, here], by simp [Tell.mark, here], ?_⟩
        simp [Ne.symm here]
  | select => exact .inl ⟨rfl, rfl, Iff.rfl⟩

theorem Learned.mark_cases {t : Tell κ} {ids : Set κ} {shown : κ} (learned : Learned m t ids shown)
    (key : κ) :
    (Tell.mark key t = none ∧ (key ∈ ids ↔ key ∈ m.ids)) ∨
      ∃ present : Bool, Tell.mark key t = some present ∧ (key ∈ ids ↔ present) := by
  cases learned with
  | @created made ids added others =>
      by_cases here : made = key
      · subst here
        exact .inr ⟨true, by simp [Tell.mark], by simpa using added⟩
      · exact .inl ⟨by simp [Tell.mark, here], others key (Ne.symm here)⟩
  | @closed gone ids shown missing others =>
      by_cases here : gone = key
      · subst here
        exact .inr ⟨false, by simp [Tell.mark], by simpa using missing⟩
      · exact .inl ⟨by simp [Tell.mark, here], others key (Ne.symm here)⟩
  | selected => exact .inl ⟨rfl, Iff.rfl⟩

namespace Mirror

theorem Converging.move {turn : Turn κ} (converging : m.Converging) (moved : Move m turn next) : next.Converging := by
  obtain ⟨same, selections⟩ := converging
  cases moved with
  | @act asks ids shown acted =>
      refine ⟨fun key => ?_, selections⟩
      have before := same key
      unfold tellMarks askMarks at before ⊢
      rw [List.filterMap_append, ← List.append_assoc]
      rcases acted.mark_cases key with ⟨unmarked, kept⟩ | ⟨present, marked⟩
      · rw [unmarked, List.append_nil, List.append_nil]
        exact (final_congr kept _).trans before
      · rw [marked, final_append_singleton, final_append_singleton]
  | @handle a rest live held told reply first handled =>
      constructor
      · intro key
        have before := same key
        unfold tellMarks askMarks at before ⊢
        rw [first, List.filterMap_cons] at before
        rw [List.filterMap_append, List.append_assoc]
        rcases handled.mark_cases key with ⟨unasked, untold, kept⟩ | ⟨present, asked, said, now⟩
        · rw [unasked] at before
          simp only [List.filterMap_cons, untold, List.filterMap_nil, List.nil_append]
          exact before.trans (final_congr kept.symm _)
        · rw [asked] at before
          simp only [List.filterMap_cons, said, List.filterMap_nil, List.singleton_append]
          exact before.trans ((final_cons _ _ _).trans (final_congr now.symm _))
      · intro t member
        rcases List.mem_append.mp member with old | new
        · exact selections t old
        · cases handled with
          | create => exact ⟨_, List.mem_singleton.mp new⟩
          | close => cases new
          | select all => exact ⟨_, all t new⟩
  | @reply t rest ids shown first learned =>
      refine ⟨fun key => ?_, selections⟩
      have before := same key
      unfold tellMarks askMarks at before ⊢
      rw [first, List.filterMap_cons] at before
      rcases learned.mark_cases key with ⟨untold, kept⟩ | ⟨present, said, now⟩
      · rw [untold] at before
        exact (final_congr kept _).trans before
      · rw [said] at before
        exact ((final_congr now _).trans (final_cons _ _ _).symm).trans before
  | @bus t rest ids shown first learned =>
      obtain ⟨key, rfl⟩ := selections t (first ▸ List.mem_cons_self)
      cases learned with
      | selected =>
          exact ⟨same, fun t member => selections t (first ▸ List.mem_cons_of_mem _ member)⟩

/-- Once everything is handled and told the copy is the set. -/
theorem Converging.settled (converging : m.Converging) (settled : m.Settled) : m.ids = m.live := by
  obtain ⟨noAsks, noReplies, _⟩ := settled
  ext key
  have same := converging.same key
  unfold tellMarks askMarks at same
  rw [noAsks, noReplies] at same
  exact same

end Mirror

end Marks

/-! ## The selection -/

/-- Every `first` in a list is followed by a `second`. -/
def Followed {α : Type} (first second : α) (items : List α) : Prop :=
  ∀ before after, items = before ++ first :: after → second ∈ after

namespace Followed

variable {α : Type} {first second item : α} {items : List α}

theorem of_not_mem (absent : first ∉ items) : Followed first second items := by
  rintro before after rfl
  exact absurd (List.mem_append_right before List.mem_cons_self) absent

theorem tail (followed : Followed first second (item :: items)) : Followed first second items := by
  rintro before after rfl
  exact followed (item :: before) after rfl

theorem head (followed : Followed first second (first :: items)) : second ∈ items :=
  followed [] items rfl

theorem append_second (items : List α) (differs : second ≠ first) :
    Followed first second (items ++ [second]) := by
  intro before after split
  rcases List.eq_nil_or_concat after with rfl | ⟨rest, last, rfl⟩
  · obtain ⟨_, same⟩ := List.append_inj' split rfl
    exact absurd (List.head_eq_of_cons_eq same) differs
  · rw [List.concat_eq_append] at split ⊢
    rw [← List.cons_append, ← List.append_assoc] at split
    obtain ⟨_, same⟩ := List.append_inj' split rfl
    rw [← same]
    exact List.mem_append_right _ List.mem_cons_self

theorem append_other (followed : Followed first second items) (differs : item ≠ first) :
    Followed first second (items ++ [item]) := by
  intro before after split
  rcases List.eq_nil_or_concat after with rfl | ⟨rest, last, rfl⟩
  · obtain ⟨_, same⟩ := List.append_inj' split rfl
    exact absurd (List.head_eq_of_cons_eq same) differs
  · rw [List.concat_eq_append] at split ⊢
    rw [← List.cons_append, ← List.append_assoc] at split
    obtain ⟨kept, _⟩ := List.append_inj' split rfl
    exact List.mem_append_left _ (followed before rest kept)

end Followed

namespace Mirror

variable {m next : Mirror κ}

/-- A key is not created while it is being closed, the key selected last is closed only along
with a new selection, and the client hears of a selection only while it is still going to
hear of the last one. -/
def Orderly (m : Mirror κ) : Turn κ → Prop
  | .act asks =>
      (∀ key, .create key ∈ asks → .closed key ∉ m.replies ∧ .close key ∉ m.asks) ∧
        ∀ key, asks = [.close key] → key ≠ m.target
  | .handle => True
  | .reply => ∀ key, m.replies.head? = some (.selected key) → m.Confirmed
  | .bus => ∀ key, m.bus.head? = some (.selected key) → m.Confirmed

/-- The client shows the key selected last, or is still going to hear of it; and whatever
closes that key on the way is followed by its selection. -/
structure Selecting (m : Mirror κ) : Prop where
  shown : m.shown = m.target ∨ m.Confirmed
  replied : .select m.target ∈ m.asks ∨ Followed (.closed m.target) (.selected m.target) m.replies
  asked : Followed (.close m.target) (.select m.target) m.asks

theorem target_append_select (m : Mirror κ) (ids : Set κ) (shown key : κ) (asks : List (Ask κ))
    (last : (asks.filterMap Ask.selects).getLast? = some key) :
    { m with ids, shown, asks := m.asks ++ asks }.target = key := by
  rw [target]
  change ((m.asks ++ asks).filterMap Ask.selects).getLast?.getD m.held = key
  rw [List.filterMap_append, List.getLast?_append, last]
  rfl

theorem Selecting.act {asks : List (Ask κ)} {ids : Set κ} {shown : κ} (selecting : m.Selecting)
    (orderly : m.Orderly (.act asks)) (acted : Acted m asks ids shown) :
    { m with ids, shown, asks := m.asks ++ asks }.Selecting := by
  obtain ⟨clear, apart⟩ := orderly
  cases acted with
  | created =>
      obtain ⟨unheard, unasked⟩ := clear shown List.mem_cons_self
      have target := m.target_append_select ids shown shown [.create shown] rfl
      constructor
      · exact .inl target.symm
      · rw [target]
        exact .inr (.of_not_mem unheard)
      · rw [target]
        refine .of_not_mem fun member => ?_
        rcases List.mem_append.mp member with old | new
        · exact unasked old
        · cases List.mem_singleton.mp new
  | @closed key =>
      have differs := apart key rfl
      have target : { m with ids, shown := m.shown, asks := m.asks ++ [Ask.close key] }.target =
          m.target := by
        have nothing : [Ask.close key].filterMap Ask.selects = [] := rfl
        unfold Mirror.target
        rw [List.filterMap_append, nothing, List.append_nil]
      constructor
      · rw [target]
        refine selecting.shown.imp_right fun confirmed => ?_
        unfold Confirmed
        rw [target]
        refine confirmed.imp_right (Or.imp_right fun member => ?_)
        rw [List.filterMap_append]
        exact List.mem_append_left _ member
      · rw [target]
        exact selecting.replied.imp_left (List.mem_append_left _)
      · rw [target]
        refine selecting.asked.append_other fun same => ?_
        cases same
        exact differs rfl
  | @replaced key =>
      have target := m.target_append_select ids shown shown [.close key, .select shown] rfl
      constructor
      · exact .inl target.symm
      · rw [target]
        exact .inl (List.mem_append_right _ (by simp))
      · rw [target]
        change Followed _ _ (m.asks ++ ([.close key] ++ [.select shown]))
        rw [← List.append_assoc]
        exact .append_second _ nofun
  | selected =>
      have target := m.target_append_select m.ids shown shown [.select shown] rfl
      constructor
      · exact .inl target.symm
      · rw [target]
        exact .inl (List.mem_append_right _ (by simp))
      · rw [target]
        exact .append_second _ nofun

/-- The mirror behind a handled ask. -/
def afterHandle (m : Mirror κ) (rest : List (Ask κ)) (live : Set κ) (held : κ) (told : List (Tell κ))
    (reply : Tell κ) : Mirror κ :=
  { m with live, held, asks := rest, bus := m.bus ++ told, replies := m.replies ++ [reply] }

section Handle

variable {a : Ask κ} {rest : List (Ask κ)} {live : Set κ} {held : κ} {told : List (Tell κ)}
  {reply : Tell κ}

theorem target_handle (first : m.asks = a :: rest) (handled : Handled m a live held told reply) :
    (m.afterHandle rest live held told reply).target = m.target := by
  unfold target
  rw [first]
  cases handled with
  | close => rfl
  | create | select =>
      simp only [List.filterMap_cons, Ask.selects, List.getLast?_cons, Option.getD_some]
      rfl

theorem confirmed_handle (first : m.asks = a :: rest) (handled : Handled m a live held told reply)
    (confirmed : m.Confirmed) : (m.afterHandle rest live held told reply).Confirmed := by
  have target := target_handle first handled
  unfold Confirmed
  rw [target]
  rcases confirmed with heard | heard | pending
  · exact .inl (List.mem_append_left _ heard)
  · exact .inr (.inl (List.mem_append_left _ heard))
  · rw [first] at pending
    obtain ⟨ask, member, selects⟩ := List.mem_filterMap.mp pending
    rcases List.mem_cons.mp member with rfl | later
    · cases handled with
      | create =>
          cases selects
          exact .inl (List.mem_append_right _ List.mem_cons_self)
      | close => cases selects
      | select =>
          cases selects
          exact .inr (.inl (List.mem_append_right _ List.mem_cons_self))
    · exact .inr (.inr (List.mem_filterMap.mpr ⟨ask, later, selects⟩))

theorem Selecting.handle (selecting : m.Selecting) (first : m.asks = a :: rest)
    (handled : Handled m a live held told reply) :
    (m.afterHandle rest live held told reply).Selecting := by
  obtain ⟨shown, replied, asked⟩ := selecting
  have target := target_handle first handled
  rw [first] at replied asked
  constructor
  · rw [target]
    exact shown.imp_right (confirmed_handle first handled)
  · rw [target]
    rcases replied with pending | followed
    · rcases List.mem_cons.mp pending with same | later
      · subst same
        cases handled with
        | select => exact .inr (.append_second _ nofun)
      · exact .inl later
    · by_cases closes : a = .close m.target
      · subst closes
        exact .inl asked.head
      · refine .inr (followed.append_other fun same => ?_)
        subst same
        cases handled with
        | close => exact closes rfl
  · rw [target]
    exact asked.tail

end Handle

section Learn

variable {t : Tell κ} {rest : List (Tell κ)} {ids : Set κ} {shown : κ}

theorem Selecting.reply (selecting : m.Selecting) (orderly : m.Orderly .reply)
    (first : m.replies = t :: rest) (learned : Learned m t ids shown) :
    { m with ids, shown, replies := rest }.Selecting := by
  obtain ⟨seen, replied, asked⟩ := selecting
  rw [first] at replied
  refine ⟨?_, replied.imp_right Followed.tail, asked⟩
  have keeps (confirmed : m.Confirmed) (other : t ≠ .selected m.target) :
      { m with ids, shown, replies := rest }.Confirmed := by
    unfold Confirmed at confirmed
    rw [first] at confirmed
    exact confirmed.imp_right (Or.imp_left (List.mem_of_ne_of_mem (Ne.symm other)))
  cases learned with
  | created => exact seen.imp_right fun confirmed => keeps confirmed nofun
  | @closed key ids shown missing others same known =>
      by_cases here : m.shown = key
      · by_cases last : key = m.target
        · subst last
          rcases replied with pending | followed
          · exact .inr (.inr (.inr (List.mem_filterMap.mpr ⟨_, pending, rfl⟩)))
          · exact .inr (.inr (.inl followed.head))
        · have confirmed := seen.resolve_left fun shown => last (here.symm.trans shown)
          exact .inr (keeps confirmed nofun)
      · rw [same here]
        exact seen.imp_right fun confirmed => keeps confirmed nofun
  | selected =>
      have confirmed := orderly shown (by rw [first]; rfl)
      by_cases last : shown = m.target
      · exact .inl last
      · refine .inr (keeps confirmed fun same => ?_)
        cases same
        exact last rfl

theorem Selecting.bus (selecting : m.Selecting) (orderly : m.Orderly .bus)
    (first : m.bus = .selected shown :: rest) :
    { m with shown, bus := rest }.Selecting := by
  obtain ⟨seen, replied, asked⟩ := selecting
  refine ⟨?_, replied, asked⟩
  by_cases last : shown = m.target
  · exact .inl last
  · have confirmed := orderly shown (by rw [first]; rfl)
    unfold Confirmed at confirmed
    rw [first] at confirmed
    refine .inr (confirmed.imp_left (List.mem_of_ne_of_mem fun same => ?_))
    exact last (Tell.selected.inj same).symm

end Learn

theorem Selecting.move {turn : Turn κ} (selecting : m.Selecting)
    (selections : ∀ t ∈ m.bus, ∃ key, t = .selected key) (orderly : m.Orderly turn)
    (moved : Move m turn next) : next.Selecting := by
  cases moved with
  | act acted => exact selecting.act orderly acted
  | handle first handled => exact selecting.handle first handled
  | reply first learned => exact selecting.reply orderly first learned
  | @bus t rest ids shown first learned =>
      obtain ⟨key, rfl⟩ := selections t (first ▸ List.mem_cons_self)
      cases learned with
      | selected => exact selecting.bus orderly first

/-- Once everything is handled and told the client shows the key that the host holds selected. -/
theorem Selecting.settled (selecting : m.Selecting) (settled : m.Settled) : m.shown = m.held := by
  obtain ⟨noAsks, noReplies, noBus⟩ := settled
  have target : m.target = m.held := by
    rw [Mirror.target, noAsks]
    rfl
  rw [← target]
  refine selecting.shown.resolve_right fun confirmed => ?_
  unfold Confirmed at confirmed
  rw [noAsks, noReplies, noBus] at confirmed
  simp at confirmed

end Mirror

end Library
