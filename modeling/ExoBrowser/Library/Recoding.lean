import ExoBrowser.Library.Cursor

/-!
# Writing back what was read

A reader may accept more than one form of a value. What is compared here is only how many
symbols it took, and how many an emitter needs for the value.
-/

set_option autoImplicit false

namespace Library

variable {β ε α γ : Type}

/-- The emitter writes at most `size` symbols, whatever is already written. -/
def Within (emitter : Cursor β ε Unit) (size : Nat) : Prop :=
  ∃ symbols, Emits emitter symbols ∧ symbols.length ≤ size

/-- Where the reader succeeds, its value and the number of symbols it took are `good`. -/
def Takes (reader : Cursor β ε α) (good : α → Nat → Prop) : Prop :=
  ∀ input value rest, reader.run input = .ok (value, rest) →
    ∃ taken, input.length = taken + rest.length ∧ good value taken

theorem Within.pure : Within (Pure.pure () : Cursor β ε Unit) 0 := ⟨[], .pure, Nat.le_refl 0⟩

theorem Within.mono {emitter : Cursor β ε Unit} {size more : Nat} (within : Within emitter size)
    (larger : size ≤ more) : Within emitter more := by
  obtain ⟨symbols, emits, fits⟩ := within
  exact ⟨symbols, emits, Nat.le_trans fits larger⟩

theorem Within.seq {first : Cursor β ε Unit} {second : Unit → Cursor β ε Unit} {left right : Nat}
    (firstWithin : Within first left) (secondWithin : Within (second ()) right) :
    Within (first >>= second) (left + right) := by
  obtain ⟨symbols, emits, fits⟩ := firstWithin
  obtain ⟨more, emitsMore, fitsMore⟩ := secondWithin
  refine ⟨symbols ++ more, emits.seq emitsMore, ?_⟩
  rw [List.length_append]
  exact Nat.add_le_add fits fitsMore

namespace Takes

variable {reader : Cursor β ε α} {good : α → Nat → Prop}

theorem pure {value : α} (property : good value 0) : Takes (Pure.pure value : Cursor β ε α) good := by
  intro input result rest read
  cases read
  exact ⟨0, (Nat.zero_add _).symm, property⟩

theorem throw (stop : Stop ε) : Takes (throw stop : Cursor β ε α) good := by
  intro input result rest read
  cases read

theorem mono {better : α → Nat → Prop} (takes : Takes reader good)
    (weaken : ∀ value taken, good value taken → better value taken) : Takes reader better := by
  intro input value rest read
  obtain ⟨taken, length, property⟩ := takes input value rest read
  exact ⟨taken, length, weaken value taken property⟩

theorem bind {readers : α → Cursor β ε γ} {better : γ → Nat → Prop} (first : Takes reader good)
    (second : ∀ value taken, good value taken →
      Takes (readers value) fun result more => better result (taken + more)) :
    Takes (reader >>= readers) better := by
  intro input result rest read
  rw [StateT.run_bind] at read
  obtain ⟨⟨value, middle⟩, firstRead, secondRead⟩ := Checked.bind_eq_ok read
  obtain ⟨taken, length, property⟩ := first input value middle firstRead
  obtain ⟨more, lengthMore, propertyMore⟩ := second value taken property middle result rest secondRead
  exact ⟨taken + more, by rw [length, lengthMore, Nat.add_assoc], propertyMore⟩

theorem ite {condition : Prop} [Decidable condition] {other : Cursor β ε α}
    (holds : condition → Takes reader good) (fails : ¬ condition → Takes other good) :
    Takes (if condition then reader else other) good := by
  split
  case isTrue met => exact holds met
  case isFalse unmet => exact fails unmet

/-- A field that is present under a condition, with a default when it is absent. -/
theorem when {condition : Prop} [Decidable condition] {emitter : α → Cursor β ε Unit} {default : α}
    (present : Takes reader fun value taken => Within (emitter value) taken) :
    Takes (if condition then reader else Pure.pure default) fun value taken =>
      (¬ condition → value = default) ∧
        Within (if condition then emitter value else Pure.pure ()) taken := by
  split
  case isTrue met =>
    exact present.mono fun value taken within => ⟨fun unmet => absurd met unmet, within⟩
  case isFalse unmet => exact .pure ⟨fun _ => rfl, .pure⟩

theorem readMany {emitter : α → Cursor β ε Unit}
    (each : Takes reader fun value taken => Within (emitter value) taken) (count : Nat) :
    Takes (readMany reader count) fun values taken =>
      values.length = count ∧ Within (forM values emitter) taken := by
  induction count with
  | zero => exact .pure ⟨rfl, .pure⟩
  | succ count ih =>
      refine each.bind fun value taken within => ih.bind fun values more rest => .pure ?_
      obtain ⟨counted, withinRest⟩ := rest
      refine ⟨congrArg Nat.succ counted, ?_⟩
      rw [List.forM_cons]
      exact within.seq withinRest

end Takes

/-! ## Reading back with a loss -/

/-- What the reader makes of what the emitter writes is `good`, if it accepts it. -/
def YieldsAtEnd (bound : Nat) (emitter : Cursor β ε Unit) (reader : Cursor β ε α) (good : α → Prop) :
    Prop :=
  ∃ symbols, Emits emitter symbols ∧
    (symbols.length ≤ bound → Checked.Yields (reader.run symbols) fun result => good result.1)

variable {bound : Nat}

theorem Inverse.seqYields {emitter : Cursor β ε Unit} {emitters : Unit → Cursor β ε Unit}
    {reader : Cursor β ε α} {readers : α → Cursor β ε γ} {value : α} {good : γ → Prop}
    (first : Inverse bound emitter reader value)
    (rest : YieldsAtEnd bound (emitters ()) (readers value) good) :
    YieldsAtEnd bound (emitter >>= emitters) (reader >>= readers) good := by
  obtain ⟨left, leftEmits, leftReads⟩ := first
  obtain ⟨right, rightEmits, rightYields⟩ := rest
  refine ⟨left ++ right, leftEmits.seq rightEmits, fun fits => ?_⟩
  rw [List.length_append] at fits
  rw [StateT.run_bind, leftReads (by omega) right]
  exact rightYields (by omega)

theorem YieldsAtEnd.last {emitter : Cursor β ε Unit} {reader : Cursor β ε α} {good : α → Prop}
    (field : YieldsAtEnd bound emitter reader good) (wrap : α → γ) :
    YieldsAtEnd bound emitter (reader >>= fun read => Pure.pure (wrap read)) fun result =>
      ∃ read, good read ∧ result = wrap read := by
  obtain ⟨symbols, emits, yields⟩ := field
  refine ⟨symbols, emits, fun fits => ?_⟩
  rw [StateT.run_bind]
  exact .bind fun value returned => .pure ⟨value.1, yields fits value returned, rfl⟩

end Library
