import ExoBrowser.Library.Checked

/-!
# Cursors over an input and an output

A reader advances over the symbols it is given, an emitter appends to the ones
already written. Both may stop early. The relations below describe them by the
symbols they account for, independently of what surrounds those symbols.
-/

set_option autoImplicit false

namespace Library

/-- The state is the unread input of a reader, or the written output of an emitter. -/
abbrev Cursor (β ε : Type) := StateT (List β) (Checked ε)

def readMany {β ε α : Type} (reader : Cursor β ε α) : Nat → Cursor β ε (List α)
  | 0 => pure []
  | count + 1 => do
      let value ← reader
      let values ← readMany reader count
      return value :: values

section Relations

variable {β ε α γ : Type}

/-- The emitter appends exactly `symbols`, whatever is already written. -/
def Emits (emitter : Cursor β ε Unit) (symbols : List β) : Prop :=
  ∀ written, emitter.run written = .ok ((), written ++ symbols)

/-- The reader takes exactly `symbols`, whatever follows them. -/
def Reads (reader : Cursor β ε α) (symbols : List β) (value : α) : Prop :=
  ∀ rest, reader.run (symbols ++ rest) = .ok (value, rest)

def ReadsAll (reader : Cursor β ε α) (symbols : List β) (value : α) : Prop :=
  reader.run symbols = .ok (value, [])

/-- Reading back what the emitter writes gives `value`, as long as that is at
most `bound` symbols long. -/
def Inverse (bound : Nat) (emitter : Cursor β ε Unit) (reader : Cursor β ε α) (value : α) :
    Prop :=
  ∃ symbols, Emits emitter symbols ∧ (symbols.length ≤ bound → Reads reader symbols value)

def InverseAtEnd (bound : Nat) (emitter : Cursor β ε Unit) (reader : Cursor β ε α) (value : α) :
    Prop :=
  ∃ symbols, Emits emitter symbols ∧ (symbols.length ≤ bound → ReadsAll reader symbols value)

end Relations

section Emitting

variable {β ε : Type}

theorem Emits.pure : Emits (pure () : Cursor β ε Unit) [] := by
  intro written
  rw [StateT.run_pure, List.append_nil]
  rfl

theorem Emits.seq {first : Cursor β ε Unit} {second : Unit → Cursor β ε Unit} {left right : List β}
    (firstEmits : Emits first left) (secondEmits : Emits (second ()) right) :
    Emits (first >>= second) (left ++ right) := by
  intro written
  have advanced := secondEmits (written ++ left)
  rw [List.append_assoc] at advanced
  rw [StateT.run_bind, firstEmits written]
  exact advanced

/-- What the emitter does never depends on what is already written. -/
def Uniform (emitter : Cursor β ε Unit) : Prop :=
  ∀ written out, emitter.run (written ++ out) =
    (fun result => (result.1, written ++ result.2)) <$> emitter.run out

theorem Uniform.pure : Uniform (Pure.pure () : Cursor β ε Unit) := fun _ _ => rfl

theorem Uniform.seq {first : Cursor β ε Unit} {second : Unit → Cursor β ε Unit}
    (firstUniform : Uniform first) (secondUniform : Uniform (second ())) :
    Uniform (first >>= second) := by
  intro written out
  rw [StateT.run_bind, StateT.run_bind, firstUniform written out, map_bind, bind_map_left]
  exact bind_congr fun result => secondUniform written result.2

theorem Uniform.lift {α : Type} {computation : Checked ε α} {continuation : α → Cursor β ε Unit}
    (uniform : ∀ value, Uniform (continuation value)) :
    Uniform ((liftM computation : Cursor β ε α) >>= continuation) := by
  intro written out
  cases computation with
  | error stop => rfl
  | ok value => exact uniform value written out

theorem Uniform.throw (stop : Stop ε) : Uniform (throw stop : Cursor β ε Unit) := fun _ _ => rfl

theorem Uniform.ite {condition : Prop} [Decidable condition] {first second : Cursor β ε Unit}
    (holds : Uniform first) (fails : Uniform second) :
    Uniform (if condition then first else second) := by
  split
  case isTrue => exact holds
  case isFalse => exact fails

theorem Uniform.forM {α : Type} {emitter : α → Cursor β ε Unit}
    (each : ∀ value, Uniform (emitter value)) (values : List α) : Uniform (forM values emitter) := by
  induction values with
  | nil => exact .pure
  | cons value values ih =>
      rw [List.forM_cons]
      exact (each value).seq ih

theorem Emits.uniform {emitter : Cursor β ε Unit} {symbols : List β} (emits : Emits emitter symbols) :
    Uniform emitter := by
  intro written out
  rw [emits, emits, List.append_assoc]
  rfl

/-- What a uniform emitter writes first it writes everywhere. -/
theorem Uniform.emits {emitter : Cursor β ε Unit} {symbols : List β} (uniform : Uniform emitter)
    (first : emitter.run [] = .ok ((), symbols)) : Emits emitter symbols := by
  intro written
  have later := uniform written []
  rw [List.append_nil, first] at later
  exact later

end Emitting

section Reading

variable {β ε α γ : Type}

theorem Reads.pure (value : α) : Reads (Pure.pure value : Cursor β ε α) [] value := by
  intro rest
  rfl

theorem Reads.seq {first : Cursor β ε α} {second : α → Cursor β ε γ}
    {left right : List β} {value : α} {result : γ}
    (firstReads : Reads first left value) (secondReads : Reads (second value) right result) :
    Reads (first >>= second) (left ++ right) result := by
  intro rest
  rw [StateT.run_bind, List.append_assoc, firstReads (right ++ rest)]
  exact secondReads rest

theorem Reads.last {reader : Cursor β ε α} {symbols : List β} {value : α}
    (reads : Reads reader symbols value) (wrap : α → γ) :
    Reads (reader >>= fun read => Pure.pure (wrap read)) symbols (wrap value) := by
  intro rest
  rw [StateT.run_bind, reads rest]
  rfl

theorem Reads.readsAll {reader : Cursor β ε α} {symbols : List β} {value : α}
    (reads : Reads reader symbols value) : ReadsAll reader symbols value := by
  simpa [ReadsAll] using reads []

theorem Reads.seqAll {first : Cursor β ε α} {second : α → Cursor β ε γ}
    {left right : List β} {value : α} {result : γ}
    (firstReads : Reads first left value) (secondReads : ReadsAll (second value) right result) :
    ReadsAll (first >>= second) (left ++ right) result := by
  rw [ReadsAll, StateT.run_bind, firstReads right]
  exact secondReads

end Reading

section Inverses

variable {β ε α γ : Type} {bound : Nat}

theorem Inverse.pure (value : α) :
    Inverse bound (Pure.pure () : Cursor β ε Unit) (Pure.pure value : Cursor β ε α) value :=
  ⟨[], .pure, fun _ => .pure value⟩

theorem Inverse.seq {emitter : Cursor β ε Unit} {emitters : Unit → Cursor β ε Unit}
    {reader : Cursor β ε α} {readers : α → Cursor β ε γ} {value : α} {result : γ}
    (first : Inverse bound emitter reader value)
    (rest : Inverse bound (emitters ()) (readers value) result) :
    Inverse bound (emitter >>= emitters) (reader >>= readers) result := by
  obtain ⟨left, leftEmits, leftReads⟩ := first
  obtain ⟨right, rightEmits, rightReads⟩ := rest
  refine ⟨left ++ right, leftEmits.seq rightEmits, fun fits => ?_⟩
  rw [List.length_append] at fits
  exact (leftReads (by omega)).seq (rightReads (by omega))

theorem Inverse.convert {emitter : Cursor β ε Unit} {reader : Cursor β ε α}
    {convert : α → Cursor β ε γ} {value : α} {result : γ}
    (field : Inverse bound emitter reader value) (converts : convert value = Pure.pure result) :
    Inverse bound emitter (reader >>= convert) result := by
  obtain ⟨symbols, emits, reads⟩ := field
  refine ⟨symbols, emits, fun fits => ?_⟩
  have converted : Reads (convert value) [] result := converts ▸ .pure result
  have checked := (reads fits).seq converted
  rwa [List.append_nil] at checked

theorem Inverse.seqConverted {δ : Type} {emitter : Cursor β ε Unit}
    {emitters : Unit → Cursor β ε Unit} {reader : Cursor β ε α} {convert : α → Cursor β ε γ}
    {readers : γ → Cursor β ε δ} {value : α} {converted : γ} {result : δ}
    (field : Inverse bound emitter reader value) (converts : convert value = Pure.pure converted)
    (rest : Inverse bound (emitters ()) (readers converted) result) :
    Inverse bound (emitter >>= emitters) (reader >>= fun read => convert read >>= readers) result := by
  refine field.seq ?_
  rwa [converts, pure_bind]

/-- The last field of a record: what is read is only wrapped afterwards. -/
theorem Inverse.last {emitter : Cursor β ε Unit} {reader : Cursor β ε α} {wrap : α → γ}
    {value : α} (field : Inverse bound emitter reader value) :
    Inverse bound emitter (reader >>= fun read => Pure.pure (wrap read)) (wrap value) :=
  field.convert rfl

/-- A field that is present under a condition, with a default when it is absent. -/
theorem Inverse.when {emitter : Cursor β ε Unit} {reader : Cursor β ε α} {value default : α}
    {condition : Prop} [Decidable condition]
    (present : condition → Inverse bound emitter reader value)
    (absent : ¬ condition → value = default) :
    Inverse bound (if condition then emitter else Pure.pure ())
      (if condition then reader else Pure.pure default) value := by
  by_cases holds : condition
  · simpa [holds] using present holds
  · simpa [holds, absent holds] using Inverse.pure default

theorem Inverse.atEnd {emitter : Cursor β ε Unit} {reader : Cursor β ε α} {value : α}
    (inverse : Inverse bound emitter reader value) :
    InverseAtEnd bound emitter reader value := by
  obtain ⟨symbols, emits, reads⟩ := inverse
  exact ⟨symbols, emits, fun fits => (reads fits).readsAll⟩

theorem Inverse.seqAtEnd {emitter : Cursor β ε Unit} {emitters : Unit → Cursor β ε Unit}
    {reader : Cursor β ε α} {readers : α → Cursor β ε γ} {value : α} {result : γ}
    (first : Inverse bound emitter reader value)
    (rest : InverseAtEnd bound (emitters ()) (readers value) result) :
    InverseAtEnd bound (emitter >>= emitters) (reader >>= readers) result := by
  obtain ⟨left, leftEmits, leftReads⟩ := first
  obtain ⟨right, rightEmits, rightReads⟩ := rest
  refine ⟨left ++ right, leftEmits.seq rightEmits, fun fits => ?_⟩
  rw [List.length_append] at fits
  exact (leftReads (by omega)).seqAll (rightReads (by omega))

theorem InverseAtEnd.last {emitter : Cursor β ε Unit} {reader : Cursor β ε α} {wrap : α → γ}
    {value : α} (field : InverseAtEnd bound emitter reader value) :
    InverseAtEnd bound emitter (reader >>= fun read => Pure.pure (wrap read)) (wrap value) := by
  obtain ⟨symbols, emits, reads⟩ := field
  refine ⟨symbols, emits, fun fits => ?_⟩
  have read := reads fits
  simp only [ReadsAll, StateT.run_bind] at read ⊢
  rw [read]
  rfl

/-- Many elements, none of which is empty. Their count is then bounded by the symbols written. -/
theorem Inverse.counted {emitter : α → Cursor β ε Unit} {reader : Cursor β ε α}
    {values : List α} (each : ∀ value ∈ values, Inverse bound (emitter value) reader value)
    (starved : ∀ value, reader.run [] ≠ .ok (value, [])) :
    ∃ symbols, Emits (forM values emitter) symbols ∧ (symbols.length ≤ bound →
      values.length ≤ symbols.length ∧
        Reads (Library.readMany reader values.length) symbols values) := by
  induction values with
  | nil => exact ⟨[], .pure, fun _ => ⟨Nat.le_refl 0, .pure []⟩⟩
  | cons value values ih =>
      obtain ⟨head, headEmits, headReads⟩ := each value List.mem_cons_self
      obtain ⟨tail, tailEmits, tailReads⟩ :=
        ih fun other member => each other (List.mem_cons_of_mem _ member)
      refine ⟨head ++ tail, by rw [List.forM_cons]; exact headEmits.seq tailEmits, fun fits => ?_⟩
      rw [List.length_append] at fits
      have reads := headReads (by omega)
      obtain ⟨counted, readsTail⟩ := tailReads (by omega)
      have nonempty : head ≠ [] := by
        rintro rfl
        exact starved value (reads [])
      have positive := List.length_pos_iff.mpr nonempty
      refine ⟨by rw [List.length_append, List.length_cons]; omega, ?_⟩
      exact reads.seq (readsTail.last (value :: ·))

end Inverses

section Consuming

variable {β ε α γ : Type}

/-- On every input of at most `bound` symbols the reader does not panic, and
where it succeeds it leaves a suffix of its input. -/
def Consumes (bound : Nat) (reader : Cursor β ε α) (good : α → Prop) : Prop :=
  ∀ input : List β, input.length ≤ bound →
    Checked.Safe (reader.run input) fun result => good result.1 ∧ result.2 <:+ input

variable {bound : Nat}

theorem Consumes.pure {value : α} {good : α → Prop} (property : good value) :
    Consumes bound (Pure.pure value : Cursor β ε α) good :=
  fun input _ => ⟨property, List.suffix_refl input⟩

theorem Consumes.bind {reader : Cursor β ε α} {readers : α → Cursor β ε γ}
    {middle : α → Prop} {good : γ → Prop} (first : Consumes bound reader middle)
    (rest : ∀ value, middle value → Consumes bound (readers value) good) :
    Consumes bound (reader >>= readers) good := by
  intro input bounded
  rw [StateT.run_bind]
  refine (first input bounded).bind ?_
  rintro ⟨value, middleInput⟩ ⟨property, suffix⟩
  refine (rest value property middleInput (Nat.le_trans suffix.length_le bounded)).mono ?_
  rintro ⟨result, final⟩ ⟨resultProperty, finalSuffix⟩
  exact ⟨resultProperty, finalSuffix.trans suffix⟩

theorem Consumes.mono {reader : Cursor β ε α} {good better : α → Prop}
    (consumes : Consumes bound reader good) (weaken : ∀ value, good value → better value) :
    Consumes bound reader better :=
  fun input bounded => (consumes input bounded).mono fun result property =>
    ⟨weaken result.1 property.1, property.2⟩

theorem Consumes.fail (error : ε) {good : α → Prop} :
    Consumes bound (throw (.err error) : Cursor β ε α) good :=
  fun _ _ => trivial

theorem Consumes.ite {condition : Prop} [Decidable condition] {left right : Cursor β ε α}
    {good : α → Prop} (isTrue : condition → Consumes bound left good)
    (isFalse : ¬ condition → Consumes bound right good) :
    Consumes bound (if condition then left else right) good := by
  by_cases holds : condition
  · simpa [holds] using isTrue holds
  · simpa [holds] using isFalse holds

theorem Consumes.readMany {reader : Cursor β ε α} {good : α → Prop}
    (each : Consumes bound reader good) (count : Nat) :
    Consumes bound (readMany reader count) fun values =>
      values.length = count ∧ ∀ value ∈ values, good value := by
  induction count with
  | zero => exact .pure (by simp)
  | succ count ih =>
      refine each.bind fun value property => ih.bind fun values properties => .pure ?_
      simpa using ⟨properties.1, property, properties.2⟩

end Consuming

section Locality

variable {β ε α γ : Type} {starved : ε}

/-- What the reader does depends on no symbol behind those it takes: a success
is a reading, and a failure other than `starved` persists on every longer input. -/
def Local (starved : ε) (reader : Cursor β ε α) : Prop :=
  ∀ input, match reader.run input with
    | .ok (value, rest) => ∃ taken, input = taken ++ rest ∧ Reads reader taken value
    | .error stop => stop = .err starved ∨ ∀ more, reader.run (input ++ more) = .error stop

theorem Local.pure (value : α) : Local starved (Pure.pure value : Cursor β ε α) :=
  fun _ => ⟨[], rfl, .pure value⟩

theorem Local.fail (stop : Stop ε) : Local starved (throw stop : Cursor β ε α) :=
  fun _ => .inr fun _ => rfl

theorem Local.bind {reader : Cursor β ε α} {readers : α → Cursor β ε γ}
    (first : Local starved reader) (rest : ∀ value, Local starved (readers value)) :
    Local starved (reader >>= readers) := by
  intro input
  have firstLocal := first input
  rw [StateT.run_bind]
  match found : reader.run input with
  | .error stop =>
      rw [found] at firstLocal
      refine firstLocal.imp id fun persists more => ?_
      rw [StateT.run_bind, persists more]
      rfl
  | .ok (value, middle) =>
      rw [found] at firstLocal
      obtain ⟨left, split, reads⟩ := firstLocal
      have restLocal := rest value middle
      change match (readers value).run middle with
        | .ok (result, final) => ∃ taken, input = taken ++ final ∧ Reads (reader >>= readers) taken result
        | .error stop => stop = .err starved ∨
            ∀ more, (reader >>= readers).run (input ++ more) = .error stop
      match found : (readers value).run middle with
      | .error stop =>
          rw [found] at restLocal
          refine restLocal.imp id fun persists more => ?_
          rw [split, List.append_assoc, StateT.run_bind, reads (middle ++ more)]
          exact persists more
      | .ok (result, final) =>
          rw [found] at restLocal
          obtain ⟨right, splitRest, readsRest⟩ := restLocal
          refine ⟨left ++ right, ?_, reads.seq readsRest⟩
          rw [split, splitRest, List.append_assoc]

theorem Local.ite {condition : Prop} [Decidable condition] {left right : Cursor β ε α}
    (isTrue : Local starved left) (isFalse : Local starved right) :
    Local starved (if condition then left else right) := by
  by_cases holds : condition
  · rwa [if_pos holds]
  · rwa [if_neg holds]

end Locality

end Library
