import Mathlib.Data.List.TakeWhile

/-!
# Form-encoded queries

How a server reads a parameter of an address, and which texts it reads back when only
their spaces were encoded.
-/

set_option autoImplicit false

namespace Library

def utf8 (text : List Char) : List UInt8 := text.flatMap String.utf8EncodeChar

@[simp] theorem utf8_nil : utf8 [] = [] := rfl

@[simp] theorem utf8_cons (c : Char) (text : List Char) :
    utf8 (c :: text) = String.utf8EncodeChar c ++ utf8 text := rfl

theorem utf8_append (left right : List Char) : utf8 (left ++ right) = utf8 left ++ utf8 right :=
  List.flatMap_append

theorem utf8_inj {left right : List Char} : utf8 left = utf8 right ↔ left = right := by
  constructor
  · intro same
    have encoded : left.utf8Encode = right.utf8Encode := congrArg List.toByteArray same
    have decoded := congrArg ByteArray.utf8Decode? encoded
    rw [List.utf8Decode?_utf8Encode, List.utf8Decode?_utf8Encode] at decoded
    exact congrArg Array.toList (Option.some.inj decoded)
  · rintro rfl
    rfl

theorem utf8_eq_nil_iff {text : List Char} : utf8 text = [] ↔ text = [] :=
  @utf8_inj text []

/-! ## Escapes -/

def hexDigit? (c : Char) : Option Nat :=
  if '0' ≤ c ∧ c ≤ '9' then some (c.toNat - '0'.toNat)
  else if 'a' ≤ c ∧ c ≤ 'f' then some (c.toNat - 'a'.toNat + 10)
  else if 'A' ≤ c ∧ c ≤ 'F' then some (c.toNat - 'A'.toNat + 10)
  else none

def hexByte? (high low : Char) : Option UInt8 := do
  let high ← hexDigit? high
  let low ← hexDigit? low
  some (UInt8.ofNat (16 * high + low))

/-- The bytes a form-encoded text stands for: a plus is a space, and a percent sign with two
digits behind it is a byte. -/
def formBytes : List Char → List UInt8
  | '%' :: high :: low :: rest =>
      match hexByte? high low with
      | some byte => byte :: formBytes rest
      | none => String.utf8EncodeChar '%' ++ formBytes (high :: low :: rest)
  | '+' :: rest => 0x20 :: formBytes rest
  | c :: rest => String.utf8EncodeChar c ++ formBytes rest
  | [] => []

def hasEscape : List Char → Bool
  | '%' :: high :: low :: rest => (hexByte? high low).isSome || hasEscape (high :: low :: rest)
  | _ :: rest => hasEscape rest
  | [] => false

theorem hasEscape_cons {c : Char} {rest : List Char}
    (noByte : ∀ high low tail, c = '%' → rest = high :: low :: tail →
      hexByte? high low = none) :
    hasEscape (c :: rest) = hasEscape rest := by
  rw [hasEscape.eq_def]
  split
  case h_1 high low tail same =>
      injection same with percent more
      rw [noByte high low tail percent more, more]
      rfl
  case h_2 _ _ _ same =>
      injection same with _ more
      rw [more]
  case h_3 same => cases same

theorem length_formBytes_le (text : List Char) : (formBytes text).length ≤ (utf8 text).length := by
  fun_induction formBytes text with
  | case1 high low rest byte _ ih =>
      have percent : (String.utf8EncodeChar '%').length = 1 := rfl
      simp only [List.length_cons, utf8_cons, List.length_append]
      omega
  | case2 high low rest _ ih =>
      rw [utf8_cons, List.length_append, List.length_append]
      omega
  | case3 rest ih =>
      have plus : (String.utf8EncodeChar '+').length = 1 := rfl
      rw [utf8_cons, List.length_cons, List.length_append]
      omega
  | case4 c rest _ _ ih =>
      rw [utf8_cons, List.length_append, List.length_append]
      omega
  | case5 => exact Nat.le_refl 0

/-- An escape takes three characters for its byte. -/
theorem length_formBytes_lt {text : List Char} (escape : hasEscape text = true) :
    (formBytes text).length < (utf8 text).length := by
  fun_induction formBytes text with
  | case1 high low rest byte _ ih =>
      have percent : (String.utf8EncodeChar '%').length = 1 := rfl
      have digit := List.length_pos_iff.mpr (String.utf8EncodeChar_ne_nil (c := high))
      have decoded := length_formBytes_le rest
      simp only [List.length_cons, utf8_cons, List.length_append]
      omega
  | case2 high low rest read ih =>
      rw [hasEscape_cons (by rintro _ _ _ _ ⟨⟩; exact read)] at escape
      have decoded := ih escape
      rw [utf8_cons, List.length_append, List.length_append]
      omega
  | case3 rest ih =>
      rw [hasEscape_cons (by rintro _ _ _ ⟨⟩)] at escape
      have plus : (String.utf8EncodeChar '+').length = 1 := rfl
      have decoded := ih escape
      rw [utf8_cons, List.length_cons, List.length_append]
      omega
  | case4 c rest noByte _ ih =>
      rw [hasEscape_cons fun high low tail percent more =>
        (noByte high low tail percent more).elim] at escape
      have decoded := ih escape
      rw [utf8_cons, List.length_append, List.length_append]
      omega
  | case5 => cases escape

/-! ## Texts that are read back -/

def fromPlus (c : Char) : Char := if c == '+' then ' ' else c

def toPlus (c : Char) : Char := if c == ' ' then '+' else c

theorem formBytes_of_no_escape {text : List Char} (plain : hasEscape text = false) :
    formBytes text = utf8 (text.map fromPlus) := by
  fun_induction formBytes text with
  | case1 high low rest byte read ih => simp [hasEscape, read] at plain
  | case2 high low rest read ih =>
      rw [hasEscape_cons (by rintro _ _ _ _ ⟨⟩; exact read)] at plain
      rw [List.map_cons, utf8_cons, ih plain]
      rfl
  | case3 rest ih =>
      rw [hasEscape_cons (by rintro _ _ _ ⟨⟩)] at plain
      rw [List.map_cons, utf8_cons, ih plain]
      rfl
  | case4 c rest noByte noPlus ih =>
      rw [hasEscape_cons fun high low tail percent more =>
        (noByte high low tail percent more).elim] at plain
      rw [List.map_cons, utf8_cons, ih plain, fromPlus, if_neg (by simpa using noPlus)]
  | case5 => rfl

theorem hexDigit?_toPlus (c : Char) : hexDigit? (toPlus c) = hexDigit? c := by
  by_cases space : c = ' '
  · subst space
    rfl
  · rw [toPlus, if_neg (by simpa using space)]

theorem toPlus_eq_percent {c : Char} : toPlus c = '%' ↔ c = '%' := by
  unfold toPlus
  split
  case isTrue space => simp [eq_of_beq space]
  case isFalse => exact Iff.rfl

theorem hasEscape_map_toPlus (text : List Char) :
    hasEscape (text.map toPlus) = hasEscape text := by
  fun_induction hasEscape text with
  | case1 high low rest ih =>
      rw [← ih, List.map_cons, List.map_cons, toPlus_eq_percent.mpr rfl, List.map_cons, hasEscape,
        hexByte?, hexDigit?_toPlus, hexDigit?_toPlus]
      rfl
  | case2 c rest noByte ih =>
      rw [List.map_cons, hasEscape_cons, ih]
      intro high low tail percent more
      obtain ⟨high, behind, rfl, -, more⟩ := List.map_eq_cons_iff.mp more
      obtain ⟨low, tail, rfl, -, -⟩ := List.map_eq_cons_iff.mp more
      exact (noByte high low tail (toPlus_eq_percent.mp percent) rfl).elim
  | case3 => rfl

/-- Nothing in the text means something else in a form than what it is, but for its spaces. -/
structure FormPlain (text : List Char) : Prop where
  noPair : '&' ∉ text
  noFragment : '#' ∉ text
  noPlus : '+' ∉ text
  noEscape : hasEscape text = false

theorem length_utf8_map_toPlus (text : List Char) :
    (utf8 (text.map toPlus)).length = (utf8 text).length := by
  induction text with
  | nil => rfl
  | cons c text ih =>
      have same : (String.utf8EncodeChar (toPlus c)).length = (String.utf8EncodeChar c).length := by
        unfold toPlus
        split
        case isTrue space =>
            rw [eq_of_beq space]
            rfl
        case isFalse => rfl
      simp [ih, same]

theorem fromPlus_toPlus_eq {c : Char} : fromPlus (toPlus c) = c ↔ c ≠ '+' := by
  by_cases space : c = ' '
  · subst space
    decide
  · by_cases plus : c = '+'
    · subst plus
      decide
    · simp [fromPlus, toPlus, space, plus]

/-- Behind a value comes the next pair or the fragment. -/
def inValue (c : Char) : Bool := c != '&' && c != '#'

theorem FormPlain.inValue_toPlus {text : List Char} (plain : FormPlain text) :
    ∀ c ∈ text.map toPlus, inValue c = true := by
  intro written mapped
  obtain ⟨c, inside, rfl⟩ := List.mem_map.mp mapped
  have noPair : c ≠ '&' := fun same => plain.noPair (same ▸ inside)
  have noFragment : c ≠ '#' := fun same => plain.noFragment (same ▸ inside)
  unfold toPlus
  split
  · decide
  · simp [inValue, noPair, noFragment]

/-- Cutting the value short or reading an escape in it loses bytes. -/
theorem whole_of_formBytes_value {text : List Char}
    (same : formBytes ((text.map toPlus).takeWhile inValue) = utf8 text) :
    (text.map toPlus).takeWhile inValue = text.map toPlus ∧ hasEscape text = false := by
  have split := List.takeWhile_append_dropWhile (p := inValue) (l := text.map toPlus)
  have lengths := congrArg List.length (congrArg utf8 split)
  have size := length_utf8_map_toPlus text
  have decoded := length_formBytes_le ((text.map toPlus).takeWhile inValue)
  rw [utf8_append, List.length_append] at lengths
  rw [same] at decoded
  have lost : utf8 ((text.map toPlus).dropWhile inValue) = [] :=
    List.eq_nil_of_length_eq_zero (by omega)
  have whole : (text.map toPlus).takeWhile inValue = text.map toPlus := by
    rwa [utf8_eq_nil_iff.mp lost, List.append_nil] at split
  refine ⟨whole, Bool.eq_false_iff.mpr fun escape => ?_⟩
  have shorter := length_formBytes_lt ((hasEscape_map_toPlus text).trans escape)
  rw [← whole, same, whole, size] at shorter
  exact Nat.lt_irrefl _ shorter

/-- The value whose spaces are written as pluses is read back exactly if nothing else in it
has a meaning of its own. -/
theorem formBytes_value_iff (text : List Char) :
    formBytes ((text.map toPlus).takeWhile inValue) = utf8 text ↔ FormPlain text := by
  constructor
  · intro same
    obtain ⟨whole, noEscape⟩ := whole_of_formBytes_value same
    have valued : ∀ c ∈ text.map toPlus, inValue c = true := List.takeWhile_eq_self_iff.mp whole
    have read : text.map (fromPlus ∘ toPlus) = text.map id := by
      rw [← List.map_map, List.map_id, ← utf8_inj,
        ← formBytes_of_no_escape ((hasEscape_map_toPlus text).trans noEscape), ← whole, same]
    rw [List.map_inj_left] at read
    exact
      { noPair := fun inside => absurd (valued _ (List.mem_map_of_mem inside)) (by decide)
        noFragment := fun inside => absurd (valued _ (List.mem_map_of_mem inside)) (by decide)
        noPlus := fun inside => fromPlus_toPlus_eq.mp (read '+' inside) rfl
        noEscape := noEscape }
  · intro plain
    rw [List.takeWhile_eq_self_iff.mpr plain.inValue_toPlus,
      formBytes_of_no_escape ((hasEscape_map_toPlus text).trans plain.noEscape), List.map_map]
    congr 1
    refine (List.map_congr_left fun c inside => ?_).trans (List.map_id text)
    exact fromPlus_toPlus_eq.mpr fun plus => plain.noPlus (plus ▸ inside)

/-! ## Reading an address -/

/-- What stands before the first separator, and what stands behind it. -/
def before (separator : Char) (text : List Char) : List Char := text.takeWhile (· != separator)

def behind (separator : Char) (text : List Char) : List Char :=
  (text.dropWhile (· != separator)).tail

def queryOf (url : List Char) : List Char := behind '?' (before '#' url)

/-- The bytes of the first parameter of that name. -/
def parameter? (name url : List Char) : Option (List UInt8) :=
  ((queryOf url).splitOn '&').findSome? fun pair =>
    if formBytes (before '=' pair) = utf8 name then some (formBytes (behind '=' pair)) else none

theorem splitOn_eq_before (separator : Char) (text : List Char) :
    ∃ others, text.splitOn separator = before separator text :: others := by
  induction text with
  | nil => exact ⟨[], rfl⟩
  | cons c text ih =>
      obtain ⟨others, first⟩ := ih
      rw [List.splitOn_cons_eq_if_modifyHead, first, before]
      by_cases stop : c = separator
      · simp [stop, before]
      · simp [stop, before]

section Separator

variable {separator : Char} {text : List Char}

theorem before_append (clear : separator ∉ text) (rest : List Char) :
    before separator (text ++ rest) = text ++ before separator rest := by
  refine List.takeWhile_append_of_pos fun c inside => ?_
  rw [bne_iff_ne]
  exact fun same => clear (same ▸ inside)

theorem before_cons {c : Char} (other : c ≠ separator) (rest : List Char) :
    before separator (c :: rest) = c :: before separator rest :=
  List.takeWhile_cons_of_pos (bne_iff_ne.mpr other)

theorem before_separator (clear : separator ∉ text) (rest : List Char) :
    before separator (text ++ separator :: rest) = text := by
  rw [before_append clear]
  simp [before]

theorem behind_separator (clear : separator ∉ text) (rest : List Char) :
    behind separator (text ++ separator :: rest) = rest := by
  unfold behind
  rw [List.dropWhile_append_of_pos]
  · simp
  · intro c inside
    rw [bne_iff_ne]
    exact fun same => clear (same ▸ inside)

end Separator

theorem before_before (value : List Char) :
    before '&' (before '#' value) = value.takeWhile inValue := by
  unfold before inValue
  rw [List.takeWhile_takeWhile]
  congr 1
  funext c
  rw [Bool.eq_iff_iff]
  simp

/-- The first parameter of a query ends with the pair or with the query. -/
theorem parameter?_first {site name : List Char} (value : List Char) (noQuery : '?' ∉ site)
    (siteOnly : '#' ∉ site) (nameOnly : '#' ∉ name) (single : '&' ∉ name) (bare : '=' ∉ name)
    (plain : formBytes name = utf8 name) :
    parameter? name (site ++ '?' :: (name ++ '=' :: value)) =
      some (formBytes (value.takeWhile inValue)) := by
  have query : queryOf (site ++ '?' :: (name ++ '=' :: value)) =
      name ++ '=' :: before '#' value := by
    rw [queryOf, before_append siteOnly, before_cons (by decide), before_append nameOnly,
      before_cons (by decide), behind_separator noQuery]
  obtain ⟨others, pairs⟩ := splitOn_eq_before '&' (name ++ '=' :: before '#' value)
  rw [before_append single, before_cons (by decide), before_before] at pairs
  rw [parameter?, query, pairs, List.findSome?_cons, before_separator bare, if_pos plain,
    behind_separator bare]

end Library
