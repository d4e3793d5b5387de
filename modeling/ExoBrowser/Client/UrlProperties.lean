import ExoBrowser.Client.Url
import Mathlib.Data.List.DropRight

/-!
# Addresses are read as themselves

What `canonicalizeUrl` makes of a text is an address, and an address stays as it is.
-/

set_option autoImplicit false

namespace ExoBrowser.Client

/-! ## White space at the ends -/

/-- There is no white space at either end. -/
structure Trimmed (s : List Char) : Prop where
  first : ∀ c ∈ s.head?, isWhitespace c = false
  last : ∀ c ∈ s.getLast?, isWhitespace c = false

theorem trim_eq (s : List Char) :
    trim s = (s.dropWhile isWhitespace).rdropWhile isWhitespace := rfl

theorem Trimmed.trim_eq {s : List Char} (trimmed : Trimmed s) : trim s = s := by
  have front : s.dropWhile isWhitespace = s := by
    cases s with
    | nil => rfl
    | cons c rest =>
        exact List.dropWhile_cons_of_neg (Bool.eq_false_iff.mp (trimmed.first c rfl))
  rw [Client.trim_eq, front, List.rdropWhile_eq_self_iff]
  intro nonempty
  exact Bool.eq_false_iff.mp (trimmed.last _ (List.getLast?_eq_some_getLast nonempty))

/-- What is taken off the end leaves the start alone. -/
theorem trimmed_trim (s : List Char) : Trimmed (trim s) := by
  have kept : trim s <+: s.dropWhile isWhitespace := List.rdropWhile_prefix _ _
  constructor
  · intro c first
    obtain ⟨rest, split⟩ := List.head?_eq_some_iff.mp first
    have nonempty : trim s ≠ [] := split ▸ List.cons_ne_nil c rest
    have same : (trim s).head nonempty = c := by simp only [split, List.head_cons]
    rw [← same, kept.head nonempty]
    exact List.head_dropWhile_not isWhitespace _
  · intro c last
    obtain ⟨nonempty, rfl⟩ := List.mem_getLast?_eq_getLast last
    exact Bool.eq_false_iff.mpr (List.rdropWhile_last_not isWhitespace _ nonempty)

theorem last_append {before after : List Char}
    (lastBefore : ∀ c ∈ before.getLast?, isWhitespace c = false)
    (lastAfter : ∀ c ∈ after.getLast?, isWhitespace c = false) :
    ∀ c ∈ (before ++ after).getLast?, isWhitespace c = false := by
  intro c last
  rw [List.getLast?_append, Option.mem_def, Option.or_eq_some_iff] at last
  rcases last with last | ⟨-, last⟩
  · exact lastAfter c last
  · exact lastBefore c last

/-! ## Schemes -/

def isSchemeChar (c : Char) : Bool :=
  isAsciiAlphabetic c || isAsciiDigit c || c == '+' || c == '-' || c == '.'

/-- A letter, scheme characters and a colon stand before the rest. -/
def Schemed (url : List Char) : Prop :=
  ∃ first before after, url = first :: before ++ ':' :: after ∧
    isAsciiAlphabetic first = true ∧ before.all isSchemeChar = true

theorem Schemed.of_hasScheme {s : List Char} (scheme : hasScheme s = true) : Schemed s := by
  simp only [hasScheme, Bool.and_eq_true, List.contains_eq_mem, decide_eq_true_eq] at scheme
  obtain ⟨colon, ⟨⟨-, -⟩, valid⟩, letter⟩ := scheme
  have split := List.takeWhile_append_dropWhile (p := (· != ':')) (l := s)
  cases start : s.takeWhile (· != ':') with
  | nil => simp [start] at letter
  | cons first before =>
      rw [start] at letter valid split
      cases stop : s.dropWhile (· != ':') with
      | nil =>
          have none_left := List.dropWhile_eq_nil_iff.mp stop ':' colon
          simp at none_left
      | cons c after =>
          have isColon : c = ':' := by
            have refused := List.head_dropWhile_not (· != ':') (l := s) (by simp [stop])
            simpa [stop] using refused
          subst isColon
          refine ⟨first, before, after, ?_, letter, ?_⟩
          · rw [← split, stop]
          · exact (Bool.and_eq_true_iff.mp valid).2

theorem ne_colon_of_isSchemeChar {c : Char} (valid : isSchemeChar c = true) : (c != ':') = true := by
  rw [bne_iff_ne]
  rintro rfl
  exact absurd valid (by decide)

theorem isSchemeChar_of_isAsciiAlphabetic {c : Char} (letter : isAsciiAlphabetic c = true) :
    isSchemeChar c = true := by
  simp [isSchemeChar, letter]

/-- Slashes after the colon leave no room for a port. -/
theorem hasScheme_of_slash {first : Char} {before after : List Char}
    (letter : isAsciiAlphabetic first = true) (valid : before.all isSchemeChar = true) :
    hasScheme (first :: before ++ ':' :: '/' :: after) = true := by
  have allValid : ∀ c ∈ first :: before, isSchemeChar c = true :=
    List.forall_mem_cons.mpr ⟨isSchemeChar_of_isAsciiAlphabetic letter, List.all_eq_true.mp valid⟩
  have noColon : ∀ c ∈ first :: before, (c != ':') = true :=
    fun c inside => ne_colon_of_isSchemeChar (allValid c inside)
  have scheme :
      (first :: before ++ ':' :: '/' :: after).takeWhile (· != ':') = first :: before := by
    rw [List.takeWhile_append_of_pos noColon]
    simp
  have rest :
      (first :: before ++ ':' :: '/' :: after).dropWhile (· != ':') = ':' :: '/' :: after := by
    rw [List.dropWhile_append_of_pos noColon]
    simp
  have allValid' : (first :: before).all isSchemeChar = true := List.all_eq_true.mpr allValid
  unfold isSchemeChar at allValid'
  simp only [hasScheme, scheme, rest, allValid']
  simp [letter]

/-! ## Addresses that stay -/

/-- The conditions under which `canonicalizeChars` returns its argument. -/
structure IsAddress (s : List Char) : Prop where
  nonempty : s ≠ []
  trimmed : Trimmed s
  noSpace : ' ' ∉ s
  notLocal : isLocalhost s = false
  scheme : hasScheme s = true

theorem IsAddress.canonicalizeChars_eq {s : List Char} (address : IsAddress s) :
    canonicalizeChars s = s := by
  unfold canonicalizeChars
  simp [address.trimmed.trim_eq, address.nonempty, address.noSpace, address.notLocal,
    address.scheme]

theorem isLocalhost_of_first {first : Char} {rest : List Char} (notL : first ≠ 'l')
    (notOne : first ≠ '1') : isLocalhost (first :: rest) = false := by
  simp [isLocalhost, List.isPrefixOf, notL.symm, notOne.symm, notL, notOne]

/-- An address of the web: what follows the slashes may be anything that ends well. -/
theorem IsAddress.web (before : List Char) {rest : List Char} (valid : before.all isSchemeChar = true)
    (noSpace : ' ' ∉ rest) (last : ∀ c ∈ rest.getLast?, isWhitespace c = false) :
    IsAddress ('h' :: before ++ ':' :: '/' :: '/' :: rest) where
  nonempty := List.cons_ne_nil _ _
  trimmed := by
    constructor
    · rintro c ⟨⟩
      decide
    · rw [show ':' :: '/' :: '/' :: rest = [':', '/', '/'] ++ rest from rfl, ← List.append_assoc]
      refine last_append ?_ last
      rw [List.getLast?_append]
      rintro c ⟨⟩
      decide
  noSpace := by
    have clear : ' ' ∉ before := by
      intro inside
      exact absurd (List.all_eq_true.mp valid ' ' inside) (by decide)
    simp [clear, noSpace]
  notLocal := isLocalhost_of_first (by decide) (by decide)
  scheme := hasScheme_of_slash (by decide) valid

theorem isAddress_blank : IsAddress "about:blank".toList where
  nonempty := by decide
  trimmed := by
    constructor
    · rintro c ⟨⟩
      decide
    · rintro c ⟨⟩
      decide
  noSpace := by decide
  notLocal := by decide
  scheme := by decide

theorem searchUrl_eq (query : List Char) :
    searchUrl query =
      'h' :: "ttps".toList ++ ':' :: '/' :: '/' :: ("duckduckgo.com/?q=".toList ++ query) := rfl

theorem isAddress_searchUrl {query : List Char} (noSpace : ' ' ∉ query)
    (last : ∀ c ∈ query.getLast?, isWhitespace c = false) : IsAddress (searchUrl query) := by
  rw [searchUrl_eq]
  refine .web _ (by decide) ?_ (last_append ?_ last)
  · rw [List.mem_append, not_or]
    exact ⟨by decide, noSpace⟩
  · rintro c ⟨⟩
    decide

/-- Pluses take the place of the spaces, which do not end the text. -/
theorem isAddress_search_pluses {s : List Char} (trimmed : Trimmed s) :
    IsAddress (searchUrl (s.map fun c => if c == ' ' then '+' else c)) := by
  apply isAddress_searchUrl
  · rw [List.mem_map]
    rintro ⟨c, -, same⟩
    split at same
    case isTrue => exact absurd same (by decide)
    case isFalse other => exact other (beq_iff_eq.mpr same)
  · intro c ends
    rw [List.getLast?_map, Option.mem_def, Option.map_eq_some_iff] at ends
    obtain ⟨last, ends, rfl⟩ := ends
    split
    · decide
    · exact trimmed.last last ends

theorem isAddress_canonicalizeChars (raw : List Char) : IsAddress (canonicalizeChars raw) := by
  have trimmed := trimmed_trim raw
  unfold canonicalizeChars
  generalize trim raw = s at trimmed ⊢
  simp only
  split
  case isTrue => exact isAddress_blank
  case isFalse nonempty =>
  split
  case isTrue => exact isAddress_search_pluses trimmed
  case isFalse spaceless =>
  have noSpace : ' ' ∉ s := by simpa using spaceless
  split
  case isTrue => exact .web "ttp".toList (by decide) noSpace trimmed.last
  case isFalse notLocal =>
  split
  case isTrue scheme =>
      exact ⟨by simpa using nonempty, trimmed, noSpace, Bool.eq_false_iff.mpr notLocal, scheme⟩
  case isFalse =>
  split
  · exact isAddress_searchUrl noSpace trimmed.last
  · exact .web "ttps".toList (by decide) noSpace trimmed.last

/-! ## What the omnibox loads -/

/-- A target to load: it is not empty, has no space in it and no white space around it, and
begins with a scheme. -/
structure IsTarget (url : String) : Prop where
  nonempty : url ≠ ""
  noSpace : ' ' ∉ url.toList
  trimmed : Trimmed url.toList
  schemed : Schemed url.toList

theorem IsAddress.isTarget {s : List Char} (address : IsAddress s) : IsTarget (String.ofList s) where
  nonempty := by simpa using address.nonempty
  noSpace := by simpa using address.noSpace
  trimmed := by simpa using address.trimmed
  schemed := by simpa using Schemed.of_hasScheme address.scheme

/-- Every text is made a target, and a target made so is made into itself. -/
theorem canonicalizeUrl_settles (raw : String) :
    canonicalizeUrl (canonicalizeUrl raw) = canonicalizeUrl raw ∧
      IsTarget (canonicalizeUrl raw) := by
  have address := isAddress_canonicalizeChars raw.toList
  constructor
  · unfold canonicalizeUrl
    rw [String.toList_ofList, address.canonicalizeChars_eq]
  · exact address.isTarget

end ExoBrowser.Client
