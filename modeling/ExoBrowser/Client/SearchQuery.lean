import ExoBrowser.Client.UrlProperties
import ExoBrowser.Library.FormQuery

/-!
# Searches

What the search engine reads in the address that the omnibox makes of a query.
-/

set_option autoImplicit false

namespace ExoBrowser.Client

open Library

/-- The text is searched for, with a space in it or without. -/
def Searched (raw : List Char) : Prop :=
  trim raw ≠ [] ∧
    (' ' ∈ trim raw ∨
      isLocalhost (trim raw) = false ∧ hasScheme (trim raw) = false ∧ '.' ∉ trim raw)

instance (raw : List Char) : Decidable (Searched raw) :=
  inferInstanceAs (Decidable (_ ∧ _))

/-- Both searches write the spaces as pluses: the second has none. -/
theorem Searched.canonicalizeChars_eq {raw : List Char} (searched : Searched raw) :
    canonicalizeChars raw = searchUrl ((trim raw).map toPlus) := by
  obtain ⟨nonempty, kind⟩ := searched
  unfold canonicalizeChars
  simp only [List.isEmpty_iff, nonempty, if_false, List.contains_eq_mem, decide_eq_true_eq]
  split
  case isTrue => rfl
  case isFalse noSpace =>
      obtain ⟨notLocal, noScheme, noDot⟩ := kind.resolve_left noSpace
      have same : (trim raw).map toPlus = trim raw := by
        refine (List.map_congr_left fun c inside => ?_).trans (List.map_id _)
        have other : c ≠ ' ' := fun space => noSpace (space ▸ inside)
        exact if_neg (by simpa using other)
      simp [notLocal, noScheme, noDot, same]

theorem searchUrl_eq_pair (query : List Char) :
    searchUrl query = "https://duckduckgo.com/".toList ++ '?' :: (['q'] ++ '=' :: query) := by
  have site : "https://duckduckgo.com/?q=".toList =
      "https://duckduckgo.com/".toList ++ ['?', 'q', '='] := by decide
  exact (congrArg (· ++ query) site).trans (List.append_assoc _ _ _)

/-- What the search engine takes for the query. -/
def searchedFor (url : String) : Option (List UInt8) := parameter? ['q'] url.toList

theorem searchedFor_of_searched {raw : String} (searched : Searched raw.toList) :
    searchedFor (canonicalizeUrl raw) =
      some (formBytes (((trim raw.toList).map toPlus).takeWhile inValue)) := by
  unfold searchedFor canonicalizeUrl
  rw [String.toList_ofList, searched.canonicalizeChars_eq, searchUrl_eq_pair]
  exact parameter?_first _ (by decide) (by decide) (by decide) (by decide) (by decide) rfl

/-- The search engine reads what was typed exactly if that has nothing in it that means
something else in a form. Then another such text makes another search. -/
theorem searchedFor_iff (raw : String) (searched : Searched raw.toList) :
    (searchedFor (canonicalizeUrl raw) = some (utf8 (trim raw.toList)) ↔
      FormPlain (trim raw.toList)) ∧
    (FormPlain (trim raw.toList) → ∀ other : String, Searched other.toList →
      FormPlain (trim other.toList) → trim other.toList ≠ trim raw.toList →
      searchedFor (canonicalizeUrl other) ≠ searchedFor (canonicalizeUrl raw)) := by
  have exact_iff : ∀ {text : String}, Searched text.toList →
      (searchedFor (canonicalizeUrl text) = some (utf8 (trim text.toList)) ↔
        FormPlain (trim text.toList)) := by
    intro text searched
    rw [searchedFor_of_searched searched, Option.some.injEq, formBytes_value_iff]
  refine ⟨exact_iff searched, fun plain other otherSearched otherPlain different same => ?_⟩
  rw [(exact_iff searched).mpr plain, (exact_iff otherSearched).mpr otherPlain,
    Option.some.injEq, utf8_inj] at same
  exact different same

theorem searchedFor_iff_words :
    searchedFor (canonicalizeUrl "rust programming") =
      some (utf8 (trim "rust programming".toList)) :=
  (searchedFor_iff "rust programming" (by decide)).1.mpr
    ⟨by decide, by decide, by decide, by decide⟩

/-- The address made of a plus is the one made of a space, and it is read as the space. -/
theorem searchedFor_confuses :
    Searched "a+b".toList ∧ Searched "a b".toList ∧
      searchedFor (canonicalizeUrl "a+b") ≠ some (utf8 (trim "a+b".toList)) ∧
      trim "a+b".toList ≠ trim "a b".toList ∧ canonicalizeUrl "a+b" = canonicalizeUrl "a b" := by
  refine ⟨by decide, by decide, by decide, by decide, ?_⟩
  exact congrArg String.ofList (by decide)

end ExoBrowser.Client
