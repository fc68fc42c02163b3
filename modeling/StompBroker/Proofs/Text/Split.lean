import Mathlib.Data.List.Basic
import StompBroker.Text.Split

/-!
# Where texts are cut

The cut at the first separator is the only one whose front holds no separator
(`splitOnce?_eq_some_iff`), and what is left behind a known start is what joins to the text with it
(`stripStart?_eq_some_iff`), or in front of a known ending (`stripEnd?_eq_some_iff`). A text is the
join of its parts (`intercalate_split`), and parts that hold no separator are the parts of their
join (`split_intercalate`), so a text has one way to be cut (`split_eq_iff`).
-/

set_option autoImplicit false

namespace StompBroker.Text

theorem splitCharsOnce?_eq_some_iff {separator : Char} {chars front back : List Char} :
    splitCharsOnce? separator chars = some (front, back) ↔
      separator ∉ front ∧ chars = front ++ separator :: back := by
  unfold splitCharsOnce?
  constructor
  · intro h
    have hparts := List.takeWhile_append_dropWhile (p := (· != separator)) (l := chars)
    split at h
    · cases h
    · rename_i c rest hdrop
      cases h
      have hc : c = separator := by
        have hhead := List.head?_dropWhile_not (p := (· != separator)) chars
        simpa [hdrop] using hhead
      rw [hdrop, hc] at hparts
      refine ⟨fun hmem ↦ ?_, hparts.symm⟩
      simpa using List.all_eq_true.mp List.all_takeWhile _ hmem
  · rintro ⟨hfront, rfl⟩
    have hall : ∀ c ∈ front, (c != separator) = true := by
      intro c hmem
      simp only [bne_iff_ne, ne_eq]
      rintro rfl
      exact hfront hmem
    rw [List.dropWhile_append_of_pos hall, List.takeWhile_append_of_pos hall]
    simp

/-- The first separator is the one with none before it. -/
theorem splitOnce?_eq_some_iff {separator : Char} {text front back : String} :
    splitOnce? separator text = some (front, back) ↔
      separator ∉ front.toList ∧ text = front ++ String.singleton separator ++ back := by
  have hjoin : text = front ++ String.singleton separator ++ back ↔
      text.toList = front.toList ++ separator :: back.toList := by
    rw [← String.toList_inj]
    simp
  rw [hjoin, ← splitCharsOnce?_eq_some_iff, splitOnce?, Option.map_eq_some_iff]
  constructor
  · rintro ⟨⟨frontChars, backChars⟩, hsplit, hparts⟩
    cases hparts
    simpa using hsplit
  · intro hsplit
    exact ⟨_, hsplit, by simp⟩

theorem stripStart?_eq_some_iff {start text rest : String} :
    stripStart? start text = some rest ↔ text = start ++ rest := by
  rw [stripStart?, Option.map_eq_some_iff, ← String.toList_inj, String.toList_append]
  constructor
  · rintro ⟨chars, hchars, rfl⟩
    rw [List.isPrefixOf?_eq_some_iff_append_eq] at hchars
    simpa using hchars.symm
  · intro h
    refine ⟨rest.toList, ?_, by simp⟩
    rw [List.isPrefixOf?_eq_some_iff_append_eq]
    exact h.symm

theorem stripEnd?_eq_some_iff {ending text rest : String} :
    stripEnd? ending text = some rest ↔ text = rest ++ ending := by
  rw [stripEnd?, Option.map_eq_some_iff, ← String.toList_inj, String.toList_append]
  simp only [List.isSuffixOf?, Option.map_eq_some_iff, List.isPrefixOf?_eq_some_iff_append_eq]
  constructor
  · rintro ⟨chars, ⟨reversed, hchars, rfl⟩, rfl⟩
    rw [String.toList_ofList, ← List.reverse_inj, List.reverse_append, List.reverse_reverse]
    exact hchars.symm
  · intro h
    refine ⟨rest.toList, ⟨rest.toList.reverse, ?_, List.reverse_reverse _⟩, String.ofList_toList⟩
    rw [h, List.reverse_append]

theorem occurs_iff {part chars : List Char} : occurs part chars = true ↔ part <:+: chars := by
  induction chars with
  | nil => rw [occurs, List.isEmpty_iff, List.infix_nil]
  | cons c chars ih => rw [occurs, Bool.or_eq_true, List.isPrefixOf_iff_prefix, ih,
      List.infix_cons_iff]

/-! ### Cuts at every separator -/

theorem splitCharsFrom_eq_splitOnPPrepend (separator : Char) (part chars : List Char) :
    splitCharsFrom separator part chars = chars.splitOnPPrepend (· == separator) part := by
  induction chars generalizing part with
  | nil => rfl
  | cons c chars ih =>
    rw [splitCharsFrom, List.splitOnPPrepend, ih, ih]
    simp only [beq_iff_eq]

theorem split_eq_map_splitOn (separator : Char) (text : String) :
    split separator text = (text.toList.splitOn separator).map String.ofList := by
  rw [split, splitCharsFrom_eq_splitOnPPrepend]
  rfl

theorem intercalate_split (separator : Char) (text : String) :
    [separator].intercalate ((split separator text).map String.toList) = text.toList := by
  have hchars : (split separator text).map String.toList = text.toList.splitOn separator := by
    rw [split_eq_map_splitOn, List.map_map]
    simp only [Function.comp_def, String.toList_ofList, List.map_id']
  rw [hchars, List.intercalate_splitOn]

theorem split_intercalate {separator : Char} {parts : List String} (hne : parts ≠ [])
    (hparts : ∀ part ∈ parts, separator ∉ part.toList) :
    split separator (String.ofList ([separator].intercalate (parts.map String.toList))) =
      parts := by
  have hchars : ∀ chars ∈ parts.map String.toList, separator ∉ chars := by
    intro chars hmem
    obtain ⟨part, hpart, rfl⟩ := List.mem_map.mp hmem
    exact hparts part hpart
  have hmap : parts.map String.toList ≠ [] := by
    simpa only [ne_eq, List.map_eq_nil_iff] using hne
  rw [split_eq_map_splitOn, String.toList_ofList, List.splitOn_intercalate separator hchars hmap,
    List.map_map]
  simp only [Function.comp_def, String.ofList_toList, List.map_id']

theorem not_mem_of_mem_splitCharsFrom {separator : Char} {part chars : List Char}
    (hpart : separator ∉ part) : ∀ front ∈ splitCharsFrom separator part chars,
      separator ∉ front := by
  induction chars generalizing part with
  | nil =>
    intro front hmem
    obtain rfl := List.mem_singleton.mp hmem
    rwa [List.mem_reverse]
  | cons c chars ih =>
    intro front hmem
    rw [splitCharsFrom] at hmem
    split at hmem
    · rcases List.mem_cons.mp hmem with rfl | hrest
      · rwa [List.mem_reverse]
      · exact ih List.not_mem_nil front hrest
    · rename_i hc
      refine ih (fun hin ↦ ?_) front hmem
      rcases List.mem_cons.mp hin with rfl | hin
      · exact hc rfl
      · exact hpart hin

theorem not_mem_of_mem_split {separator : Char} {text part : String}
    (h : part ∈ split separator text) : separator ∉ part.toList := by
  obtain ⟨chars, hchars, rfl⟩ := List.mem_map.mp h
  rw [String.toList_ofList]
  exact not_mem_of_mem_splitCharsFrom List.not_mem_nil chars hchars

theorem split_ne_nil (separator : Char) (text : String) : split separator text ≠ [] := by
  rw [split_eq_map_splitOn, ne_eq, List.map_eq_nil_iff]
  exact List.splitOn_ne_nil separator text.toList

/-- The parts of a text are the only ones without a separator that join to the text. -/
theorem split_eq_iff {separator : Char} {text : String} {parts : List String} :
    split separator text = parts ↔
      parts ≠ [] ∧ (∀ part ∈ parts, separator ∉ part.toList) ∧
        text = (String.singleton separator).intercalate parts := by
  constructor
  · rintro rfl
    refine ⟨split_ne_nil separator text, fun _ ↦ not_mem_of_mem_split, ?_⟩
    rw [← String.toList_inj, String.toList_intercalate, String.toList_singleton, intercalate_split]
  · rintro ⟨hne, hparts, rfl⟩
    have hsplit := split_intercalate hne hparts
    rwa [← String.toList_singleton, ← String.toList_intercalate, String.ofList_toList] at hsplit

end StompBroker.Text
