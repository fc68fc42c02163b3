import Mathlib.Data.List.Induction
import StompBroker.Frame.Version

/-!
# Agreeing on a version

A client's list names a version if one of its entries is the version's number, blanks at either end
apart. The version that both sides agree on is the newest that the list names, and the newest of all
if there is no list (`negotiate_eq_some_iff`).
-/

set_option autoImplicit false

namespace StompBroker.Version

variable {version : Version} {versions : List Version}

theorem ofText?_eq_some_iff {number : String} :
    ofText? number = some version ↔ number = version.text := by
  unfold ofText?
  constructor
  · intro h
    split at h
    · cases h
      simp_all [text]
    split at h
    · cases h
      simp_all [text]
    split at h
    · cases h
      simp_all [text]
    · cases h
  · rintro rfl
    cases version <;> decide

theorem age_injective {left right : Version} (h : left.age = right.age) : left = right := by
  cases left <;> cases right <;> first | rfl | cases h

theorem newer_eq_or (left right : Version) :
    left.newer right = left ∨ left.newer right = right := by
  unfold newer
  split
  · exact .inr rfl
  · exact .inl rfl

theorem age_newer (left right : Version) : (left.newer right).age = max left.age right.age := by
  unfold newer
  split <;> omega

theorem newest?_concat (versions : List Version) (version : Version) :
    newest? (versions ++ [version]) =
      some ((newest? versions).elim version fun best ↦ best.newer version) := by
  unfold newest?
  rw [List.foldl_append]
  rfl

/-- A list that is not empty has a version that is in the list and not older than any other. -/
theorem exists_newest? (hne : versions ≠ []) :
    ∃ best, newest? versions = some best ∧ best ∈ versions ∧
      ∀ other ∈ versions, other.age ≤ best.age := by
  induction versions using List.reverseRecOn with
  | nil => exact absurd rfl hne
  | append_singleton versions last ih =>
    rw [newest?_concat]
    by_cases hempty : versions = []
    · subst hempty
      exact ⟨last, rfl, by simp, by simp⟩
    · obtain ⟨best, hbest, hmem, hle⟩ := ih hempty
      have hage := age_newer best last
      refine ⟨best.newer last, by rw [hbest]; rfl, ?_, fun other hother ↦ ?_⟩
      · rcases newer_eq_or best last with heq | heq
        · rw [heq]
          exact List.mem_append_left _ hmem
        · rw [heq]
          exact List.mem_append_right _ (List.mem_singleton_self last)
      · rcases List.mem_append.mp hother with hother | hother
        · have hbound := hle other hother
          omega
        · obtain rfl := List.mem_singleton.mp hother
          omega

theorem newest?_eq_some_iff :
    newest? versions = some version ↔
      version ∈ versions ∧ ∀ other ∈ versions, other.age ≤ version.age := by
  constructor
  · intro h
    have hne : versions ≠ [] := by
      rintro rfl
      cases h
    obtain ⟨best, hbest, hmem, hle⟩ := exists_newest? hne
    rw [h] at hbest
    cases hbest
    exact ⟨hmem, hle⟩
  · rintro ⟨hversion, hnewest⟩
    obtain ⟨best, hbest, hmem, hle⟩ := exists_newest? (List.ne_nil_of_mem hversion)
    have hage := Nat.le_antisymm (hnewest best hmem) (hle version hversion)
    rw [hbest, age_injective hage]

/-- A comma-separated list names a version. -/
def Named (list : String) (version : Version) : Prop :=
  ∃ entry ∈ Text.split ',' list, Text.trim entry = version.text

/-- The newest version that a list names, and the newest of all without a list. -/
def Agreed : Option String → Version → Prop
  | none, version => version = .v12
  | some list, version => Named list version ∧ ∀ other, Named list other → other.age ≤ version.age

theorem mem_filterMap_ofText?_iff {list : String} :
    (version ∈ (Text.split ',' list).filterMap fun entry ↦ ofText? (Text.trim entry)) ↔
      Named list version := by
  simp only [List.mem_filterMap, ofText?_eq_some_iff, Named]

theorem negotiate_eq_some_iff {offered : Option String} :
    negotiate offered = some version ↔ Agreed offered version := by
  cases offered with
  | none => simp [negotiate, Agreed, eq_comm]
  | some list => simp only [negotiate, Agreed, newest?_eq_some_iff, mem_filterMap_ofText?_iff]

end StompBroker.Version
