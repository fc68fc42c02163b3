import StompBroker.Http.Access
import StompBroker.Proofs.Text.Split

/-!
# Which requests need a token, and whose

The checks of a request, in the words of its path, its method and its headers. A path needs a token
if it starts like those of the service and like none that is exempt (`requiresToken_iff`). A token
is shown by what follows the word `Bearer` in a header, unless that is blank
(`bearerToken?_eq_some_iff`). A user is let through if every rule about the request lists the user
(`isAllowed_iff`), so rules only ever take something away, and where there is none everybody may.
-/

set_option autoImplicit false

namespace StompBroker

theorem Text.startsWith_iff {start text : String} :
    Text.startsWith start text = true ↔ start.toList <+: text.toList :=
  List.isPrefixOf_iff_prefix

namespace AccessSettings

/-- The path starts like those of the service, but not like those of the login, nor like one that is
declared open. -/
structure NeedsToken (settings : AccessSettings) (path : String) : Prop where
  guarded : guardedStart.toList <+: path.toList
  not_login : ∀ start ∈ loginStarts, ¬start.toList <+: path.toList
  not_open : ∀ start ∈ settings.openStarts, start ≠ "" → ¬start.toList <+: path.toList

theorem requiresToken_iff {settings : AccessSettings} {path : String} :
    settings.requiresToken path = true ↔ settings.NeedsToken path := by
  have hopen : (settings.openStarts.any fun start ↦
      !start.isEmpty && Text.startsWith start path) = false ↔
        ∀ start ∈ settings.openStarts, start ≠ "" → ¬start.toList <+: path.toList := by
    simp only [List.any_eq_false, Bool.and_eq_true, Bool.not_eq_true', String.isEmpty_eq_false_iff,
      Text.startsWith_iff, not_and]
  have hlogin : (loginStarts.any fun start ↦ Text.startsWith start path) = false ↔
      ∀ start ∈ loginStarts, ¬start.toList <+: path.toList := by
    simp only [List.any_eq_false, Text.startsWith_iff]
  rw [requiresToken, Bool.and_eq_true, Bool.and_eq_true, Bool.not_eq_true', Bool.not_eq_true',
    hopen, hlogin, Text.startsWith_iff]
  constructor
  · rintro ⟨⟨hguarded, hlogin⟩, hopen⟩
    exact ⟨hguarded, hlogin, hopen⟩
  · rintro ⟨hguarded, hlogin, hopen⟩
    exact ⟨⟨hguarded, hlogin⟩, hopen⟩

/-- Every rule about the path and the method lists the user. -/
def Permits (settings : AccessSettings) (method path username : String) : Prop :=
  ∀ rule ∈ settings.rules, rule.pathStart.toList <+: path.toList →
    (rule.methods = [] ∨ ∃ listed ∈ rule.methods, Request.lower listed = Request.lower method) →
    username ∈ rule.users

theorem isAllowed_iff {settings : AccessSettings} {method path username : String} :
    settings.isAllowed method path username = true ↔ settings.Permits method path username := by
  have hconcerns (rule : AccessRule) : rule.concerns method path = true ↔
      rule.pathStart.toList <+: path.toList ∧
        (rule.methods = [] ∨
          ∃ listed ∈ rule.methods, Request.lower listed = Request.lower method) := by
    simp only [AccessRule.concerns, Bool.and_eq_true, Bool.or_eq_true, Text.startsWith_iff,
      List.isEmpty_iff, List.any_eq_true, beq_iff_eq]
  simp only [isAllowed, List.all_eq_true, List.mem_filter, hconcerns, List.contains_iff_mem,
    Permits, and_imp]

end AccessSettings

namespace Request

/-- The request shows the token: it follows the word for it in the header, between blanks or not,
and is not blank. -/
def Shows (request : Request) (token : String) : Prop :=
  ∃ rest, request.headerText? "authorization" = some ("Bearer " ++ rest) ∧
    Text.trim rest = token ∧ token ≠ ""

theorem trimmed?_eq_some_iff {value left : String} :
    trimmed? value = some left ↔ Text.trim value = left ∧ left ≠ "" := by
  unfold trimmed?
  by_cases hempty : (Text.trim value).isEmpty = true
  · rw [if_pos hempty]
    rw [String.isEmpty_iff] at hempty
    constructor
    · intro hnone
      cases hnone
    · rintro ⟨rfl, hne⟩
      exact absurd hempty hne
  · rw [if_neg hempty, Option.some.injEq]
    rw [String.isEmpty_iff] at hempty
    constructor
    · rintro rfl
      exact ⟨rfl, hempty⟩
    · exact And.left

theorem bearerToken?_eq_some_iff {request : Request} {token : String} :
    request.bearerToken? = some token ↔ request.Shows token := by
  unfold bearerToken? Shows
  constructor
  · intro h
    obtain ⟨rest, hstripped, htrimmed⟩ := Option.bind_eq_some_iff.mp h
    obtain ⟨text, htext, hrest⟩ := Option.bind_eq_some_iff.mp hstripped
    rw [Text.stripStart?_eq_some_iff] at hrest
    rw [hrest] at htext
    exact ⟨rest, htext, trimmed?_eq_some_iff.mp htrimmed⟩
  · rintro ⟨rest, htext, hshown⟩
    have hrest : Text.stripStart? "Bearer " ("Bearer " ++ rest) = some rest :=
      Text.stripStart?_eq_some_iff.mpr rfl
    rw [htext, Option.bind_some, hrest, Option.bind_some]
    exact trimmed?_eq_some_iff.mpr hshown

end Request

end StompBroker
