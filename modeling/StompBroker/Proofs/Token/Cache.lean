import StompBroker.Proofs.Session.Rows
import StompBroker.Token.Cache

/-!
# Which keys are live

A key is `Live` at an instant if the cache holds it with a later expiry. That is what `contains`
tells (`contains_eq_true_iff`), and dropping a key that has expired takes nothing away from any
later instant (`live_contains_iff`). Keeping a key decides only about this key, and so does removing
one (`live_set_iff`, `live_remove_iff`).

The expiry of a key grows with the clock (`expiry_mono`). An instant before the end of time at which
a token is still valid lies before the expiry that came with the token, although one counts seconds
and the other milliseconds (`lt_expiry`).
-/

set_option autoImplicit false

namespace StompBroker.LivenessCache

/-- The cache holds the key, which expires later. -/
def Live (cache : LivenessCache) (clock : Clock) (key : String) : Prop :=
  ∃ expiry, cache.entries.lookup key = some expiry ∧ clock.millis < expiry

theorem lookup_drop (cache : LivenessCache) (key other : String) :
    (cache.drop key).entries.lookup other =
      if key = other then none else cache.entries.lookup other :=
  Rows.lookup_filter_ne cache.entries

theorem lookup_set (cache : LivenessCache) (clock : Clock) (key other : String) (seconds : Nat) :
    (cache.set clock key seconds).entries.lookup other =
      if key = other then some (expiry clock seconds) else cache.entries.lookup other := by
  rw [set, List.lookup_append, lookup_drop, Rows.lookup_cons, List.lookup_nil]
  by_cases hother : key = other
  · rw [if_pos hother, if_pos hother, if_pos hother, Option.none_or]
  · rw [if_neg hother, if_neg hother, if_neg hother, Option.or_none]

/-! ### What the operations do to live keys -/

theorem live_set_iff (cache : LivenessCache) (clock later : Clock) (key other : String)
    (seconds : Nat) :
    (cache.set clock key seconds).Live later other ↔
      if key = other then later.millis < expiry clock seconds else cache.Live later other := by
  unfold Live
  rw [lookup_set]
  by_cases hother : key = other
  · simp [hother]
  · simp [hother]

theorem live_remove_iff (cache : LivenessCache) (later : Clock) (key other : String) :
    (cache.remove key).2.Live later other ↔ key ≠ other ∧ cache.Live later other := by
  unfold Live
  rw [remove, lookup_drop]
  by_cases hother : key = other
  · simp [hother]
  · simp [hother]

theorem contains_eq_true_iff (cache : LivenessCache) (clock : Clock) (key : String) :
    (cache.contains clock key).1 = true ↔ cache.Live clock key := by
  unfold contains Live
  cases cache.entries.lookup key with
  | none => simp
  | some expiry => by_cases hlive : clock.millis < expiry <;> simp [hlive]

/-- A look-up takes no key away that would be live later. -/
theorem live_contains_iff {cache : LivenessCache} {clock later : Clock}
    (h : clock.millis ≤ later.millis) (key other : String) :
    (cache.contains clock key).2.Live later other ↔ cache.Live later other := by
  unfold contains
  cases hfound : cache.entries.lookup key with
  | none => rfl
  | some expiry =>
    by_cases hlive : clock.millis < expiry
    · simp only [if_pos hlive]
    · simp only [if_neg hlive, Live, lookup_drop]
      by_cases hother : key = other
      · subst hother
        simp only [if_true, hfound, Option.some.injEq]
        constructor
        · rintro ⟨_, hnone, -⟩
          cases hnone
        · rintro ⟨_, rfl, hlater⟩
          omega
      · simp only [if_neg hother]

/-! ### Expiry -/

theorem expiry_mono {earlier later : Clock} (h : earlier.millis ≤ later.millis) (seconds : Nat) :
    expiry earlier seconds ≤ expiry later seconds := by
  unfold expiry clamp64
  omega

/-- A key that is kept a second longer than a token lasts is live as long as the token is valid. -/
theorem lt_expiry {issued now : Clock} {seconds : Nat} (hstart : 0 ≤ issued.millis)
    (hend : now.millis < maxInt64)
    (hvalid : now.seconds ≤ clamp64 (issued.seconds + min (seconds : Int) maxInt64)) :
    now.millis < expiry issued (min (seconds + 1) maxUnsigned64) := by
  unfold Clock.seconds clamp64 maxInt64 minInt64 at hvalid
  unfold expiry lifetime clamp64 maxUnsigned64 minInt64
  unfold maxInt64 at hend ⊢
  omega

end StompBroker.LivenessCache
