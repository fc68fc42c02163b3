import Mathlib.Algebra.Order.Field.Rat
import Mathlib.Tactic.GCongr
import Mathlib.Tactic.Linarith
import Mathlib.Tactic.Positivity
import Mathlib.Tactic.Ring
import StompBroker.RateLimit

/-!
# One bucket

The requests of one client meet one bucket, which is full when the first of them comes:
`Bucket.answers` is what they are told. Tokens are exact numbers here.

A bucket `Holds` between no tokens and its capacity, and a request leaves it so (`Holds.request`).
What a request takes is paid for by the tokens before it and by the time since the last refill
(`tokens_request_le`), and no time is paid for twice: after a request at some instant, a bucket owes
its client no more than the time since (`creditsFrom_request`), also if the request broke off
because 64 bits cannot tell that time. Adding up, the requests that are admitted in a window cost
the tokens at its start and what comes back until its end (`admitted_le_of_prefix`,
`admitted_le_of_infix`).

A client that waits for a whole token each time is never refused (`answers_of_spaced`), and on a
clock whose instants are near enough to each other no request breaks off (`answers_ne_none`).
-/

set_option autoImplicit false

namespace StompBroker.Bucket

section Answers

variable {α : Type} [NatCast α] [Add α] [Sub α] [Mul α] [Div α] [LE α] [DecidableLE α]

/-- What a client is told whose requests come at some instants, each with its instant. -/
def answers (capacity refillPerSecond : α) (bucket? : Option (Bucket α)) :
    List Clock → List (Clock × Option Bool)
  | [] => []
  | now :: later =>
    let bucket := bucket?.getD (full capacity now.millis)
    let served := bucket.request capacity refillPerSecond now.millis
    (now, served.1) :: answers capacity refillPerSecond (some served.2) later

theorem map_fst_answers (capacity refillPerSecond : α) (bucket? : Option (Bucket α))
    (clocks : List Clock) :
    (answers capacity refillPerSecond bucket? clocks).map Prod.fst = clocks := by
  induction clocks generalizing bucket? with
  | nil => rfl
  | cons now later ih => rw [answers, List.map_cons, ih]

end Answers

variable {capacity rate : ℚ} {bucket : Bucket ℚ} {now : Int}

/-! ### The tokens in a bucket -/

/-- The bucket has at least no tokens, and at most as many as it may have. -/
structure Holds (capacity : ℚ) (bucket : Bucket ℚ) : Prop where
  nonneg : 0 ≤ bucket.tokens
  le_capacity : bucket.tokens ≤ capacity

theorem cap_eq_min (capacity amount : ℚ) : cap capacity amount = min amount capacity :=
  (min_def amount capacity).symm

theorem refill_of_ne_zero (capacity rate : ℚ) (now : Int) {elapsed : ℕ} (h : elapsed ≠ 0)
    (bucket : Bucket ℚ) :
    bucket.refill capacity rate now elapsed =
      ⟨min (bucket.tokens + elapsed * rate / 1000) capacity, now⟩ := by
  rw [← cap_eq_min]
  exact if_neg h

theorem refill_zero (capacity rate : ℚ) (now : Int) (bucket : Bucket ℚ) :
    bucket.refill capacity rate now 0 = bucket :=
  rfl

/-- The bucket that a request meets is that of its client, or a full one. -/
theorem holds_getD (hcapacity : 0 ≤ capacity) {bucket? : Option (Bucket ℚ)}
    (h : ∀ bucket ∈ bucket?, bucket.Holds capacity) (now : Int) :
    (bucket?.getD (full capacity now)).Holds capacity := by
  cases bucket? with
  | none => exact ⟨hcapacity, le_refl capacity⟩
  | some bucket => exact h bucket rfl

theorem Holds.refill (h : bucket.Holds capacity) (hrate : 0 ≤ rate) (now : Int) (elapsed : ℕ) :
    (bucket.refill capacity rate now elapsed).Holds capacity := by
  by_cases helapsed : elapsed = 0
  · rw [helapsed, refill_zero]
    exact h
  · rw [refill_of_ne_zero capacity rate now helapsed]
    have hnonneg := h.nonneg
    exact ⟨le_min (by positivity) (hnonneg.trans h.le_capacity), min_le_right _ _⟩

theorem take_of_le (bucket : Bucket ℚ) (h : 1 ≤ bucket.tokens) :
    bucket.take = (true, { bucket with tokens := bucket.tokens - 1 }) := by
  unfold take
  rw [if_pos (by simpa using h), Nat.cast_one]

theorem take_of_lt (h : bucket.tokens < 1) : bucket.take = (false, bucket) := by
  unfold take
  rw [if_neg (by simpa using h)]

theorem Holds.take (h : bucket.Holds capacity) : bucket.take.2.Holds capacity := by
  rcases le_or_gt 1 bucket.tokens with hwhole | hpart
  · rw [take_of_le bucket hwhole]
    exact ⟨sub_nonneg.mpr hwhole, (sub_le_self _ zero_le_one).trans h.le_capacity⟩
  · rw [take_of_lt hpart]
    exact h

/-- A request breaks off where the time cannot be told, and takes a token otherwise. -/
theorem request_cases (capacity rate : ℚ) (now : Int) (bucket : Bucket ℚ) :
    bucket.age? now = none ∧ bucket.request capacity rate now = (none, bucket) ∨
      ∃ age : ℤ, bucket.age? now = some age ∧ bucket.request capacity rate now =
        (some (bucket.refill capacity rate now age.toNat).take.1,
          (bucket.refill capacity rate now age.toNat).take.2) := by
  unfold request
  cases bucket.age? now with
  | none => exact .inl ⟨rfl, rfl⟩
  | some age => exact .inr ⟨age, rfl, rfl⟩

/-- A request leaves a bucket with no less than nothing and no more than it may hold. -/
theorem Holds.request (h : bucket.Holds capacity) (hrate : 0 ≤ rate) (now : Int) :
    (bucket.request capacity rate now).2.Holds capacity := by
  rcases request_cases capacity rate now bucket with ⟨-, hrequest⟩ | ⟨age, -, hrequest⟩
  · rw [hrequest]
    exact h
  · rw [hrequest]
    exact (h.refill hrate now age.toNat).take

/-- What a request costs. -/
def cost (answer : Option Bool) : ℚ := if answer = some true then 1 else 0

/-- A token that is taken is missing afterwards. -/
theorem tokens_take_add_cost (bucket : Bucket ℚ) :
    bucket.take.2.tokens + cost (some bucket.take.1) = bucket.tokens := by
  rcases le_or_gt 1 bucket.tokens with hwhole | hpart
  · rw [take_of_le bucket hwhole]
    simp [cost]
  · rw [take_of_lt hpart]
    simp [cost]

/-- How much time counts for a request: none if the clock ran backwards, or further than 64 bits can
tell. -/
def elapsed (bucket : Bucket ℚ) (now : Int) : ℕ := ((bucket.age? now).getD 0).toNat

/-- The time counts if it can be told. -/
theorem elapsed_cases (bucket : Bucket ℚ) (now : Int) :
    InWord (now - bucket.refilled) ∧ bucket.elapsed now = (now - bucket.refilled).toNat ∨
      ¬InWord (now - bucket.refilled) ∧ bucket.elapsed now = 0 := by
  unfold elapsed age? checked64
  split_ifs with htold
  · exact .inl ⟨htold, rfl⟩
  · exact .inr ⟨htold, rfl⟩

/-- The tokens before a request and the time since the last refill pay for it. -/
theorem tokens_request_le (capacity rate : ℚ) (now : Int) (bucket : Bucket ℚ) :
    (bucket.request capacity rate now).2.tokens + cost (bucket.request capacity rate now).1 ≤
      bucket.tokens + bucket.elapsed now * rate / 1000 := by
  rcases request_cases capacity rate now bucket with ⟨hage, hrequest⟩ | ⟨age, hage, hrequest⟩
  · rw [hrequest, elapsed, hage]
    simp [cost]
  · rw [hrequest, tokens_take_add_cost, elapsed, hage, Option.getD_some]
    by_cases helapsed : age.toNat = 0
    · rw [helapsed, refill_zero]
      simp
    · rw [refill_of_ne_zero capacity rate now helapsed]
      exact min_le_left _ _

/-- A request costs no more than a full bucket. -/
theorem tokens_request_le_capacity (h : bucket.Holds capacity) (hrate : 0 ≤ rate) (now : Int) :
    (bucket.request capacity rate now).2.tokens + cost (bucket.request capacity rate now).1 ≤
      capacity := by
  rcases request_cases capacity rate now bucket with ⟨-, hrequest⟩ | ⟨age, -, hrequest⟩
  · rw [hrequest]
    simpa [cost] using h.le_capacity
  · rw [hrequest, tokens_take_add_cost]
    exact (h.refill hrate now age.toNat).le_capacity

/-! ### The time that a bucket is paid for -/

theorem refilled_take (bucket : Bucket ℚ) : bucket.take.2.refilled = bucket.refilled := by
  unfold take
  split_ifs <;> rfl

/-- A request for which no time counts leaves the instant of the last refill, and any other one
becomes that instant. -/
theorem refilled_request (capacity rate : ℚ) (now : Int) (bucket : Bucket ℚ) :
    (bucket.request capacity rate now).2.refilled =
      if bucket.elapsed now = 0 then bucket.refilled else now := by
  rcases request_cases capacity rate now bucket with ⟨hage, hrequest⟩ | ⟨age, hage, hrequest⟩
  · rw [hrequest, elapsed, hage]
    rfl
  · rw [hrequest, elapsed, hage, Option.getD_some, refilled_take]
    by_cases helapsed : age.toNat = 0
    · rw [helapsed, refill_zero, if_pos rfl]
    · rw [refill_of_ne_zero capacity rate now helapsed, if_neg helapsed]

/-- From an instant on, a bucket counts no more time than passes. -/
def CreditsFrom (start : Int) (bucket : Bucket ℚ) : Prop :=
  ∀ later, start ≤ later → (bucket.elapsed later : Int) ≤ later - start

/-- Time counts once: after a request, only what passes from now on is counted. -/
theorem creditsFrom_request (capacity rate : ℚ) (now : Int) (bucket : Bucket ℚ) :
    CreditsFrom now (bucket.request capacity rate now).2 := by
  intro later hpassed
  have hnow := elapsed_cases bucket now
  have hlater := elapsed_cases (bucket.request capacity rate now).2 later
  -- Time that cannot be told now, because too much has passed, cannot be told later either.
  rw [refilled_request] at hlater
  simp only [InWord, minInt64, maxInt64] at hnow hlater
  split_ifs at hlater <;> omega

/-! ### Windows of requests -/

/-- How many of the requests were admitted. -/
def admitted (window : List (Clock × Option Bool)) : ℕ :=
  window.countP fun answer ↦ answer.2 = some true

theorem admitted_cons (instant : Clock) (answer : Option Bool)
    (window : List (Clock × Option Bool)) :
    (admitted ((instant, answer) :: window) : ℚ) = cost answer + admitted window := by
  unfold admitted cost
  rw [List.countP_cons, Nat.cast_add, add_comm]
  simp

/-- What comes back in some time. -/
def gain (rate : ℚ) (start stop : Int) : ℚ := rate * (stop - start) / 1000

theorem gain_mono (hrate : 0 ≤ rate) {start start' stop stop' : Int} (hstart : start ≤ start')
    (hstop : stop' ≤ stop) : gain rate start' stop' ≤ gain rate start stop := by
  have hstart' : (start : ℚ) ≤ start' := Int.cast_le.mpr hstart
  have hstop' : (stop' : ℚ) ≤ stop := Int.cast_le.mpr hstop
  unfold gain
  gcongr

theorem gain_nonneg (hrate : 0 ≤ rate) {start stop : Int} (h : start ≤ stop) :
    0 ≤ gain rate start stop := by
  have hself : gain rate stop stop = 0 := by simp [gain]
  rw [← hself]
  exact gain_mono hrate h le_rfl

theorem gain_add (rate : ℚ) (start now stop : Int) :
    gain rate start now + gain rate now stop = gain rate start stop := by
  unfold gain
  ring

/-- A bucket gains no more from a request than comes back in the time that it credits. -/
theorem elapsed_mul_le_gain (hrate : 0 ≤ rate) {start : Int} (hcredits : bucket.CreditsFrom start)
    (hnow : start ≤ now) : bucket.elapsed now * rate / 1000 ≤ gain rate start now := by
  have helapsed : (bucket.elapsed now : ℚ) ≤ now - start := by exact_mod_cast hcredits now hnow
  rw [gain, mul_comm rate]
  gcongr

/-- Requests from an instant on are paid for by the tokens at that instant and by those that come
back. -/
theorem admitted_le_of_prefix (hrate : 0 ≤ rate) {bucket : Bucket ℚ} {start stop : Int}
    {clocks : List Clock} {window : List (Clock × Option Bool)} (hholds : bucket.Holds capacity)
    (hcredits : bucket.CreditsFrom start)
    (hordered : (⟨start⟩ :: clocks).Pairwise fun earlier later ↦ earlier.millis ≤ later.millis)
    (hbegins : window <+: answers capacity rate (some bucket) clocks)
    (hstop : ∀ answer ∈ window, answer.1.millis ≤ stop) (hspan : start ≤ stop) :
    (admitted window : ℚ) ≤ bucket.tokens + gain rate start stop := by
  have hempty : ((admitted [] : ℕ) : ℚ) ≤ bucket.tokens + gain rate start stop := by
    rw [admitted, List.countP_nil, Nat.cast_zero]
    exact add_nonneg hholds.nonneg (gain_nonneg hrate hspan)
  induction clocks generalizing bucket start window with
  | nil =>
    rw [List.prefix_nil.mp hbegins]
    exact hempty
  | cons now later ih =>
    obtain ⟨hnow, hlater⟩ := List.pairwise_cons.mp hordered
    rcases List.prefix_cons_iff.mp hbegins with rfl | ⟨rest, rfl, hrest⟩
    · exact hempty
    · have hstart : start ≤ now.millis := hnow now List.mem_cons_self
      have hend : now.millis ≤ stop := hstop _ List.mem_cons_self
      have hafter := hholds.request hrate now.millis
      have hwindow := ih hafter (creditsFrom_request capacity rate now.millis bucket) hlater hrest
        (fun answer hmem ↦ hstop answer (List.mem_cons_of_mem _ hmem)) hend
        (add_nonneg hafter.nonneg (gain_nonneg hrate hend))
      have hpaid := tokens_request_le capacity rate now.millis bucket
      have hgain := elapsed_mul_le_gain hrate hcredits hstart
      rw [admitted_cons, ← gain_add rate start now.millis stop]
      simp only [Option.getD_some]
      linarith

/-- In a window of requests, no more are admitted than a full bucket and what comes back pay for. -/
theorem admitted_le_of_infix (hrate : 0 ≤ rate) (hcapacity : 0 ≤ capacity) {start stop : Int}
    {bucket? : Option (Bucket ℚ)} {clocks : List Clock} {window : List (Clock × Option Bool)}
    (hholds : ∀ bucket ∈ bucket?, bucket.Holds capacity)
    (hordered : clocks.Pairwise fun earlier later ↦ earlier.millis ≤ later.millis)
    (hwindow : window <:+: answers capacity rate bucket? clocks)
    (hwithin : ∀ answer ∈ window, start ≤ answer.1.millis ∧ answer.1.millis ≤ stop)
    (hspan : start ≤ stop) :
    (admitted window : ℚ) ≤ capacity + gain rate start stop := by
  have hempty : ((admitted [] : ℕ) : ℚ) ≤ capacity + gain rate start stop := by
    rw [admitted, List.countP_nil, Nat.cast_zero]
    exact add_nonneg hcapacity (gain_nonneg hrate hspan)
  induction clocks generalizing bucket? with
  | nil =>
    rw [List.infix_nil.mp hwindow]
    exact hempty
  | cons now later ih =>
    obtain ⟨hnow, hlater⟩ := List.pairwise_cons.mp hordered
    have hbefore := holds_getD hcapacity hholds now.millis
    have hafter := hbefore.request hrate now.millis
    rcases List.infix_cons_iff.mp hwindow with hbegins | hrest
    · rcases List.prefix_cons_iff.mp hbegins with rfl | ⟨rest, rfl, hrest⟩
      · exact hempty
      · obtain ⟨hstart, hend⟩ := hwithin _ List.mem_cons_self
        have hpaidFor := admitted_le_of_prefix hrate hafter
          (creditsFrom_request capacity rate now.millis _)
          (List.pairwise_cons.mpr ⟨hnow, hlater⟩) hrest
          (fun answer hmem ↦ (hwithin answer (List.mem_cons_of_mem _ hmem)).2) hend
        have hpaid := tokens_request_le_capacity hbefore hrate now.millis
        have hgain := gain_mono hrate hstart (le_refl stop)
        rw [admitted_cons]
        linarith
    · refine ih (fun bucket hmem ↦ ?_) hlater hrest
      rw [← Option.some.inj hmem]
      exact hafter

/-! ### Requests that are near enough to each other -/

theorem age?_eq_some_iff {age : ℤ} :
    bucket.age? now = some age ↔ InWord age ∧ age = now - bucket.refilled := by
  unfold age? checked64
  split_ifs with htold
  · rw [Option.some.injEq, eq_comm]
    exact ⟨fun hage ↦ ⟨hage ▸ htold, hage⟩, fun hage ↦ hage.2⟩
  · refine iff_of_false nofun fun hage ↦ htold (hage.2 ▸ hage.1)

/-- Time that fits in 64 bits can be told. -/
theorem age?_eq_sub (hlater : bucket.refilled ≤ now) (hfits : now - bucket.refilled ≤ maxInt64) :
    bucket.age? now = some (now - bucket.refilled) := by
  refine if_pos ⟨?_, hfits⟩
  simp only [minInt64]
  omega

/-- Time that fits in 64 bits is counted in full. -/
theorem elapsed_eq_sub (hlater : bucket.refilled ≤ now)
    (hfits : now - bucket.refilled ≤ maxInt64) :
    (bucket.elapsed now : ℤ) = now - bucket.refilled := by
  rw [elapsed, age?_eq_sub hlater hfits, Option.getD_some]
  omega

/-- Where the time can be told, a request takes a token if there is one. -/
theorem request_of_age {age : ℤ} (h : bucket.age? now = some age) (capacity rate : ℚ) :
    bucket.request capacity rate now =
      (some (bucket.refill capacity rate now age.toNat).take.1,
        (bucket.refill capacity rate now age.toNat).take.2) := by
  rw [request, h]

/-- The clock has not run backwards, nor further than 64 bits can tell. -/
def Near (earlier later : Clock) : Prop :=
  earlier.millis ≤ later.millis ∧ later.millis - earlier.millis ≤ maxInt64

/-- Where any two instants are near to each other, every request has an answer. -/
theorem answers_ne_none (capacity rate : ℚ) {clocks : List Clock} {bucket : Bucket ℚ}
    (h : (⟨bucket.refilled⟩ :: clocks).Pairwise Near) :
    ∀ answer ∈ answers capacity rate (some bucket) clocks, answer.2 ≠ none := by
  induction clocks generalizing bucket with
  | nil => exact fun _ hmem ↦ absurd hmem List.not_mem_nil
  | cons now later ih =>
    obtain ⟨hbefore, hafter⟩ := List.pairwise_cons.mp h
    have hnow : Near ⟨bucket.refilled⟩ now := hbefore now List.mem_cons_self
    have hrequest := request_of_age (age?_eq_sub hnow.1 hnow.2) capacity rate
    have hlater : (⟨(bucket.request capacity rate now.millis).2.refilled⟩ :: later).Pairwise
        Near := by
      refine List.pairwise_cons.mpr ⟨fun instant hmem ↦ ?_, (List.pairwise_cons.mp hafter).2⟩
      rw [refilled_request]
      split_ifs
      · exact hbefore instant (List.mem_cons_of_mem _ hmem)
      · exact (List.pairwise_cons.mp hafter).1 instant hmem
    rw [answers, Option.getD_some]
    refine List.forall_mem_cons.mpr ⟨?_, ih hlater⟩
    rw [hrequest]
    exact Option.some_ne_none _

/-- Where any two instants are near to each other, every request has an answer, from the first one
on. -/
theorem answers_none_ne_none (capacity rate : ℚ) {clocks : List Clock} (h : clocks.Pairwise Near) :
    ∀ answer ∈ answers capacity rate none clocks, answer.2 ≠ none := by
  cases clocks with
  | nil => exact fun _ hmem ↦ absurd hmem List.not_mem_nil
  | cons now later =>
    -- The first request meets the bucket that it fills.
    have hfirst : answers capacity rate none (now :: later) =
        answers capacity rate (some (full capacity now.millis)) (now :: later) := rfl
    rw [hfirst]
    refine answers_ne_none capacity rate (List.pairwise_cons.mpr ⟨fun instant hmem ↦ ?_, h⟩)
    rcases List.mem_cons.mp hmem with rfl | hlater
    · exact ⟨le_rfl, by simp [full, maxInt64]⟩
    · exact (List.pairwise_cons.mp h).1 instant hlater

/-! ### Requests that are far enough apart -/

/-- Between two instants a whole token comes back. -/
def Spaced (rate : ℚ) (earlier later : Clock) : Prop :=
  1000 / rate ≤ later.millis - earlier.millis

theorem Spaced.lt {earlier later : Clock} (h : Spaced rate earlier later) (hrate : 0 < rate) :
    earlier.millis < later.millis := by
  have hwait : (0 : ℚ) < later.millis - earlier.millis := lt_of_lt_of_le (by positivity) h
  exact_mod_cast sub_pos.mp hwait

theorem Spaced.trans {first second third : Clock} (hrate : 0 < rate)
    (h : Spaced rate first second) (h' : Spaced rate second third) : Spaced rate first third := by
  have hlt : (first.millis : ℚ) < second.millis := by exact_mod_cast h.lt hrate
  unfold Spaced at h' ⊢
  linarith

/-- A request that waited for a whole token is admitted without loss of time, if it does not break
off. -/
theorem request_of_spaced (hrate : 0 < rate) (hcapacity : 1 ≤ capacity)
    (hnonneg : 0 ≤ bucket.tokens) {instant : Clock} (h : Spaced rate ⟨bucket.refilled⟩ instant) :
    bucket.request capacity rate instant.millis = (none, bucket) ∨
      ∃ tokens, 0 ≤ tokens ∧
        bucket.request capacity rate instant.millis = (some true, ⟨tokens, instant.millis⟩) := by
  rcases request_cases capacity rate instant.millis bucket with
    ⟨-, hbroken⟩ | ⟨age, hage, hrequest⟩
  · exact .inl hbroken
  · obtain ⟨-, rfl⟩ := age?_eq_some_iff.mp hage
    have hlater : bucket.refilled < instant.millis := h.lt hrate
    have hexact : ((instant.millis - bucket.refilled).toNat : ℚ) =
        instant.millis - bucket.refilled := by
      exact_mod_cast Int.toNat_of_nonneg (sub_nonneg.mpr hlater.le)
    have hback : 1 ≤ ((instant.millis - bucket.refilled).toNat : ℚ) * rate / 1000 := by
      rw [hexact, le_div_iff₀ (by norm_num), one_mul]
      exact (div_le_iff₀ hrate).mp h
    have hsome : (instant.millis - bucket.refilled).toNat ≠ 0 := by omega
    have hwhole : 1 ≤ (bucket.refill capacity rate instant.millis
        (instant.millis - bucket.refilled).toNat).tokens := by
      rw [refill_of_ne_zero capacity rate _ hsome]
      exact le_min (by linarith) hcapacity
    refine .inr ⟨_, sub_nonneg.mpr hwhole, ?_⟩
    rw [hrequest, take_of_le _ hwhole, refill_of_ne_zero capacity rate _ hsome]

/-- A client that waits for a whole token each time is never refused. -/
theorem answers_of_spaced (hrate : 0 < rate) (hcapacity : 1 ≤ capacity) {clocks : List Clock}
    {bucket : Bucket ℚ} (hnonneg : 0 ≤ bucket.tokens)
    (h : (⟨bucket.refilled⟩ :: clocks).Pairwise (Spaced rate)) :
    ∀ answer ∈ answers capacity rate (some bucket) clocks, answer.2 ≠ some false := by
  induction clocks generalizing bucket with
  | nil => exact fun _ hmem ↦ absurd hmem List.not_mem_nil
  | cons now later ih =>
    obtain ⟨hbefore, hafter⟩ := List.pairwise_cons.mp h
    rw [answers, Option.getD_some]
    rcases request_of_spaced hrate hcapacity hnonneg (hbefore now List.mem_cons_self) with
      hbroken | ⟨tokens, htokens, hadmitted⟩
    · rw [hbroken]
      refine List.forall_mem_cons.mpr ⟨nofun, ih hnonneg (List.pairwise_cons.mpr ⟨?_, ?_⟩)⟩
      · exact fun instant hmem ↦ hbefore instant (List.mem_cons_of_mem _ hmem)
      · exact (List.pairwise_cons.mp hafter).2
    · rw [hadmitted]
      exact List.forall_mem_cons.mpr ⟨nofun, ih htokens hafter⟩

/-- At the instant of the last refill, a request finds what there is. -/
theorem request_at_refilled (capacity rate : ℚ) (bucket : Bucket ℚ) :
    bucket.request capacity rate bucket.refilled = (some bucket.take.1, bucket.take.2) := by
  have hage : bucket.age? bucket.refilled = some 0 := by
    simp [age?, checked64, InWord, minInt64, maxInt64]
  rw [request_of_age hage, Int.toNat_zero, refill_zero]

/-- The first request finds a full bucket. -/
theorem request_full (rate : ℚ) (hcapacity : 1 ≤ capacity) (now : Int) :
    (full capacity now).request capacity rate now = (some true, ⟨capacity - 1, now⟩) := by
  have hfound := request_at_refilled capacity rate (full capacity now)
  rwa [take_of_le (full capacity now) hcapacity] at hfound

/-- A client that waits for a whole token each time is never refused, from its first request on. -/
theorem answers_none_of_spaced (hrate : 0 < rate) (hcapacity : 1 ≤ capacity) {clocks : List Clock}
    (h : clocks.IsChain (Spaced rate)) :
    ∀ answer ∈ answers capacity rate none clocks, answer.2 ≠ some false := by
  have htrans : IsTrans Clock (Spaced rate) := ⟨fun _ _ _ ↦ Spaced.trans hrate⟩
  cases clocks with
  | nil => exact fun _ hmem ↦ absurd hmem List.not_mem_nil
  | cons now later =>
    rw [answers, Option.getD_none, request_full rate hcapacity]
    exact List.forall_mem_cons.mpr
      ⟨nofun, answers_of_spaced hrate hcapacity (sub_nonneg.mpr hcapacity) h.pairwise⟩

end StompBroker.Bucket
