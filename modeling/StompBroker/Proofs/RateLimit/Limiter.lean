import StompBroker.Proofs.RateLimit.Bucket
import StompBroker.Proofs.Session.Rows

/-!
# The limiter

Requests of many clients arrive at a limiter one after the other. What one client is told is what
its own bucket tells its own requests (`answersTo_eq`), so nobody else has a say in it, whatever
numbers the tokens are counted in.

With exact numbers and settings that can work, `RateLimiter.Metered` collects what a client can rely
on: in every window of its requests no more are admitted than a full bucket and the tokens that come
back meanwhile, its bucket is never overdrawn nor overfull, and it is never refused if it waits for
a token between its requests (`metered_of_validate`). A request may break off without an answer,
but not as long as 64 bits can tell the time between any two of them.
-/

set_option autoImplicit false

namespace StompBroker

/-- The exact value of a finite number; the others have none, and count as 0. -/
def exactValue (value : Float) : ℚ :=
  match value.toModel.unpack with
  | .finite .positive mantissa exponent _ => mantissa * 2 ^ exponent
  | .finite .negative mantissa exponent _ => -(mantissa * 2 ^ exponent)
  | .zero _ | .infinity _ | .notANumber => 0

theorem exactValue_pos {value : Float} (hfinite : value.isFinite = true) (h : 0 < value) :
    0 < exactValue value := by
  have hzero : (0 : Float).toModel.unpack = .zero .positive := rfl
  have hlt : Float.lt 0 value = true := h
  have hcompare : Float.Model.UnpackedFloat.lt (0 : Float).toModel.unpack value.toModel.unpack :=
    of_decide_eq_true hlt
  have hkind : value.toModel.unpack.isFinite = true := hfinite
  rw [hzero, Float.Model.UnpackedFloat.lt] at hcompare
  unfold exactValue
  cases hunpacked : value.toModel.unpack with
  | infinity sign =>
    rw [hunpacked] at hkind
    cases hkind
  | notANumber =>
    rw [hunpacked] at hkind
    cases hkind
  | zero sign =>
    rw [hunpacked] at hcompare
    cases hcompare
  | finite sign mantissa exponent hmantissa =>
    rw [hunpacked] at hcompare
    cases sign with
    | negative => cases hcompare
    | positive =>
      exact mul_pos (Nat.cast_pos.mpr hmantissa) (zpow_pos two_pos exponent)

namespace RateLimiter

/-- A request of a client, and when it comes. -/
structure Arrival where
  client : String
  clock : Clock
  deriving DecidableEq, Repr

/-- The clock never runs backwards while requests arrive. -/
def InTurn (arrivals : List Arrival) : Prop :=
  arrivals.Pairwise fun earlier later ↦ earlier.clock.millis ≤ later.clock.millis

/-- The time between any two requests fits in 64 bits. -/
def Spanned (arrivals : List Arrival) : Prop :=
  arrivals.Pairwise fun earlier later ↦ later.clock.millis - earlier.clock.millis ≤ maxInt64

/-- A clock that starts from zero or later spans no time that does not fit. -/
theorem spanned_of_nonneg {arrivals : List Arrival}
    (h : ∀ arrival ∈ arrivals, 0 ≤ arrival.clock.millis ∧ arrival.clock.millis ≤ maxInt64) :
    Spanned arrivals := by
  refine List.pairwise_of_forall_mem_list fun earlier hearlier later hlater ↦ ?_
  have hstart := (h earlier hearlier).1
  have hstop := (h later hlater).2
  omega

/-- The requests that a client makes. -/
def requestsOf (client : String) (arrivals : List Arrival) : List Arrival :=
  arrivals.filter fun arrival ↦ arrival.client == client

theorem InTurn.clocks {arrivals : List Arrival} (h : InTurn arrivals) (client : String) :
    ((requestsOf client arrivals).map Arrival.clock).Pairwise
      fun earlier later ↦ earlier.millis ≤ later.millis :=
  List.pairwise_map.mpr (List.Pairwise.filter _ h)

theorem Spanned.clocks {arrivals : List Arrival} (h : Spanned arrivals) (client : String) :
    ((requestsOf client arrivals).map Arrival.clock).Pairwise
      fun earlier later ↦ later.millis - earlier.millis ≤ maxInt64 :=
  List.pairwise_map.mpr (List.Pairwise.filter _ h)

/-! ### The bucket of a client -/

theorem lookup_putBucket {α : Type} (client other : String) (bucket : Bucket α)
    (buckets : List (String × Bucket α)) :
    (putBucket client bucket buckets).lookup other =
      if client = other then some bucket else buckets.lookup other := by
  induction buckets with
  | nil => exact Rows.lookup_cons []
  | cons entry buckets ih =>
    obtain ⟨name, kept⟩ := entry
    rw [putBucket]
    split_ifs with hname hother hother
    · rw [Rows.lookup_cons, if_pos hother]
    · rw [Rows.lookup_cons, Rows.lookup_cons, hname, if_neg hother, if_neg hother]
    · have hne : name ≠ other := fun heq ↦ hname (heq.trans hother.symm)
      rw [Rows.lookup_cons, if_neg hne, ih, if_pos hother]
    · rw [Rows.lookup_cons, Rows.lookup_cons, ih, if_neg hother]

theorem mem_putBucket {α : Type} {client : String} {bucket : Bucket α}
    {buckets : List (String × Bucket α)} {entry : String × Bucket α}
    (h : entry ∈ putBucket client bucket buckets) : entry.2 = bucket ∨ entry ∈ buckets := by
  induction buckets with
  | nil => exact .inl (by rw [List.mem_singleton.mp h])
  | cons first buckets ih =>
    rw [putBucket] at h
    split_ifs at h with hname
    · rcases List.mem_cons.mp h with rfl | hmem
      · exact .inl rfl
      · exact .inr (List.mem_cons_of_mem _ hmem)
    · rcases List.mem_cons.mp h with rfl | hmem
      · exact .inr List.mem_cons_self
      · exact (ih hmem).imp_right (List.mem_cons_of_mem _)

/-- The limiter with another bucket for a client. -/
def withBucket {α : Type} (limiter : RateLimiter α) (client : String) (bucket : Bucket α) :
    RateLimiter α :=
  { limiter with buckets := putBucket client bucket limiter.buckets }

section Run

variable {α : Type} [NatCast α] [Add α] [Sub α] [Mul α] [Div α] [LE α] [DecidableLE α]

/-- The requests in turn, each with the answer that it gets. -/
def serve (limiter : RateLimiter α) : List Arrival → List (Arrival × Option Bool)
  | [] => []
  | arrival :: later =>
    let served := limiter.allow arrival.clock arrival.client
    (arrival, served.1) :: served.2.serve later

/-- The limiter after some requests. -/
def after (limiter : RateLimiter α) (arrivals : List Arrival) : RateLimiter α :=
  arrivals.foldl (fun limiter arrival ↦ (limiter.allow arrival.clock arrival.client).2) limiter

/-- What a client is told, with the instants of its requests. -/
def answersTo (limiter : RateLimiter α) (client : String) (arrivals : List Arrival) :
    List (Clock × Option Bool) :=
  ((limiter.serve arrivals).filter fun served ↦ served.1.client == client).map
    fun served ↦ (served.1.clock, served.2)

/-- The bucket that the next request of a client meets. -/
def bucketOf (limiter : RateLimiter α) (client : String) (now : Int) : Bucket α :=
  (limiter.buckets.lookup client).getD (.full limiter.capacity now)

/-- A request meets its client's bucket and leaves the others alone. -/
theorem allow_eq {limiter : RateLimiter α} (h : limiter.enabled = true) (clock : Clock)
    (client : String) :
    limiter.allow clock client =
      let served := (limiter.bucketOf client clock.millis).request limiter.capacity
        limiter.refillPerSecond clock.millis
      (served.1, limiter.withBucket client served.2) :=
  if_pos h

/-- A request breaks off exactly if its client has a bucket whose age 64 bits cannot tell. -/
theorem fst_allow_eq_none_iff {limiter : RateLimiter α} {clock : Clock} {client : String} :
    (limiter.allow clock client).1 = none ↔ limiter.enabled = true ∧
      ∃ bucket, limiter.buckets.lookup client = some bucket ∧
        ¬InWord (clock.millis - bucket.refilled) := by
  have hrequest (bucket : Bucket α) :
      (bucket.request limiter.capacity limiter.refillPerSecond clock.millis).1 = none ↔
        ¬InWord (clock.millis - bucket.refilled) := by
    unfold Bucket.request Bucket.age? checked64
    split_ifs with htold
    · exact iff_of_false nofun (not_not.mpr htold)
    · exact iff_of_true rfl htold
  by_cases henabled : limiter.enabled = true
  · rw [allow_eq henabled, bucketOf]
    cases hlookup : limiter.buckets.lookup client with
    | none =>
      refine iff_of_false (fun hnone ↦ (hrequest _).mp hnone ?_) (by simp)
      simp [Bucket.full, InWord, minInt64, maxInt64]
    | some bucket => simpa [henabled] using hrequest bucket
  · have hthrough : limiter.allow clock client = (some true, limiter) := if_neg henabled
    rw [hthrough]
    exact iff_of_false (Option.some_ne_none _) fun hbroken ↦ henabled hbroken.1

theorem after_cons (limiter : RateLimiter α) (arrival : Arrival) (later : List Arrival) :
    limiter.after (arrival :: later) =
      (limiter.allow arrival.clock arrival.client).2.after later :=
  rfl

theorem answersTo_cons (limiter : RateLimiter α) (client : String) (arrival : Arrival)
    (later : List Arrival) :
    limiter.answersTo client (arrival :: later) =
      let served := limiter.allow arrival.clock arrival.client
      if arrival.client = client then
        (arrival.clock, served.1) :: served.2.answersTo client later
      else served.2.answersTo client later := by
  simp only [answersTo, serve, List.filter_cons, beq_iff_eq]
  split_ifs <;> rfl

theorem requestsOf_cons (client : String) (arrival : Arrival) (later : List Arrival) :
    requestsOf client (arrival :: later) =
      if arrival.client = client then arrival :: requestsOf client later
      else requestsOf client later := by
  simp only [requestsOf, List.filter_cons, beq_iff_eq]

/-- A client is told what its own bucket tells its own requests. -/
theorem answersTo_eq {limiter : RateLimiter α} (h : limiter.enabled = true) (client : String)
    (arrivals : List Arrival) :
    limiter.answersTo client arrivals =
      Bucket.answers limiter.capacity limiter.refillPerSecond (limiter.buckets.lookup client)
        ((requestsOf client arrivals).map Arrival.clock) := by
  induction arrivals generalizing limiter with
  | nil => rfl
  | cons arrival later ih =>
    have hlater (bucket : Bucket α) :
        (limiter.withBucket arrival.client bucket).answersTo client later =
          Bucket.answers limiter.capacity limiter.refillPerSecond
            (if arrival.client = client then some bucket else limiter.buckets.lookup client)
            ((requestsOf client later).map Arrival.clock) := by
      have henabled : (limiter.withBucket arrival.client bucket).enabled = true := h
      rw [ih henabled, withBucket, lookup_putBucket]
    rw [answersTo_cons, requestsOf_cons, allow_eq h]
    dsimp only
    rw [hlater]
    split_ifs with hclient
    · rw [List.map_cons, Bucket.answers, hclient]
      rfl
    · rfl

/-- What other clients ask for has no influence on what a client is told. -/
theorem answersTo_requestsOf {limiter : RateLimiter α} (h : limiter.enabled = true)
    (client : String) (arrivals : List Arrival) :
    limiter.answersTo client (requestsOf client arrivals) = limiter.answersTo client arrivals := by
  rw [answersTo_eq h, answersTo_eq h]
  simp only [requestsOf, List.filter_filter, Bool.and_self]

end Run

/-! ### Exact tokens -/

/-- A limiter with these settings and no clients, which counts its tokens exactly. -/
def ofSettingsExact (settings : RateSettings) : RateLimiter ℚ :=
  { enabled := settings.enabled
    capacity := settings.capacity
    refillPerSecond := exactValue settings.refillPerSecond
    idleMillis := min (settings.idleSeconds * 1000 : Nat) maxInt64 }

/-- Settings that can work admit a request now and then. -/
theorem positive_of_validate {settings : Settings} (h : settings.validate = .ok ()) :
    0 < settings.rate.capacity ∧ 0 < exactValue settings.rate.refillPerSecond := by
  unfold Settings.validate at h
  cases hproblem : settings.problem? with
  | some problem =>
    rw [hproblem] at h
    cases h
  | none =>
    unfold Settings.problem? at hproblem
    split_ifs at hproblem with hname hlifetime hcapacity hrate
    simp only [Bool.not_eq_true', Bool.not_eq_false, Bool.and_eq_true, decide_eq_true_eq] at hrate
    exact ⟨Nat.pos_of_ne_zero hcapacity, exactValue_pos hrate.1 hrate.2⟩

/-- All buckets hold between no tokens and the capacity. -/
def Filled (capacity : ℚ) (limiter : RateLimiter ℚ) : Prop :=
  ∀ entry ∈ limiter.buckets, entry.2.Holds capacity

theorem holds_of_lookup {limiter : RateLimiter ℚ} {capacity : ℚ} (h : limiter.Filled capacity)
    {client : String} {bucket : Bucket ℚ} (hfound : limiter.buckets.lookup client = some bucket) :
    bucket.Holds capacity := by
  obtain ⟨front, back, hbuckets, -⟩ := List.lookup_eq_some_iff.mp hfound
  exact h (client, bucket) (by rw [hbuckets]; simp)

theorem holds_bucketOf {limiter : RateLimiter ℚ} (hcapacity : 0 ≤ limiter.capacity)
    (h : limiter.Filled limiter.capacity) (client : String) (now : Int) :
    (limiter.bucketOf client now).Holds limiter.capacity :=
  Bucket.holds_getD hcapacity (fun _ hfound ↦ holds_of_lookup h hfound) now

theorem Filled.withBucket {limiter : RateLimiter ℚ} {capacity : ℚ} (h : limiter.Filled capacity)
    (client : String) {bucket : Bucket ℚ} (hbucket : bucket.Holds capacity) :
    (limiter.withBucket client bucket).Filled capacity := by
  intro entry hmem
  rcases mem_putBucket hmem with hnew | hkept
  · rw [hnew]
    exact hbucket
  · exact h entry hkept

/-- Requests leave every bucket between no tokens and the capacity. -/
theorem filled_after (limiter : RateLimiter ℚ) (henabled : limiter.enabled = true)
    (hcapacity : 0 ≤ limiter.capacity) (hrate : 0 ≤ limiter.refillPerSecond)
    (h : limiter.Filled limiter.capacity) (arrivals : List Arrival) :
    (limiter.after arrivals).Filled limiter.capacity := by
  induction arrivals generalizing limiter with
  | nil => exact h
  | cons arrival later ih =>
    have hbucket := (holds_bucketOf hcapacity h arrival.client arrival.clock.millis).request hrate
      arrival.clock.millis
    have hnext := h.withBucket arrival.client hbucket
    rw [after_cons, allow_eq henabled]
    exact ih (limiter.withBucket arrival.client _) henabled hcapacity hrate hnext

/-- What the clients of a limiter can rely on while requests arrive. -/
structure Metered (settings : RateSettings) (arrivals : List Arrival) : Prop where
  /-- Every request is served in its turn. -/
  served : ∀ client : String,
    ((ofSettingsExact settings).answersTo client arrivals).map Prod.fst =
      (requestsOf client arrivals).map Arrival.clock
  /-- None of them breaks off. -/
  answered : Spanned arrivals → ∀ client : String,
    ∀ answer ∈ (ofSettingsExact settings).answersTo client arrivals, answer.2 ≠ none
  /-- In a window of a client's requests, no more are admitted than a full bucket and the tokens
  that come back until the end of the window. -/
  bounded : ∀ (client : String) (window : List (Clock × Option Bool)) (start stop : Int),
    start ≤ stop → window <:+: (ofSettingsExact settings).answersTo client arrivals →
    (∀ answer ∈ window, start ≤ answer.1.millis ∧ answer.1.millis ≤ stop) →
    (window.countP (fun answer ↦ answer.2 = some true) : ℚ) ≤
      settings.capacity + exactValue settings.refillPerSecond * (stop - start) / 1000
  /-- No bucket is ever overdrawn or overfull. -/
  held : ∀ before, before <+: arrivals →
    ∀ entry ∈ ((ofSettingsExact settings).after before).buckets,
      0 ≤ entry.2.tokens ∧ entry.2.tokens ≤ settings.capacity
  /-- A client that waits for a token between its requests is never refused, so each of them is
  admitted unless it breaks off. -/
  spaced : ∀ client : String,
    ((requestsOf client arrivals).map Arrival.clock).IsChain (fun earlier later ↦
      1000 / exactValue settings.refillPerSecond ≤ later.millis - earlier.millis) →
    ∀ answer ∈ (ofSettingsExact settings).answersTo client arrivals,
      answer.2 ≠ some false ∧ (Spanned arrivals → answer.2 = some true)
  /-- A client is told the same whatever other clients ask for. -/
  apart : ∀ (client : String) (others : List Arrival),
    requestsOf client others = requestsOf client arrivals →
    (ofSettingsExact settings).answersTo client others =
      (ofSettingsExact settings).answersTo client arrivals

/-- A limiter with settings that can work meters the requests of every client. -/
theorem metered_of_validate {settings : Settings} (h : settings.validate = .ok ())
    (henabled : settings.rate.enabled = true) {arrivals : List Arrival} (hturn : InTurn arrivals) :
    Metered settings.rate arrivals := by
  obtain ⟨hcapacity, hrate⟩ := positive_of_validate h
  have hwhole : (1 : ℚ) ≤ settings.rate.capacity := Nat.one_le_cast.mpr hcapacity
  have hanswers (client : String) (arrivals : List Arrival) :
      (ofSettingsExact settings.rate).answersTo client arrivals =
        Bucket.answers (settings.rate.capacity : ℚ) (exactValue settings.rate.refillPerSecond) none
          ((requestsOf client arrivals).map Arrival.clock) :=
    answersTo_eq henabled client arrivals
  have hanswered (hspanned : Spanned arrivals) (client : String) :
      ∀ answer ∈ (ofSettingsExact settings.rate).answersTo client arrivals, answer.2 ≠ none := by
    rw [hanswers]
    exact Bucket.answers_none_ne_none _ _ ((hturn.clocks client).and (hspanned.clocks client))
  constructor
  case served =>
    intro client
    rw [hanswers, Bucket.map_fst_answers]
  case answered => exact hanswered
  case bounded =>
    intro client window start stop hspan hwindow hwithin
    rw [hanswers] at hwindow
    exact Bucket.admitted_le_of_infix hrate.le (zero_le_one.trans hwhole)
      (fun _ hnone ↦ by cases hnone) (hturn.clocks client) hwindow hwithin hspan
  case held =>
    intro before _ entry hmem
    have hholds := filled_after (ofSettingsExact settings.rate) henabled (zero_le_one.trans hwhole)
      hrate.le (fun _ hnone ↦ absurd hnone List.not_mem_nil) before entry hmem
    exact ⟨hholds.nonneg, hholds.le_capacity⟩
  case spaced =>
    intro client hspaced answer hmem
    have hadmitted : answer.2 ≠ some false := by
      rw [hanswers] at hmem
      exact Bucket.answers_none_of_spaced hrate hwhole hspaced answer hmem
    refine ⟨hadmitted, fun hspanned ↦ ?_⟩
    obtain ⟨admitted, hanswer⟩ :=
      Option.ne_none_iff_exists'.mp (hanswered hspanned client answer hmem)
    cases admitted with
    | true => exact hanswer
    | false => exact absurd hanswer hadmitted
  case apart =>
    intro client others hsame
    rw [hanswers, hanswers, hsame]

/-- Two clients share a limiter, and one of them asks for more than its bucket holds. -/
theorem metered_of_validate_burst :
    let settings : Settings := { rate := { capacity := 2, refillPerSecond := 1 } }
    let arrivals : List Arrival :=
      [⟨"10.0.0.1", ⟨0⟩⟩, ⟨"10.0.0.1", ⟨0⟩⟩, ⟨"10.0.0.2", ⟨0⟩⟩, ⟨"10.0.0.1", ⟨500⟩⟩,
        ⟨"10.0.0.1", ⟨1000⟩⟩]
    settings.validate = .ok () ∧ settings.rate.enabled = true ∧ InTurn arrivals ∧
      Spanned arrivals ∧ Metered settings.rate arrivals := by
  have hvalid : ({ rate := { capacity := 2, refillPerSecond := 1 } } : Settings).validate =
      .ok () := by
    rfl
  intro settings arrivals
  have hturn : InTurn arrivals := by simp [InTurn, arrivals]
  have hspanned : Spanned arrivals :=
    spanned_of_nonneg (by simp [arrivals, maxInt64])
  exact ⟨hvalid, rfl, hturn, hspanned, metered_of_validate hvalid rfl hturn⟩

end RateLimiter

end StompBroker
