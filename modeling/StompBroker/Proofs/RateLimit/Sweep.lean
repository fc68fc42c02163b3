import StompBroker.Proofs.RateLimit.Limiter

/-!
# Sweeping and requesting

A sweep forgets the buckets that were not refilled for an idle window, and a client whose bucket was
forgotten starts over with a full one. So two limiters are compared on the same requests: one that
is swept now and then (`RateLimiter.play`), and one that never is (`RateLimiter.serve`).

As long as a whole bucket comes back within the idle window, nobody can tell them apart. A bucket is
the same in both, or it was forgotten in one after a whole window without requests
(`Bucket.Agree`); in the other it is then full by the next request, and from that request on the two
are the same again (`Agree.request`). `Shadows` says so of all clients at once, and
`Shadows.play_eq_serve` of a whole run.

With a shorter window, a client that empties its bucket twice, with a sweep in between, is let
through more often than without the sweep (`play_rush_ne_serve`). The settings are checked for
neither, so which of the two holds is up to them (`sweepsUnseen_iff`).
-/

set_option autoImplicit false

namespace StompBroker

namespace Bucket

variable {capacity rate : ℚ} {window now : Int} {bucket : Bucket ℚ} {swept kept : Option (Bucket ℚ)}

/-! ### A bucket that was idle -/

/-- After a request, tokens last came back at its instant. -/
theorem refilled_request_of_near (capacity rate : ℚ) {instant : Clock}
    (h : Near ⟨bucket.refilled⟩ instant) :
    (bucket.request capacity rate instant.millis).2.refilled = instant.millis := by
  have helapsed : (bucket.elapsed instant.millis : ℤ) = instant.millis - bucket.refilled :=
    elapsed_eq_sub h.1 h.2
  rw [refilled_request]
  split_ifs with hnone
  · omega
  · rfl

/-- A bucket that is full again takes a request like one that was just filled. -/
theorem request_of_idle (hnonneg : 0 ≤ bucket.tokens) {age : ℤ} (hage : bucket.age? now = some age)
    (hsome : age.toNat ≠ 0) (hback : capacity ≤ age.toNat * rate / 1000) :
    bucket.request capacity rate now = (full capacity now).request capacity rate now := by
  have hrefill : bucket.refill capacity rate now age.toNat = full capacity now := by
    rw [refill_of_ne_zero capacity rate now hsome, min_eq_right (by linarith), full]
  have hfull : (full capacity now).request capacity rate now =
      (some (full capacity now).take.1, (full capacity now).take.2) :=
    request_at_refilled capacity rate (full capacity now)
  rw [request_of_age hage, hrefill, hfull]

/-- What is left of a client's bucket with sweeps and without them: the same, or it was forgotten
after a whole window without requests. -/
inductive Agree (window now : Int) : Option (Bucket ℚ) → Option (Bucket ℚ) → Prop
  | same (bucket? : Option (Bucket ℚ)) : Agree window now bucket? bucket?
  | forgotten {bucket : Bucket ℚ} (hidle : bucket.refilled + window ≤ now) :
    Agree window now none (some bucket)

theorem Agree.mono (h : Agree window now swept kept) {later : Int} (hlater : now ≤ later) :
    Agree window later swept kept := by
  cases h with
  | same => exact .same swept
  | forgotten hidle => exact .forgotten (hidle.trans hlater)

/-- A sweep forgets what was idle for a window, if anything. -/
theorem Agree.sweep (h : Agree window now swept kept) {later : Int} (hlater : now ≤ later)
    {left : Option (Bucket ℚ)}
    (hleft : left = swept ∨ left = none ∧ ∃ bucket ∈ swept, ∃ age,
      bucket.age? later = some age ∧ window ≤ age) : Agree window later left kept := by
  rcases hleft with rfl | ⟨rfl, bucket, hbucket, age, hage, hidle⟩
  · exact h.mono hlater
  · obtain rfl := Option.mem_def.mp hbucket
    obtain ⟨-, rfl⟩ := age?_eq_some_iff.mp hage
    cases h with
    | same => exact .forgotten (by omega)

/-- A request cannot tell a bucket that was forgotten from one that was idle for as long, if a whole
bucket comes back meanwhile. -/
theorem Agree.request (h : Agree window now swept kept) (hcapacity : 1 ≤ capacity)
    (hrate : 0 < rate) (hback : capacity ≤ rate * window / 1000) {instant : Clock}
    (hinstant : now ≤ instant.millis)
    (hkept : ∀ bucket ∈ kept, bucket.Holds capacity ∧ Near ⟨bucket.refilled⟩ instant) :
    (swept.getD (full capacity instant.millis)).request capacity rate instant.millis =
      (kept.getD (full capacity instant.millis)).request capacity rate instant.millis := by
  cases h with
  | same => rfl
  | @forgotten bucket hidle =>
    obtain ⟨hholds, hnear⟩ := hkept bucket rfl
    have hwhole : (window : ℚ) ≤ ((instant.millis - bucket.refilled).toNat : ℕ) := by
      have hlong : window ≤ ((instant.millis - bucket.refilled).toNat : ℤ) := by omega
      exact_mod_cast hlong
    have hgained : capacity ≤ ((instant.millis - bucket.refilled).toNat : ℕ) * rate / 1000 := by
      calc capacity
        _ ≤ rate * window / 1000 := hback
        _ ≤ rate * ((instant.millis - bucket.refilled).toNat : ℕ) / 1000 := by gcongr
        _ = ((instant.millis - bucket.refilled).toNat : ℕ) * rate / 1000 := by rw [mul_comm rate]
    have hsome : (instant.millis - bucket.refilled).toNat ≠ 0 := by
      intro hnone
      rw [hnone] at hgained
      norm_num at hgained
      linarith
    rw [Option.getD_none, Option.getD_some]
    exact (request_of_idle hholds.nonneg (age?_eq_sub hnear.1 hnear.2) hsome hgained).symm

/-- The requests that a bucket has tokens for are admitted, also if they come all at once. -/
theorem answers_burst (capacity rate : ℚ) (now : Clock) {count : ℕ} {tokens : ℚ}
    (h : count ≤ tokens) :
    ∀ answer ∈ answers capacity rate (some ⟨tokens, now.millis⟩) (List.replicate count now),
      answer.2 = some true := by
  induction count generalizing tokens with
  | zero => exact fun _ hmem ↦ absurd hmem List.not_mem_nil
  | succ count ih =>
    rw [Nat.cast_succ] at h
    have hcount : (0 : ℚ) ≤ count := Nat.cast_nonneg count
    have hrequest : (⟨tokens, now.millis⟩ : Bucket ℚ).request capacity rate now.millis =
        (some true, ⟨tokens - 1, now.millis⟩) := by
      have hfound := request_at_refilled capacity rate ⟨tokens, now.millis⟩
      rwa [take_of_le _ (by linarith)] at hfound
    rw [List.replicate_succ, answers, Option.getD_some, hrequest]
    exact List.forall_mem_cons.mpr ⟨rfl, ih (by linarith)⟩

end Bucket

namespace RateLimiter

/-! ### Requests and sweeps in turn -/

/-- What a limiter is called for. -/
inductive Call where
  | request (arrival : Arrival)
  | sweep (clock : Clock)
  deriving DecidableEq, Repr

/-- When a call is made. -/
def Call.clock : Call → Clock
  | request arrival => arrival.clock
  | sweep clock => clock

/-- The request that a call is, if it is one. -/
def Call.arrival? : Call → Option Arrival
  | request arrival => some arrival
  | sweep _ => none

/-- The requests among some calls. -/
def requests (calls : List Call) : List Arrival := calls.filterMap Call.arrival?

/-- The clock never runs backwards from call to call. -/
def Ordered (calls : List Call) : Prop :=
  calls.Pairwise fun earlier later ↦ earlier.clock.millis ≤ later.clock.millis

/-- No client waits between two requests for longer than 64 bits can tell. -/
def Paced (arrivals : List Arrival) : Prop :=
  ∀ client : String, ((requestsOf client arrivals).map Arrival.clock).IsChain
    fun earlier later ↦ later.millis - earlier.millis ≤ maxInt64

theorem Paced.isChain_near {arrivals : List Arrival} (h : Paced arrivals) (hturn : InTurn arrivals)
    (client : String) : ((requestsOf client arrivals).map Arrival.clock).IsChain Bucket.Near := by
  have hordered := (hturn.clocks client).isChain
  have hpaced := h client
  rw [List.isChain_iff_forall_rel_of_append_cons_cons] at hordered hpaced ⊢
  exact fun _ _ _ _ hclocks ↦ ⟨hordered hclocks, hpaced hclocks⟩

theorem Ordered.inTurn {calls : List Call} (h : Ordered calls) : InTurn (requests calls) := by
  refine List.pairwise_filterMap.mpr (h.imp fun {earlier later} hclock arrival harrival ↦ ?_)
  intro other hother
  cases earlier with
  | sweep clock => cases harrival
  | request first =>
    cases later with
    | sweep clock => cases hother
    | request second =>
      rw [← Option.some.inj harrival, ← Option.some.inj hother]
      exact hclock

section Play

variable {α : Type} [NatCast α] [Add α] [Sub α] [Mul α] [Div α] [LE α] [DecidableLE α]

/-- Makes the calls in turn, and gives each request with the answer that it gets. -/
def play (limiter : RateLimiter α) : List Call → List (Arrival × Option Bool)
  | [] => []
  | .request arrival :: later =>
    let served := limiter.allow arrival.clock arrival.client
    (arrival, served.1) :: served.2.play later
  | .sweep clock :: later => (limiter.sweep clock).2.play later

/-- Requests without sweeps are served one after the other. -/
theorem play_map_request_append (limiter : RateLimiter α) (arrivals : List Arrival)
    (calls : List Call) :
    limiter.play (arrivals.map Call.request ++ calls) =
      limiter.serve arrivals ++ (limiter.after arrivals).play calls := by
  induction arrivals generalizing limiter with
  | nil => rfl
  | cons arrival later ih =>
    rw [List.map_cons, List.cons_append, play, serve, List.cons_append, ih, after_cons]

end Play

/-! ### A limiter and its swept shadow -/

theorem mem_names_putBucket {α : Type} {client name : String} {bucket : Bucket α}
    {buckets : List (String × Bucket α)} :
    name ∈ (putBucket client bucket buckets).map Prod.fst ↔
      name = client ∨ name ∈ buckets.map Prod.fst := by
  induction buckets with
  | nil => simp [putBucket]
  | cons entry buckets ih =>
    rw [putBucket]
    split_ifs with hname
    · rw [List.map_cons, List.map_cons, List.mem_cons, List.mem_cons, hname, or_self_left]
    · rw [List.map_cons, List.map_cons, List.mem_cons, List.mem_cons, ih]
      exact or_left_comm

theorem nodup_names_putBucket {α : Type} (client : String) (bucket : Bucket α)
    {buckets : List (String × Bucket α)} (h : (buckets.map Prod.fst).Nodup) :
    ((putBucket client bucket buckets).map Prod.fst).Nodup := by
  induction buckets with
  | nil => exact List.nodup_singleton client
  | cons entry buckets ih =>
    obtain ⟨hfresh, hrest⟩ := List.nodup_cons.mp h
    rw [putBucket]
    split_ifs with hname
    · rw [← hname]
      exact h
    · refine List.nodup_cons.mpr ⟨?_, ih hrest⟩
      rw [mem_names_putBucket, not_or]
      exact ⟨hname, hfresh⟩

theorem sublist_retain {α : Type} (window now : Int) (buckets : List (String × Bucket α)) :
    (retain window now buckets).2.Sublist buckets := by
  induction buckets with
  | nil => exact .slnil
  | cons entry rest ih =>
    rw [retain]
    cases entry.2.age? now with
    | none => exact .refl _
    | some age =>
      dsimp only
      split_ifs
      · exact ih.cons_cons entry
      · exact ih.cons entry

/-- A sweep keeps a bucket unless it was idle for a window. -/
theorem mem_retain {α : Type} {window now : Int} {entry : String × Bucket α}
    {buckets : List (String × Bucket α)} (h : entry ∈ buckets) :
    entry ∈ (retain window now buckets).2 ∨
      ∃ age, entry.2.age? now = some age ∧ window ≤ age := by
  induction buckets with
  | nil => cases h
  | cons first rest ih =>
    rw [retain]
    cases hage : first.2.age? now with
    | none => exact .inl h
    | some age =>
      dsimp only
      rcases List.mem_cons.mp h with rfl | hmem
      · split_ifs with hrecent
        · exact .inl List.mem_cons_self
        · exact .inr ⟨age, hage, Int.not_lt.mp hrecent⟩
      · refine (ih hmem).imp_left fun hkept ↦ ?_
        split_ifs
        · exact List.mem_cons_of_mem first hkept
        · exact hkept

/-- A sweep leaves the bucket of a client as it is, or forgets it because it was idle for a window,
whether the sweep comes to its end or not. -/
theorem lookup_retain {α : Type} (window now : Int) {buckets : List (String × Bucket α)}
    (h : (buckets.map Prod.fst).Nodup) (client : String) :
    (retain window now buckets).2.lookup client = buckets.lookup client ∨
      (retain window now buckets).2.lookup client = none ∧
        ∃ bucket ∈ buckets.lookup client, ∃ age, bucket.age? now = some age ∧ window ≤ age := by
  have hsublist := sublist_retain window now buckets
  have hkept := h.sublist (hsublist.map Prod.fst)
  cases hleft : (retain window now buckets).2.lookup client with
  | some bucket =>
    have hmem := hsublist.subset ((Rows.lookup_eq_some_iff_mem hkept).mp hleft)
    exact .inl ((Rows.lookup_eq_some_iff_mem h).mpr hmem).symm
  | none =>
    cases hfound : buckets.lookup client with
    | none => exact .inl rfl
    | some bucket =>
      rcases mem_retain ((Rows.lookup_eq_some_iff_mem h).mp hfound) with hmem | hidle
      · rw [(Rows.lookup_eq_some_iff_mem hkept).mpr hmem] at hleft
        cases hleft
      · exact .inr ⟨rfl, bucket, rfl, hidle⟩

/-- Where all buckets were idle for a window, a sweep forgets them. -/
theorem retain_eq_nil {α : Type} {window now : Int} {buckets : List (String × Bucket α)}
    (h : ∀ entry ∈ buckets, ∃ age, entry.2.age? now = some age ∧ window ≤ age) :
    retain window now buckets = (true, []) := by
  induction buckets with
  | nil => rfl
  | cons entry rest ih =>
    obtain ⟨⟨age, hage, hidle⟩, hrest⟩ := List.forall_mem_cons.mp h
    rw [retain, hage]
    dsimp only
    rw [ih hrest, if_neg (Int.not_lt.mpr hidle)]

/-- A limiter that is never swept, and the buckets that sweeps left of it until now. -/
structure Shadows (kept : RateLimiter ℚ) (left : List (String × Bucket ℚ)) (now : Int) : Prop where
  /-- No client has two buckets. -/
  names : (left.map Prod.fst).Nodup
  /-- No bucket is overdrawn nor overfull. -/
  filled : kept.Filled kept.capacity
  /-- What is missing was idle for a window. -/
  agree : ∀ client,
    Bucket.Agree kept.idleMillis now (left.lookup client) (kept.buckets.lookup client)

/-- The instants that a client's bucket is asked at, with the last one before them. -/
def instants (limiter : RateLimiter ℚ) (client : String) (arrivals : List Arrival) : List Clock :=
  ((limiter.buckets.lookup client).map fun bucket ↦ ⟨bucket.refilled⟩).toList ++
    (requestsOf client arrivals).map Arrival.clock

/-- The settings under which sweeps go unnoticed: a whole bucket comes back within the window. -/
structure Recovers (limiter : RateLimiter ℚ) : Prop where
  enabled : limiter.enabled = true
  capacity : 1 ≤ limiter.capacity
  rate : 0 < limiter.refillPerSecond
  window : limiter.capacity ≤ limiter.refillPerSecond * limiter.idleMillis / 1000

variable {kept : RateLimiter ℚ} {left : List (String × Bucket ℚ)} {now : Int}

/-- A limiter without buckets has nothing to forget. -/
theorem Shadows.refl_of_nil (h : kept.buckets = []) (now : Int) : Shadows kept [] now := by
  constructor
  case names => exact List.nodup_nil
  case filled =>
    intro entry hmem
    rw [h] at hmem
    cases hmem
  case agree =>
    intro client
    rw [h]
    exact .same none

theorem Shadows.sweep (h : Shadows kept left now) {clock : Clock} (hclock : now ≤ clock.millis) :
    Shadows kept (retain kept.idleMillis clock.millis left).2 clock.millis := by
  constructor
  case names => exact h.names.sublist ((sublist_retain _ _ _).map Prod.fst)
  case filled => exact h.filled
  case agree =>
    intro client
    exact (h.agree client).sweep hclock (lookup_retain _ _ h.names client)

section Request

variable {arrival : Arrival} {later : List Arrival}

theorem near_of_instants
    (hchain : (kept.instants arrival.client (arrival :: later)).IsChain Bucket.Near) :
    ∀ bucket ∈ kept.buckets.lookup arrival.client, Bucket.Near ⟨bucket.refilled⟩ arrival.clock := by
  intro bucket hmem
  rw [instants, Option.mem_def.mp hmem, requestsOf_cons, if_pos rfl] at hchain
  exact (List.isChain_cons_cons.mp hchain).1

/-- Both limiters give the same answer, and the bucket after it is the same. -/
theorem Shadows.request_eq (h : Shadows kept left now) (hrecovers : kept.Recovers)
    (hclock : now ≤ arrival.clock.millis)
    (hchain : (kept.instants arrival.client (arrival :: later)).IsChain Bucket.Near) :
    ((left.lookup arrival.client).getD (.full kept.capacity arrival.clock.millis)).request
        kept.capacity kept.refillPerSecond arrival.clock.millis =
      (kept.bucketOf arrival.client arrival.clock.millis).request kept.capacity
        kept.refillPerSecond arrival.clock.millis :=
  (h.agree arrival.client).request hrecovers.capacity hrecovers.rate hrecovers.window hclock
    fun bucket hmem ↦ ⟨holds_of_lookup h.filled hmem, near_of_instants hchain bucket hmem⟩

theorem refilled_request_bucketOf
    (hchain : (kept.instants arrival.client (arrival :: later)).IsChain Bucket.Near) :
    ((kept.bucketOf arrival.client arrival.clock.millis).request kept.capacity
      kept.refillPerSecond arrival.clock.millis).2.refilled = arrival.clock.millis := by
  refine Bucket.refilled_request_of_near kept.capacity kept.refillPerSecond ?_
  rw [bucketOf]
  cases hlookup : kept.buckets.lookup arrival.client with
  | none => exact ⟨le_rfl, by simp [Bucket.full, maxInt64]⟩
  | some bucket => exact near_of_instants hchain bucket hlookup

/-- The bucket that both have after a request makes them agree on its client. -/
theorem Shadows.withBucket (h : Shadows kept left now) (hclock : now ≤ arrival.clock.millis)
    {bucket : Bucket ℚ} (hholds : bucket.Holds kept.capacity) :
    Shadows (kept.withBucket arrival.client bucket) (putBucket arrival.client bucket left)
      arrival.clock.millis := by
  constructor
  case names => exact nodup_names_putBucket arrival.client bucket h.names
  case filled => exact h.filled.withBucket arrival.client hholds
  case agree =>
    intro client
    rw [RateLimiter.withBucket, lookup_putBucket, lookup_putBucket]
    split_ifs with hclient
    · exact .same _
    · exact (h.agree client).mono hclock

/-- After a request, its instant is the last one before those that are still to come. -/
theorem isChain_instants_withBucket {bucket : Bucket ℚ}
    (hrefilled : bucket.refilled = arrival.clock.millis)
    (hchain : ∀ client, (kept.instants client (arrival :: later)).IsChain Bucket.Near)
    (client : String) :
    ((kept.withBucket arrival.client bucket).instants client later).IsChain Bucket.Near := by
  have hbefore := hchain client
  rw [instants, requestsOf_cons] at hbefore
  rw [instants, RateLimiter.withBucket, lookup_putBucket]
  split_ifs at hbefore ⊢ with hclient
  · rw [Option.map_some, hrefilled]
    exact hbefore.right_of_append
  · exact hbefore

end Request

/-- A limiter that is swept and one that is not give the same answers from here on. -/
theorem Shadows.play_eq_serve {calls : List Call} (h : Shadows kept left now)
    (hrecovers : kept.Recovers) (hordered : Ordered calls)
    (hnow : ∀ call ∈ calls, now ≤ call.clock.millis)
    (hchain : ∀ client, (kept.instants client (requests calls)).IsChain Bucket.Near) :
    ({ kept with buckets := left } : RateLimiter ℚ).play calls = kept.serve (requests calls) := by
  -- The relation between the limiters carries the induction: each call leads from one pair of
  -- limiters that shadow each other to the next.
  induction calls generalizing kept left now with
  | nil => rfl
  | cons call calls ih =>
    obtain ⟨hfirst, hlater⟩ := List.pairwise_cons.mp hordered
    have hclock : now ≤ call.clock.millis := hnow call List.mem_cons_self
    cases call with
    | sweep clock => exact ih (h.sweep hclock) hrecovers hlater hfirst hchain
    | request arrival =>
      have hsame := h.request_eq hrecovers hclock (hchain arrival.client)
      have hrefilled := refilled_request_bucketOf (hchain arrival.client)
      have hholds := (holds_bucketOf (zero_le_one.trans hrecovers.capacity) h.filled arrival.client
        arrival.clock.millis).request hrecovers.rate.le arrival.clock.millis
      have hrest := ih (h.withBucket hclock hholds)
        ⟨hrecovers.enabled, hrecovers.capacity, hrecovers.rate, hrecovers.window⟩ hlater hfirst
        (isChain_instants_withBucket hrefilled hchain)
      have henabled : ({ kept with buckets := left } : RateLimiter ℚ).enabled = true :=
        hrecovers.enabled
      have hrequests : requests (.request arrival :: calls) = arrival :: requests calls := rfl
      rw [hrequests, play, serve, allow_eq henabled, allow_eq hrecovers.enabled]
      simp only [bucketOf] at hsame hrest ⊢
      rw [hsame]
      exact congrArg _ hrest

/-! ### A window that is too short -/

/-- A client that asks for a whole bucket at once. -/
def burst (settings : RateSettings) (client : String) (clock : Clock) : List Arrival :=
  List.replicate settings.capacity ⟨client, clock⟩

/-- A client that asks for a whole bucket when the limiter starts, and for another one right after
the sweep at the end of the first idle window. -/
def rush (settings : RateSettings) (client : String) : List Call :=
  let idle : Clock := ⟨(ofSettingsExact settings).idleMillis⟩
  (burst settings client ⟨0⟩).map .request ++
    .sweep idle :: (burst settings client idle).map .request

theorem mem_burst {settings : RateSettings} {client : String} {clock : Clock} {arrival : Arrival}
    (h : arrival ∈ burst settings client clock) : arrival = ⟨client, clock⟩ :=
  List.eq_of_mem_replicate h

theorem requestsOf_burst (settings : RateSettings) (client : String) (clock : Clock) :
    requestsOf client (burst settings client clock) = burst settings client clock := by
  refine List.filter_eq_self.mpr fun arrival hmem ↦ ?_
  rw [mem_burst hmem]
  exact beq_self_eq_true client

theorem requests_map_request (arrivals : List Arrival) :
    requests (arrivals.map .request) = arrivals := by
  rw [requests, List.filterMap_map]
  exact List.filterMap_some

/-- Without the sweep, a rush is two bursts. -/
theorem requests_rush (settings : RateSettings) (client : String) :
    requests (rush settings client) =
      burst settings client ⟨0⟩ ++
        burst settings client ⟨(ofSettingsExact settings).idleMillis⟩ := by
  rw [rush, requests, List.filterMap_append, List.filterMap_cons]
  exact congrArg₂ (· ++ ·) (requests_map_request _) (requests_map_request _)

/-- A burst finds a full bucket when it is the first that the limiter hears of. -/
theorem admitted_burst {settings : RateSettings} (henabled : settings.enabled = true)
    (client : String) (clock : Clock) :
    Bucket.admitted ((ofSettingsExact settings).answersTo client (burst settings client clock)) =
      settings.capacity := by
  let capacity : ℚ := settings.capacity
  let rate := exactValue settings.refillPerSecond
  have hanswers : (ofSettingsExact settings).answersTo client (burst settings client clock) =
      Bucket.answers capacity rate (some (.full capacity clock.millis))
        (List.replicate settings.capacity clock) := by
    rw [answersTo_eq henabled, requestsOf_burst, burst, List.map_replicate]
    cases settings.capacity with
    | zero => rfl
    | succ count => rfl
  have hlength := congrArg List.length (Bucket.map_fst_answers capacity rate
    (some (.full capacity clock.millis)) (List.replicate settings.capacity clock))
  rw [List.length_map, List.length_replicate] at hlength
  have hall := Bucket.answers_burst capacity rate clock (le_refl capacity)
  rw [hanswers, Bucket.admitted]
  have hcount := List.countP_eq_length.mpr fun answer hmem ↦ decide_eq_true (hall answer hmem)
  exact hcount.trans hlength

theorem after_eq (limiter : RateLimiter ℚ) (henabled : limiter.enabled = true)
    (arrivals : List Arrival) :
    limiter.after arrivals = { limiter with buckets := (limiter.after arrivals).buckets } := by
  induction arrivals generalizing limiter with
  | nil => rfl
  | cons arrival later ih =>
    rw [after_cons, allow_eq henabled]
    exact ih (limiter.withBucket arrival.client _) henabled

/-- While the clock stands still, tokens come back at that instant only. -/
theorem refilled_after {limiter : RateLimiter ℚ} (henabled : limiter.enabled = true) {now : Int}
    {arrivals : List Arrival} (hbefore : ∀ entry ∈ limiter.buckets, entry.2.refilled = now)
    (hnow : ∀ arrival ∈ arrivals, arrival.clock.millis = now) :
    ∀ entry ∈ (limiter.after arrivals).buckets, entry.2.refilled = now := by
  induction arrivals generalizing limiter with
  | nil => exact hbefore
  | cons arrival later ih =>
    have hclock : arrival.clock.millis = now := hnow arrival List.mem_cons_self
    have hmet : (limiter.bucketOf arrival.client arrival.clock.millis).refilled = now := by
      rw [bucketOf]
      cases hlookup : limiter.buckets.lookup arrival.client with
      | none => exact hclock
      | some bucket =>
        obtain ⟨front, back, hbuckets, -⟩ := List.lookup_eq_some_iff.mp hlookup
        exact hbefore (arrival.client, bucket) (by rw [hbuckets]; simp)
    rw [after_cons, allow_eq henabled]
    refine ih henabled (fun entry hmem ↦ ?_) fun other hother ↦
      hnow other (List.mem_cons_of_mem _ hother)
    rcases mem_putBucket hmem with hnew | hkept
    · rw [hnew, Bucket.refilled_request, hmet, hclock, ite_self]
    · exact hbefore entry hkept

theorem idleMillis_bounds (settings : RateSettings) :
    0 ≤ (ofSettingsExact settings).idleMillis ∧
      (ofSettingsExact settings).idleMillis ≤ maxInt64 := by
  simp only [ofSettingsExact, maxInt64]
  omega

/-- An idle window after a burst, the limiter has forgotten it. -/
theorem sweep_after_burst {settings : RateSettings} (henabled : settings.enabled = true)
    (client : String) :
    (((ofSettingsExact settings).after (burst settings client ⟨0⟩)).sweep
      ⟨(ofSettingsExact settings).idleMillis⟩).2 = ofSettingsExact settings := by
  have hrefilled : ∀ entry ∈ ((ofSettingsExact settings).after (burst settings client ⟨0⟩)).buckets,
      entry.2.refilled = 0 :=
    refilled_after henabled (fun _ hmem ↦ absurd hmem List.not_mem_nil)
      fun arrival hmem ↦ by rw [mem_burst hmem]
  obtain ⟨hnonneg, hfits⟩ := idleMillis_bounds settings
  have hnone : retain (ofSettingsExact settings).idleMillis (ofSettingsExact settings).idleMillis
      ((ofSettingsExact settings).after (burst settings client ⟨0⟩)).buckets = (true, []) := by
    refine retain_eq_nil fun entry hmem ↦ ⟨_, Bucket.age?_eq_sub ?_ ?_, ?_⟩ <;>
      rw [hrefilled entry hmem] <;> omega
  rw [after_eq (ofSettingsExact settings) henabled, sweep]
  dsimp only
  rw [hnone]
  rfl

/-- With a sweep in between, both bursts of a rush find a full bucket. -/
theorem play_rush {settings : RateSettings} (henabled : settings.enabled = true)
    (client : String) :
    (ofSettingsExact settings).play (rush settings client) =
      (ofSettingsExact settings).serve (burst settings client ⟨0⟩) ++
        (ofSettingsExact settings).serve
          (burst settings client ⟨(ofSettingsExact settings).idleMillis⟩) := by
  have hlast (limiter : RateLimiter ℚ) (arrivals : List Arrival) :
      limiter.play (arrivals.map .request) = limiter.serve arrivals := by
    have happend := play_map_request_append limiter arrivals []
    rwa [List.append_nil, play, List.append_nil] at happend
  rw [rush, play_map_request_append, play, sweep_after_burst henabled, hlast]

theorem ordered_rush (settings : RateSettings) (client : String) :
    Ordered (rush settings client) := by
  obtain ⟨hnonneg, -⟩ := idleMillis_bounds settings
  have hclocks : (rush settings client).map (fun call ↦ call.clock.millis) =
      List.replicate settings.capacity 0 ++ (ofSettingsExact settings).idleMillis ::
        List.replicate settings.capacity (ofSettingsExact settings).idleMillis := by
    simp [rush, burst, Call.clock]
  refine List.pairwise_map.mp ?_
  rw [hclocks]
  simp [List.pairwise_append, List.pairwise_replicate, List.mem_replicate, hnonneg]

theorem clock_bounds_of_mem_rush {settings : RateSettings} {client : String} {arrival : Arrival}
    (h : arrival ∈ requests (rush settings client)) :
    0 ≤ arrival.clock.millis ∧ arrival.clock.millis ≤ (ofSettingsExact settings).idleMillis := by
  obtain ⟨hnonneg, -⟩ := idleMillis_bounds settings
  rw [requests_rush] at h
  rcases List.mem_append.mp h with hfirst | hsecond
  · rw [mem_burst hfirst]
    exact ⟨le_rfl, hnonneg⟩
  · rw [mem_burst hsecond]
    exact ⟨hnonneg, le_rfl⟩

theorem paced_rush (settings : RateSettings) (client : String) :
    Paced (requests (rush settings client)) := by
  obtain ⟨-, hfits⟩ := idleMillis_bounds settings
  intro other
  refine List.Pairwise.isChain (List.pairwise_map.mpr ?_)
  refine List.pairwise_of_forall_mem_list fun earlier hearlier later hlater ↦ ?_
  have hstart := (clock_bounds_of_mem_rush (List.mem_of_mem_filter hearlier)).1
  have hstop := (clock_bounds_of_mem_rush (List.mem_of_mem_filter hlater)).2
  omega

/-- Of the requests between two instants, a client gets no more admitted than a full bucket and what
comes back meanwhile pay for. -/
theorem admitted_answersTo_le {settings : RateSettings} (henabled : settings.enabled = true)
    (hrate : 0 ≤ exactValue settings.refillPerSecond) {arrivals : List Arrival}
    (hturn : InTurn arrivals) {start stop : Int} (hspan : start ≤ stop)
    (hwithin : ∀ arrival ∈ arrivals, start ≤ arrival.clock.millis ∧ arrival.clock.millis ≤ stop)
    (client : String) :
    (Bucket.admitted ((ofSettingsExact settings).answersTo client arrivals) : ℚ) ≤
      settings.capacity + Bucket.gain (exactValue settings.refillPerSecond) start stop := by
  have hlimiter : (ofSettingsExact settings).enabled = true := henabled
  rw [answersTo_eq hlimiter]
  refine Bucket.admitted_le_of_infix hrate (Nat.cast_nonneg settings.capacity)
    (fun _ hnone ↦ by cases hnone) (hturn.clocks client) (List.infix_refl _)
    (fun answer hmem ↦ ?_) hspan
  have hclock := List.mem_map_of_mem (f := Prod.fst) hmem
  rw [Bucket.map_fst_answers] at hclock
  obtain ⟨arrival, harrival, hsame⟩ := List.mem_map.mp hclock
  rw [← hsame]
  exact hwithin arrival (List.mem_of_mem_filter harrival)

/-- Without the sweep, a rush is refused in part if the window is too short for a whole bucket. -/
theorem play_rush_ne_serve {settings : RateSettings} (henabled : settings.enabled = true)
    (hrate : 0 ≤ exactValue settings.refillPerSecond)
    (hshort : exactValue settings.refillPerSecond * (ofSettingsExact settings).idleMillis / 1000 <
      settings.capacity) (client : String) :
    (ofSettingsExact settings).play (rush settings client) ≠
      (ofSettingsExact settings).serve (requests (rush settings client)) := by
  intro hsame
  rw [play_rush henabled] at hsame
  have htwice : Bucket.admitted ((ofSettingsExact settings).answersTo client
      (requests (rush settings client))) = settings.capacity + settings.capacity := by
    rw [answersTo, ← hsame, List.filter_append, List.map_append, Bucket.admitted,
      List.countP_append]
    exact congrArg₂ (· + ·) (admitted_burst henabled client _) (admitted_burst henabled client _)
  have hbound := admitted_answersTo_le henabled hrate (ordered_rush settings client).inTurn
    (idleMillis_bounds settings).1 (fun _ hmem ↦ clock_bounds_of_mem_rush hmem) client
  rw [htwice, Nat.cast_add, Bucket.gain, Int.cast_zero, sub_zero] at hbound
  linarith

theorem exactValue_ten : exactValue 10 = 10 := by
  have hunpacked : (10 : Float).toModel.unpack =
      .finite .positive 5629499534213120 (-49) (by decide) := by
    rfl
  rw [exactValue, hunpacked]
  norm_num

/-! ### When sweeps go unnoticed -/

/-- Sweeps change no answer, whatever is requested and whenever they are made, while the clock runs
forwards and no client waits for longer than 64 bits can tell. -/
def SweepsUnseen (settings : RateSettings) : Prop :=
  ∀ calls : List Call, Ordered calls → Paced (requests calls) →
    (ofSettingsExact settings).play calls = (ofSettingsExact settings).serve (requests calls)

/-- Limiters that let everything through answer the same with sweeps and without them. -/
theorem play_eq_serve_of_disabled {limiter kept : RateLimiter ℚ}
    (hlimiter : limiter.enabled = false) (hkept : kept.enabled = false) (calls : List Call) :
    limiter.play calls = kept.serve (requests calls) := by
  induction calls generalizing limiter with
  | nil => rfl
  | cons call calls ih =>
    cases call with
    | sweep clock =>
      have hswept : (limiter.sweep clock).2.enabled = false := hlimiter
      exact ih hswept
    | request arrival =>
      have hrequests : requests (.request arrival :: calls) = arrival :: requests calls := rfl
      rw [hrequests, play, serve, allow, allow, hlimiter, hkept]
      exact congrArg _ (ih hlimiter)

/-- With settings that can work, sweeps go unnoticed if and only if a whole bucket comes back within
the idle window, or nothing is limited at all. -/
theorem sweepsUnseen_iff {settings : Settings} (h : settings.validate = .ok ()) :
    SweepsUnseen settings.rate ↔
      (settings.rate.enabled = true → (settings.rate.capacity : ℚ) ≤
        exactValue settings.rate.refillPerSecond * (ofSettingsExact settings.rate).idleMillis /
          1000) := by
  obtain ⟨hcapacity, hrate⟩ := positive_of_validate h
  constructor
  · intro hunseen henabled
    by_contra hshort
    let client := "10.0.0.1"
    exact play_rush_ne_serve henabled hrate.le (not_le.mp hshort) client
      (hunseen (rush settings.rate client) (ordered_rush settings.rate client)
        (paced_rush settings.rate client))
  · intro hback calls hordered hpaced
    by_cases henabled : settings.rate.enabled = true
    · have hrecovers : (ofSettingsExact settings.rate).Recovers :=
        ⟨henabled, Nat.one_le_cast.mpr hcapacity, hrate, hback henabled⟩
      cases calls with
      | nil => rfl
      | cons call later =>
        have hstart : ∀ other ∈ call :: later, call.clock.millis ≤ other.clock.millis :=
          List.forall_mem_cons.mpr ⟨le_rfl, (List.pairwise_cons.mp hordered).1⟩
        exact (Shadows.refl_of_nil rfl call.clock.millis).play_eq_serve hrecovers hordered hstart
          (hpaced.isChain_near hordered.inTurn)
    · have hdisabled : (ofSettingsExact settings.rate).enabled = false :=
        Bool.eq_false_of_not_eq_true henabled
      exact play_eq_serve_of_disabled hdisabled hdisabled calls

/-- The settings that a limiter has by default let sweeps go unnoticed. -/
theorem sweepsUnseen_default :
    ({} : Settings).validate = .ok () ∧ SweepsUnseen ({} : Settings).rate := by
  have hvalid : ({} : Settings).validate = .ok () := by
    rfl
  have hidle : (ofSettingsExact {}).idleMillis = 600000 := by
    rfl
  refine ⟨hvalid, (sweepsUnseen_iff hvalid).mpr fun _ ↦ ?_⟩
  rw [exactValue_ten, hidle]
  norm_num

/-- With a window of one second, settings that are accepted let a client through more often because
of a sweep. -/
theorem sweep_seen_after_one_second :
    let settings : Settings := { rate := { idleSeconds := 1 } }
    let calls := rush settings.rate "10.0.0.1"
    settings.validate = .ok () ∧ Ordered calls ∧ Paced (requests calls) ∧
      (ofSettingsExact settings.rate).play calls ≠
        (ofSettingsExact settings.rate).serve (requests calls) := by
  have hvalid : ({ rate := { idleSeconds := 1 } } : Settings).validate = .ok () := by
    rfl
  have hidle : (ofSettingsExact { idleSeconds := 1 }).idleMillis = 1000 := by
    rfl
  refine ⟨hvalid, ordered_rush _ _, paced_rush _ _, play_rush_ne_serve rfl ?_ ?_ _⟩
  · rw [exactValue_ten]
    norm_num
  · rw [exactValue_ten, hidle]
    norm_num

end RateLimiter

end StompBroker
