import StompBroker.Proofs.Broker.Consistent

/-!
# What stands in the journal

The broker only appends to its journal, and every frame that an operation writes has a cause in the
state in which the operation's output began: `Sent` is a `Reply` or a message to a session that is
`Addressed`, and `Caused` adds that the session was live and its version was used
(`exists_journal_run`).
-/

set_option autoImplicit false

namespace StompBroker.Broker

variable {setting : Setting} {operation : Operation}
  {origin broker after : Broker} {id other : SessionId}

/-! ### Sinks -/

theorem lookup_putSink {sink : Sink} (sinks : List (SessionId × Sink)) :
    (putSink id sink sinks).lookup other =
      if id = other then some sink else sinks.lookup other := by
  induction sinks with
  | nil => exact Rows.lookup_cons []
  | cons entry sinks ih =>
    obtain ⟨kept, keptSink⟩ := entry
    rw [putSink]
    by_cases hkept : kept = id
    · rw [if_pos hkept, Rows.lookup_cons, Rows.lookup_cons, hkept]
      by_cases hid : id = other
      · rw [if_pos hid, if_pos hid]
      · rw [if_neg hid, if_neg hid, if_neg hid]
    · rw [if_neg hkept, Rows.lookup_cons, Rows.lookup_cons, ih]
      by_cases hother : kept = other
      · have hid : id ≠ other := fun heq ↦ hkept (hother.trans heq.symm)
        rw [if_pos hother, if_neg hid, if_pos hother]
      · rw [if_neg hother, if_neg hother]

theorem sink_setSink {sink : Sink} :
    (broker.setSink id sink).sink other = if id = other then sink else broker.sink other := by
  unfold Broker.sink setSink
  simp only
  rw [lookup_putSink]
  by_cases hid : id = other
  · rw [if_pos hid, if_pos hid, Option.getD_some]
  · rw [if_neg hid, if_neg hid]

/-! ### What is appended -/

/-- A frame that an operation may write to a session once its output begins at `origin`. -/
inductive Sent (operation : Operation) (origin : Broker) (session : Session) :
    Frame → Prop
  | reply {frame : Frame} : Reply operation session frame → Sent operation origin session frame
  | message {destination subscription : String} (number : Nat) (contentType : String)
    (body : Bytes) :
    Addressed origin session destination subscription →
      Sent operation origin session
        (.message destination subscription (toString number) contentType body)

/-- What is behind an event. -/
def Caused (operation : Operation) (origin : Broker) : Event → Prop
  | .wrote id version frame _ =>
    ∃ session, origin.registry.get? id = some session ∧ session.version = version ∧
      Sent operation origin session frame
  | .closed _ _ | .answered _ _ => True

theorem journal_of_change (h : Change setting operation broker after) :
    after.journal = broker.journal := by
  cases h with
  | none => rfl
  | opened _ _ => rfl
  | enrolled _ _ _ _ _ _ _ henrol =>
    obtain ⟨registry, -, rfl⟩ := enrol_eq_ok_iff.mp henrol
    rfl
  | subscribed _ _ _ _ _ _ _ => rfl
  | unsubscribed _ _ _ _ _ => rfl

theorem exists_journal_of_output (h : Output setting operation origin broker after) :
    ∃ events, after.journal = broker.journal ++ events ∧
      ∀ event ∈ events, Caused operation origin event := by
  cases h with
  | replied hlive hreply =>
    refine ⟨_, rfl, fun event hmem ↦ ?_⟩
    obtain rfl := List.mem_singleton.mp hmem
    exact ⟨_, hlive, rfl, .reply hreply⟩
  | delivered contentType body freeAt hlive haddressed =>
    refine ⟨_, rfl, fun event hmem ↦ ?_⟩
    obtain rfl := List.mem_singleton.mp hmem
    exact ⟨_, hlive, rfl, .message _ contentType body haddressed⟩
  | detached id =>
    refine ⟨[], ?_, by simp⟩
    cases hget : broker.registry.get? id with
    | none => rw [detach_of_none hget, List.append_nil]
    | some session => rw [detach_of_some hget, List.append_nil]
  | postponed closing => exact ⟨[], by simp, by simp⟩
  | closed id =>
    refine ⟨_, rfl, fun event hmem ↦ ?_⟩
    obtain rfl := List.mem_singleton.mp hmem
    trivial
  | answered id payload =>
    refine ⟨_, rfl, fun event hmem ↦ ?_⟩
    obtain rfl := List.mem_singleton.mp hmem
    trivial

theorem exists_journal_of_outputs (h : Outputs setting operation origin broker after) :
    ∃ events, after.journal = broker.journal ++ events ∧
      ∀ event ∈ events, Caused operation origin event := by
  induction h with
  | refl => exact ⟨[], by simp, by simp⟩
  | tail _ houtput ih =>
    obtain ⟨earlier, hearlier, hcaused⟩ := ih
    obtain ⟨later, hlater, hcaused'⟩ := exists_journal_of_output houtput
    refine ⟨earlier ++ later, by rw [hlater, hearlier, List.append_assoc], fun event hmem ↦ ?_⟩
    rcases List.mem_append.mp hmem with hmem | hmem
    · exact hcaused event hmem
    · exact hcaused' event hmem

/-- All that an operation writes is caused by the state after its change, and the sessions that were
on record then still are. -/
theorem exists_journal_run (h : Consistent broker) {operation : Operation}
    (hfresh : operation.Fresh broker) :
    ∃ middle events, Change setting operation broker middle ∧
      (broker.run setting operation).journal = broker.journal ++ events ∧
      (∀ event ∈ events, Caused operation middle event) ∧
      ∀ id session, middle.session? id = some session →
        ∃ kept, (broker.run setting operation).session? id = some kept ∧
          kept.version = session.version ∧ kept.username = session.username := by
  obtain ⟨middle, hchange, houtputs⟩ := exists_change_outputs setting broker operation hfresh
  obtain ⟨events, hevents, hcaused⟩ := exists_journal_of_outputs houtputs
  refine ⟨middle, events, hchange, ?_, hcaused, fun id session hsession ↦ ?_⟩
  · rw [hevents, journal_of_change hchange]
  · exact exists_session?_of_outputs (h.change hchange) houtputs hsession

end StompBroker.Broker
