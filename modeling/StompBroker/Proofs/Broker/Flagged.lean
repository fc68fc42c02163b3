import StompBroker.Proofs.Broker.Answer
import StompBroker.Proofs.Broker.Teardown

/-!
# Sessions that were not reached

A write that is refused or runs into its deadline should cost the session its place: a message that
does not arrive takes its session out of the books, and behind an ERROR or a CONNECTED that does not
arrive the reading half is told to end. One write is `Overlooked`: a receipt behind which the
connection goes on. Of all writes that fail these are the only ones that leave their session as it
is (`flags_of_reachable`).
-/

set_option autoImplicit false

namespace StompBroker.Broker

variable {setting : Setting} {operation : Operation} {broker middle after : Broker}
  {id other : SessionId} {session : Session} {frame : Frame} {events writes : List Event}

/-! ### Operations that write nothing -/

theorem unwritten_foldl {step : Broker → SessionId → Broker}
    (hstep : ∀ broker other, Unwritten id broker (step broker other)) (ids : List SessionId) :
    Unwritten id broker (ids.foldl step broker) :=
  List.foldlRecOn ids step (unwritten_of_journal_eq rfl) fun _ hbefore other _ ↦
    hbefore.trans (hstep _ other)

theorem Unwritten.not_failed (h : Unwritten id broker after)
    (hjournal : after.journal = broker.journal ++ events) : ¬Failed events id := by
  obtain ⟨quiet, hquiet, hnone⟩ := h
  obtain rfl : events = quiet := List.append_cancel_left (hjournal.symm.trans hquiet)
  rintro ⟨event, hmem, hfails⟩
  cases event with
  | wrote recipient version frame outcome =>
    obtain ⟨rfl, -⟩ := hfails
    exact hnone version frame outcome hmem
  | closed _ _ => exact hfails
  | answered _ _ => exact hfails

/-! ### Sessions that are flagged -/

/-- What a reading half is told about its frame, or about what it takes for an offence. -/
def answer? (setting : Setting) (broker : Broker) : Operation → Option (SessionId × Flow)
  | .handleFrame id frame => some (id, (broker.handleFrame setting id frame).1)
  | .refuse id cause =>
    some (id, (broker.protocolError setting id (.protocol cause.message)).1)
  | .timeOut id => some (id, (broker.reject setting id Socket.connectTimeout none).1)
  | _ => none

/-- The session is taken out, or its reading half is told to end. -/
def Flagged (setting : Setting) (broker : Broker) (operation : Operation) (id : SessionId) : Prop :=
  (broker.run setting operation).Absent id ∨ broker.answer? setting operation = some (id, .close)

/-- Nothing but the receipt for a frame did not reach its client, and the connection goes on. -/
def Overlooked (setting : Setting) (broker : Broker) (operation : Operation) (id : SessionId)
    (events : List Event) : Prop :=
  ∃ frame, operation = .handleFrame id frame ∧
    (broker.handleFrame setting id frame).1 = .continue ∧
      ∀ event ∈ events, event.Fails id → ∃ version receipt outcome,
        event = .wrote id version (.receipt receipt) outcome

/-- What an operation makes of a write that failed. -/
def Judged (setting : Setting) (broker : Broker) (operation : Operation) : Prop :=
  ∀ id events, (broker.run setting operation).journal = broker.journal ++ events →
    Failed events id →
      (Flagged setting broker operation id ↔ ¬Overlooked setting broker operation id events)

theorem judged_of_unwritten (h : ∀ id, Unwritten id broker (broker.run setting operation)) :
    Judged setting broker operation :=
  fun id _ hjournal hfailed ↦ absurd hfailed ((h id).not_failed hjournal)

/-- A session that was not reached with a message is taken out. -/
theorem Processed.absent (h : Processed broker middle writes) (hconsistent : Consistent after)
    (hregistry : after.registry = middle.registry) (hfailed : Failed writes id) :
    after.Absent id := by
  refine hconsistent.absent ?_
  rw [hregistry]
  exact (h.removed_iff id).mpr (.inr hfailed)

/-- A message that is not received is not overlooked: it is no receipt. -/
theorem Processed.not_overlooked (h : Processed broker middle writes) (hmissed : Failed writes id)
    (hwithin : writes ⊆ events) : ¬Overlooked setting broker operation id events := by
  rintro ⟨frame, -, -, hreceipt⟩
  obtain ⟨event, hmem, hfails⟩ := hmissed
  obtain ⟨version, receipt, outcome, rfl⟩ := hreceipt event (hwithin hmem) hfails
  rcases h.frames _ _ _ _ hmem with hcommand | hcommand <;> cases hcommand

theorem Processed.judged (h : Processed broker (broker.run setting operation) writes)
    (hconsistent : Consistent (broker.run setting operation)) :
    Judged setting broker operation := by
  intro id events hjournal hfailed
  obtain rfl : events = writes := List.append_cancel_left (hjournal.symm.trans h.journal)
  exact iff_of_true (.inl (h.absent hconsistent rfl hfailed))
    (h.not_overlooked hfailed (List.Subset.refl events))

/-- Only one session was written to, so only that one can have been missed. -/
theorem eq_of_failed
    (hown : ∃ events, after.journal = broker.journal ++ events ∧
      ∀ event ∈ events, ∃ version frame outcome, event = .wrote id version frame outcome)
    (hjournal : after.journal = broker.journal ++ events) (hfailed : Failed events other) :
    other = id := by
  obtain ⟨writes, hwrites, hown⟩ := hown
  obtain rfl : events = writes := List.append_cancel_left (hjournal.symm.trans hwrites)
  obtain ⟨event, hmem, hfails⟩ := hfailed
  obtain ⟨version, frame, outcome, rfl⟩ := hown event hmem
  exact hfails.1.symm

/-- A reading half that is told to end has no write overlooked. -/
theorem judged_of_close (hanswer : broker.answer? setting operation = some (id, .close))
    (hown : ∃ events, (broker.run setting operation).journal = broker.journal ++ events ∧
      ∀ event ∈ events, ∃ version frame outcome, event = .wrote id version frame outcome) :
    Judged setting broker operation := by
  intro other events hjournal hfailed
  obtain rfl := eq_of_failed hown hjournal hfailed
  refine iff_of_true (.inr hanswer) ?_
  rintro ⟨frame, rfl, hcontinue, -⟩
  rw [answer?, hcontinue] at hanswer
  cases hanswer

/-! ### Frames of a client -/

/-- The one write behind a frame that was processed is the receipt for its own client. -/
theorem Receipted.of_fails {recipient : Session} (h : Receipted recipient frame events)
    {event : Event} (hmem : event ∈ events) (hfails : event.Fails id) :
    recipient.id = id ∧
      ∃ version receipt outcome, event = .wrote id version (.receipt receipt) outcome := by
  cases h with
  | none _ => cases hmem
  | written outcome _ =>
    obtain rfl := List.mem_singleton.mp hmem
    obtain ⟨rfl, -⟩ := hfails
    exact ⟨rfl, _, _, _, rfl⟩

/-- Behind a frame that was processed, its receipt alone can be overlooked, and is unless the
connection ends. -/
theorem Processed.judged_sendReceipt {recipient : Session} {flow : Flow}
    (h : Processed broker middle writes) (hlive : broker.registry.get? session.id = some session)
    (hid : recipient.id = session.id)
    (hhandled : broker.handleFrame setting session.id frame =
      (flow, middle.sendReceipt setting recipient frame))
    (hconsistent : Consistent (middle.sendReceipt setting recipient frame)) :
    Judged setting broker (.handleFrame session.id frame) := by
  have hrun : broker.run setting (.handleFrame session.id frame) =
      middle.sendReceipt setting recipient frame := congrArg Prod.snd hhandled
  have hregistry := (books_sendReceipt setting middle recipient frame).1
  obtain ⟨receipts, hreceipted, hreceipts⟩ := exists_receipted setting middle recipient frame
  intro id events hjournal hfailed
  obtain rfl : events = writes ++ receipts := by
    rw [hrun, hreceipts, h.journal, List.append_assoc] at hjournal
    exact (List.append_cancel_left hjournal).symm
  by_cases hmissed : Failed writes id
  · exact iff_of_true (.inl (hrun ▸ h.absent hconsistent hregistry hmissed))
      (h.not_overlooked hmissed (List.subset_append_left writes receipts))
  have hreceipt : ∀ event ∈ writes ++ receipts, event.Fails id → event ∈ receipts :=
    fun event hmem hfails ↦ (List.mem_append.mp hmem).resolve_left fun hwrite ↦
      hmissed ⟨event, hwrite, hfails⟩
  obtain ⟨failure, hmem, hfails⟩ := hfailed
  obtain ⟨rfl, -⟩ := hreceipted.of_fails (hreceipt failure hmem hfails) hfails
  have hanswer : broker.answer? setting (.handleFrame session.id frame) =
      some (recipient.id, flow) := by
    rw [answer?, hhandled, hid]
  cases flow with
  | close =>
    refine iff_of_true (.inr hanswer) ?_
    rintro ⟨other, hoperation, hcontinue, -⟩
    obtain ⟨-, rfl⟩ := Operation.handleFrame.inj hoperation
    rw [hid, hhandled] at hcontinue
    cases hcontinue
  | «continue» =>
    refine iff_of_false ?_ (not_not.mpr ?_)
    · rintro (habsent | hclose)
      · have hremoved : middle.registry.get? recipient.id = none := by
          rw [← hregistry, ← hrun]
          exact habsent.removed
        rcases (h.removed_iff recipient.id).mp hremoved with hbefore | hlost
        · rw [hid, hlive] at hbefore
          cases hbefore
        · exact hmissed hlost
      · rw [hanswer] at hclose
        cases hclose
    · refine ⟨frame, by rw [hid], by rw [hid, hhandled], fun event hmem hfails ↦ ?_⟩
      exact (hreceipted.of_fails (hreceipt event hmem hfails) hfails).2

theorem Honoured.judged
    (h : Honoured setting broker session frame (broker.handleFrame setting session.id frame))
    (hlive : broker.registry.get? session.id = some session)
    (hconsistent : Consistent (broker.handleFrame setting session.id frame).2) :
    Judged setting broker (.handleFrame session.id frame) := by
  generalize hhandled : broker.handleFrame setting session.id frame = answer at h hconsistent
  cases h with
  | confirmed hprocessed hid => exact hprocessed.judged_sendReceipt hlive hid hhandled hconsistent
  | unwelcomed hfailed hjournal =>
    refine judged_of_close (by rw [answer?, hhandled]) ?_
    rw [Broker.run, hhandled]
    exact ⟨_, hjournal, by simp⟩

theorem judged_handleFrame (hconsistent : Consistent broker) (hproper : Proper broker)
    (setting : Setting) (id : SessionId) (frame : Frame) :
    Judged setting broker (.handleFrame id frame) := by
  cases hlive : broker.registry.get? id with
  | none =>
    have hnothing : broker.run setting (.handleFrame id frame) = broker := by
      rw [Broker.run, handleFrame, hlive]
    exact judged_of_unwritten fun _ ↦ unwritten_of_journal_eq (congrArg Broker.journal hnothing)
  | some session =>
    obtain rfl := Registry.id_of_get? hlive
    by_cases hrejected : Rejected setting session frame
    · obtain ⟨text, detail, hanswer⟩ := errs_handleFrame hlive hrejected
      refine judged_of_close (by rw [answer?, hanswer]) ?_
      rw [Broker.run, hanswer]
      exact (confined_send setting broker session (.error text detail)).journal
    · have hafter : Consistent (broker.run setting (.handleFrame session.id frame)) :=
        hconsistent.run trivial
      exact (honoured_handleFrame hconsistent hproper hlive hrejected).judged hlive hafter

/-! ### All operations -/

theorem judged_run (hconsistent : Consistent broker) (hproper : Proper broker) (setting : Setting)
    (hfresh : operation.Fresh broker) : Judged setting broker operation := by
  have hafter : Consistent (broker.run setting operation) := hconsistent.run hfresh
  cases operation with
  | openSession id sink => exact judged_of_unwritten fun _ ↦ unwritten_of_journal_eq rfl
  | handleFrame id frame => exact judged_handleFrame hconsistent hproper setting id frame
  | refuse id cause =>
    exact judged_of_close (by rw [answer?, protocolError, flow_reject])
      (confined_reject _ _).journal
  | timeOut id => exact judged_of_close (by rw [answer?, flow_reject]) (confined_reject _ _).journal
  | answerPing id payload => exact judged_of_unwritten fun _ ↦ ⟨_, rfl, by simp⟩
  | broadcast destination body =>
    obtain ⟨writes, hprocessed⟩ :=
      exists_processed_publish hconsistent setting destination jsonContentType body
    exact hprocessed.judged hafter
  | sendToUser recipient body =>
    obtain ⟨writes, hprocessed⟩ := exists_processed_deliverToUser hconsistent hproper setting
      recipient Topic.greeting jsonContentType body
    exact hprocessed.judged hafter
  | sendToQueue recipient queue body =>
    obtain ⟨writes, hprocessed⟩ := exists_processed_deliverToUser hconsistent hproper setting
      recipient queue jsonContentType body
    exact hprocessed.judged hafter
  | broadcastNotice body =>
    obtain ⟨writes, hprocessed⟩ :=
      exists_processed_publish hconsistent setting Topic.notice jsonContentType body
    exact hprocessed.judged hafter
  | broadcastDictionaryChange code =>
    obtain ⟨writes, hprocessed⟩ := exists_processed_publish hconsistent setting Topic.dictionary
      jsonContentType (dictionaryChange code)
    exact hprocessed.judged hafter
  | closeSession other => exact judged_of_unwritten fun id ↦ unwritten_closeSession broker id other
  | closeAll =>
    exact judged_of_unwritten fun id ↦
      unwritten_foldl (fun broker other ↦ unwritten_closeSession broker id other) _
  | closeLeft =>
    refine judged_of_unwritten fun id ↦ ?_
    have hwaiting : Unwritten id broker { broker with closing := [] } :=
      unwritten_of_journal_eq rfl
    exact hwaiting.trans (unwritten_foldl (fun _ _ ↦ ⟨_, rfl, by simp⟩) _)

/-- A write that fails takes its session out or ends its connection, unless it is overlooked. -/
structure Flags (broker : Broker) : Prop where
  judged : ∀ setting operation, operation.Fresh broker → Judged setting broker operation
  /-- Whatever a session is rejected for, its connection ends, and it alone is written to. -/
  rejected : ∀ setting id text detail, (broker.reject setting id text detail).1 = .close ∧
    ∀ other events, (broker.reject setting id text detail).2.journal = broker.journal ++ events →
      Failed events other → other = id

/-- Whatever was asked of the broker and whatever its sinks do, receipts are all that is
overlooked. -/
theorem flags_of_reachable {allowed : Setting → Broker → Operation → Prop}
    (h : Reachable allowed broker) : Flags broker where
  judged setting _ hfresh := judged_run h.consistent h.proper setting hfresh
  rejected setting id text detail :=
    ⟨flow_reject setting broker id text detail, fun _ _ hjournal hfailed ↦
      eq_of_failed (confined_reject text detail).journal hjournal hfailed⟩

/-! ### A receipt that is overlooked -/

namespace Forgery

/-- A subscription that asks for a receipt. -/
def registered : Frame where
  command := .subscribe
  headers := [(Header.id, "0"), (Header.destination, "/topic/x"), (Header.receipt, "done")]
  body := []

end Forgery

theorem flags_of_reachable_exhausted :
    Reachable Anything Forgery.exhausted ∧ Flags Forgery.exhausted :=
  ⟨Forgery.reachable_exhausted, flags_of_reachable Forgery.reachable_exhausted⟩

/-- The receipt for a subscription is refused, and the session stays as if it were not. -/
theorem not_flagged_exhausted :
    let operation : Operation := .handleFrame Forgery.receiver Forgery.registered
    let after := Forgery.exhausted.run Forgery.setting operation
    let events : List Event :=
      [.wrote Forgery.receiver .v10 (.receipt "done") (.refused "sink failed")]
    Reachable Anything Forgery.exhausted ∧ operation.Fresh Forgery.exhausted ∧
      after.journal = Forgery.exhausted.journal ++ events ∧ Failed events Forgery.receiver ∧
      after.table.entries = [("/topic/x", ⟨Forgery.receiver, "0"⟩)] ∧
      ¬Flagged Forgery.setting Forgery.exhausted operation Forgery.receiver := by
  intro operation after events
  refine ⟨Forgery.reachable_exhausted, trivial, by decide, ?_, by decide, ?_⟩
  · exact ⟨_, List.mem_cons_self, rfl, by decide⟩
  · rintro (habsent | hclose)
    · have hlive : after.registry.get? Forgery.receiver ≠ none := by decide
      exact hlive habsent.removed
    · have hcontinue : Forgery.exhausted.answer? Forgery.setting operation =
          some (Forgery.receiver, .continue) := rfl
      rw [hcontinue] at hclose
      cases hclose

end StompBroker.Broker
