import StompBroker.Proofs.Broker.Journal
import StompBroker.Proofs.Text.Decimal

/-!
# Which ids messages have

Every attempt to write a message takes the next value of the counter, whatever becomes of the write.
So the ids of the messages in the journal are the numbers from one on, and the counter is the next
of them (`Numbered`). Changes keep that, since they neither write nor count, and so does output, of
which only deliveries write messages.

The counter has 64 bits. Two messages of a broker have the same id exactly if their places in the
journal differ by a multiple of 2⁶⁴ (`Numbered.getElem?_messageIds_eq_iff`), and so no id is used
twice in all that comes later, up to that number of messages (`Numbered.nodup_messageIds_iff`).
-/

set_option autoImplicit false

namespace StompBroker

/-- The message that was written, or could not be. -/
def Event.message? : Event → Option Frame
  | .wrote _ _ frame _ => if frame.command = .message then some frame else none
  | .closed _ _ | .answered _ _ => none

namespace Broker

variable {setting : Setting} {operation : Operation} {origin broker after : Broker}

/-! ### Numbers of 64 bits one after the other -/

/-- So many numbers from the first on. -/
def numbersFrom (first : UInt64) (count : Nat) : List UInt64 :=
  (List.range count).map fun place ↦ first + .ofNat place

section Numbers

variable {first : UInt64} {count more i j : Nat}

@[simp]
theorem length_numbersFrom : (numbersFrom first count).length = count := by
  rw [numbersFrom, List.length_map, List.length_range]

theorem numbersFrom_one (first : UInt64) : numbersFrom first 1 = [first] := by
  simp [numbersFrom]

theorem numbersFrom_add : numbersFrom first (count + more) =
    numbersFrom first count ++ numbersFrom (first + .ofNat count) more := by
  simp only [numbersFrom, List.range_add, List.map_append, List.map_map, Function.comp_def,
    UInt64.ofNat_add, UInt64.add_assoc]

theorem add_ofNat_eq_iff :
    first + .ofNat i = first + .ofNat j ↔ i % UInt64.size = j % UInt64.size := by
  rw [UInt64.add_right_inj, UInt64.ofNat_eq_iff_mod_eq_toNat, UInt64.toNat_ofNat']

theorem getElem?_numbersFrom_eq_iff (hi : i < count) (hj : j < count) :
    (numbersFrom first count)[i]? = (numbersFrom first count)[j]? ↔
      i % UInt64.size = j % UInt64.size := by
  rw [numbersFrom, List.getElem?_map, List.getElem?_map, List.getElem?_range hi,
    List.getElem?_range hj, Option.map_some, Option.map_some, Option.some_inj, add_ofNat_eq_iff]

/-- Up to 2⁶⁴ of them are different from each other. -/
theorem nodup_numbersFrom_iff : (numbersFrom first count).Nodup ↔ count ≤ UInt64.size := by
  rw [numbersFrom, List.nodup_map_iff_inj_on List.nodup_range]
  simp only [List.mem_range, add_ofNat_eq_iff]
  constructor
  · intro hinj
    by_contra hmany
    -- The first number comes again behind the last one.
    have hmore : UInt64.size < count := Nat.lt_of_not_le hmany
    have hagain : 0 % UInt64.size = UInt64.size % UInt64.size := by decide
    exact absurd (hinj 0 (Nat.zero_lt_of_lt hmore) UInt64.size hmore hagain) (by decide)
  · intro hfew i hi j hj hsame
    rwa [Nat.mod_eq_of_lt (Nat.lt_of_lt_of_le hi hfew),
      Nat.mod_eq_of_lt (Nat.lt_of_lt_of_le hj hfew)] at hsame

end Numbers

/-! ### The ids of messages -/

/-- The ids of all messages in the journal. -/
def messageIds (broker : Broker) : List (Option String) :=
  (broker.journal.filterMap Event.message?).map fun frame ↦ frame.header? Header.messageId

/-- The messages have the numbers from one on, and the counter is the next one. -/
structure Numbered (broker : Broker) : Prop where
  messageIds_eq : broker.messageIds =
    (numbersFrom 1 broker.messageIds.length).map fun number ↦ some (toString number)
  nextMessageId_eq : broker.nextMessageId = 1 + .ofNat broker.messageIds.length

theorem numbered_empty : Numbered {} :=
  ⟨rfl, rfl⟩

theorem idText_injective : Function.Injective fun number : UInt64 ↦ some (toString number) :=
  fun _ _ heq ↦ UInt64.toNat_inj.mp (Text.toString_inj.mp (Option.some.inj heq))

/-- No id is used twice as long as there are no more than 2⁶⁴ of them. -/
theorem Numbered.nodup_messageIds_iff (h : Numbered broker) :
    broker.messageIds.Nodup ↔ broker.messageIds.length ≤ UInt64.size := by
  rw [h.messageIds_eq, List.nodup_map_iff idText_injective, nodup_numbersFrom_iff, List.length_map,
    length_numbersFrom]

/-- An id comes again with every 2⁶⁴th message. -/
theorem Numbered.getElem?_messageIds_eq_iff (h : Numbered broker) {i j : Nat}
    (hi : i < broker.messageIds.length) (hj : j < broker.messageIds.length) :
    broker.messageIds[i]? = broker.messageIds[j]? ↔ i % UInt64.size = j % UInt64.size := by
  rw [h.messageIds_eq, List.getElem?_map, List.getElem?_map,
    (Option.map_injective idText_injective).eq_iff, getElem?_numbersFrom_eq_iff hi hj]

/-! ### Changes and output -/

/-- Without a new message the ids stay what they are. -/
theorem Numbered.congr (h : Numbered broker) {events : List Event}
    (hjournal : after.journal = broker.journal ++ events)
    (hquiet : events.filterMap Event.message? = [])
    (hcounter : after.nextMessageId = broker.nextMessageId) : Numbered after := by
  have hids : after.messageIds = broker.messageIds := by
    rw [messageIds, messageIds, hjournal, List.filterMap_append, hquiet, List.append_nil]
  constructor
  · rw [hids]
    exact h.messageIds_eq
  · rw [hids, hcounter]
    exact h.nextMessageId_eq

/-- A message with the next number is behind all others. -/
theorem Numbered.counted (h : Numbered broker) {id : SessionId} {version : Version} {frame : Frame}
    {outcome : WriteOutcome} (hcommand : frame.command = .message)
    (hid : frame.header? Header.messageId = some (toString broker.nextMessageId))
    (hjournal : after.journal = broker.journal ++ [.wrote id version frame outcome])
    (hcounter : after.nextMessageId = broker.nextMessageId + 1) : Numbered after := by
  have hmessage : Event.message? (.wrote id version frame outcome) = some frame := if_pos hcommand
  have hids : after.messageIds = broker.messageIds ++ [some (toString broker.nextMessageId)] := by
    rw [messageIds, hjournal, List.filterMap_append, List.filterMap_cons_some hmessage,
      List.map_append, List.filterMap_nil, List.map_singleton, hid]
    rfl
  have hlength : after.messageIds.length = broker.messageIds.length + 1 := by
    rw [hids, List.length_append, List.length_singleton]
  constructor
  · rw [hlength, numbersFrom_add, List.map_append, ← h.messageIds_eq, ← h.nextMessageId_eq,
      numbersFrom_one, hids]
    rfl
  · rw [hlength, UInt64.ofNat_add, ← UInt64.add_assoc, ← h.nextMessageId_eq, hcounter]
    rfl

theorem nextMessageId_of_change (h : Change setting operation broker after) :
    after.nextMessageId = broker.nextMessageId := by
  cases h with
  | none => rfl
  | opened _ _ => rfl
  | enrolled _ _ _ _ _ _ _ henrol =>
    obtain ⟨registry, -, rfl⟩ := enrol_eq_ok_iff.mp henrol
    rfl
  | subscribed _ _ _ _ _ _ _ => rfl
  | unsubscribed _ _ _ _ _ => rfl

theorem Numbered.change (h : Numbered broker) (hchange : Change setting operation broker after) :
    Numbered after := by
  have hjournal : after.journal = broker.journal ++ [] := by
    rw [journal_of_change hchange, List.append_nil]
  exact h.congr hjournal rfl (nextMessageId_of_change hchange)

theorem Reply.message?_eq_none {session : Session} {frame : Frame}
    (h : Reply operation session frame) (id : SessionId) (version : Version)
    (outcome : WriteOutcome) : Event.message? (.wrote id version frame outcome) = none := by
  cases h with
  | connected => rfl
  | receipt _ _ => rfl
  | error detail _ => cases detail <;> rfl

theorem Numbered.output (h : Numbered broker)
    (houtput : Output setting operation origin broker after) : Numbered after := by
  cases houtput with
  | replied _ hreply =>
    refine h.congr rfl ?_ rfl
    rw [List.filterMap_cons_none (hreply.message?_eq_none _ _ _), List.filterMap_nil]
  | delivered contentType body freeAt _ _ => exact h.counted rfl rfl rfl rfl
  | detached id =>
    cases hget : broker.registry.get? id with
    | none =>
      rw [detach_of_none hget]
      exact h
    | some session =>
      rw [detach_of_some hget]
      exact ⟨h.messageIds_eq, h.nextMessageId_eq⟩
  | postponed closing => exact ⟨h.messageIds_eq, h.nextMessageId_eq⟩
  | closed id => exact h.congr rfl rfl rfl
  | answered id payload => exact h.congr rfl rfl rfl

theorem Numbered.run (h : Numbered broker) (hfresh : operation.Fresh broker) :
    Numbered (broker.run setting operation) :=
  invariant_run hfresh (fun hchange ↦ h.change hchange)
    fun hnumbered houtput ↦ hnumbered.output houtput

theorem Reachable.numbered {allowed : Setting → Broker → Operation → Prop}
    (h : Reachable allowed broker) : Numbered broker :=
  h.invariant numbered_empty (fun _ _ hnumbered hchange ↦ hnumbered.change hchange)
    fun hnumbered houtput ↦ hnumbered.output houtput

/-! ### Later on -/

/-- The journal of one broker begins with that of another. -/
def Extends (broker after : Broker) : Prop :=
  ∃ events, after.journal = broker.journal ++ events

theorem Extends.refl : Extends broker broker :=
  ⟨[], (List.append_nil _).symm⟩

theorem Extends.change {middle : Broker} (h : Extends broker middle)
    (hchange : Change setting operation middle after) : Extends broker after := by
  obtain ⟨events, hevents⟩ := h
  exact ⟨events, by rw [journal_of_change hchange, hevents]⟩

theorem Extends.output {middle : Broker} (h : Extends broker middle)
    (houtput : Output setting operation origin middle after) : Extends broker after := by
  obtain ⟨events, hevents⟩ := h
  obtain ⟨added, hadded, -⟩ := exists_journal_of_output houtput
  exact ⟨events ++ added, by rw [hadded, hevents, List.append_assoc]⟩

/-- The journal only grows. -/
theorem extends_of_later {allowed : Setting → Broker → Operation → Prop} {later : Broker}
    (hlater : Later allowed broker later) : Extends broker later :=
  hlater.invariant Extends.refl (fun hextends hchange ↦ hextends.change hchange)
    fun hextends houtput ↦ hextends.output houtput

theorem Numbered.later (h : Numbered broker) {allowed : Setting → Broker → Operation → Prop}
    {later : Broker} (hlater : Later allowed broker later) : Numbered later :=
  hlater.invariant h (fun hnumbered hchange ↦ hnumbered.change hchange)
    fun hnumbered houtput ↦ hnumbered.output houtput

end Broker

end StompBroker
