import StompBroker.Proofs.Broker.Interleaving

/-!
# What a session leaves behind

A session may be taken out while its read loop is processing a frame. The frame goes on with the
session that it found, and if it is a SUBSCRIBE, its entry may come into the table after the table
was cleared of the session (`exists_entry_left_behind`). Nobody takes it out again: the read loop
finds the session gone and ends.

That is all that can be left behind. Once a session is out of the registry, its read loop finds it
no more, so only the SUBSCRIBE that had found it before may still enter something (`Reader.Owes`);
and when the read loop has ended, the table has the same entries of the session for good
(`entries_of_removed`).
-/

set_option autoImplicit false

namespace StompBroker

/-- A read loop is processing a SUBSCRIBE that may enter a subscription. -/
def Reader.Owes (reader : Reader) (subscription key : String) : Prop :=
  reader = .subscribing subscription key ∨ reader = .entering subscription key

namespace World

variable {setting : Broker.Setting} {world after later : World} {id other : SessionId}
  {key subscription : String}

/-! ### Steps of others -/

/-- A step does not concern a session. -/
structure Apart (id : SessionId) (world after : World) : Prop where
  reader : after.readers id = world.readers id
  departure : after.departures id = world.departures id
  live : after.broker.registry.get? id = none ↔ world.broker.registry.get? id = none
  entries : ∀ key subscription, (key, ⟨id, subscription⟩) ∈ after.broker.table.entries ↔
    (key, ⟨id, subscription⟩) ∈ world.broker.table.entries

theorem get?_openSession {broker : Broker} {sink : Sink} (hne : other ≠ id) :
    (broker.openSession setting other sink).registry.get? id = broker.registry.get? id := by
  have hget : (broker.openSession setting other sink).registry.get? id =
      if other = id then some { id := other, connectTime := setting.clock.millis }
        else broker.registry.get? id := Registry.get?_add
  rw [hget, if_neg hne]

theorem SessionStep.apart (h : SessionStep setting other world after) (hne : other ≠ id) :
    Apart id world after := by
  have hid : id ≠ other := fun heq ↦ hne heq.symm
  cases h with
  | opened sink _ =>
    refine ⟨by simp [hid], rfl, ?_, fun _ _ ↦ Iff.rfl⟩
    exact Eq.congr_left (get?_openSession hne)
  | found frame _ _ => exact ⟨by simp [hid], rfl, Iff.rfl, fun _ _ ↦ Iff.rfl⟩
  | missed _ _ => exact ⟨by simp [hid], rfl, Iff.rfl, fun _ _ ↦ Iff.rfl⟩
  | advanced =>
    refine ⟨by simp [advance, hid], rfl, Broker.get?_advance_eq_none_iff _,
      fun key subscription ↦ ?_⟩
    refine (Broker.mem_entries_advance _).trans ?_
    simp [hne]
  | stopped _ => exact ⟨by simp [hid], rfl, Iff.rfl, fun _ _ ↦ Iff.rfl⟩
  | removed _ =>
    refine ⟨rfl, by simp [hid], ?_, fun _ _ ↦ ?_⟩
    · simp [Broker.get?_strike, hne]
    · simp [Broker.table_strike]
  | left _ _ =>
    refine ⟨by simp [hid], by simp [hid], ?_, fun _ _ ↦ ?_⟩
    · simp [Broker.get?_strike, hne]
    · simp [Broker.table_strike]
  | leftBehind _ _ => exact ⟨by simp [hid], rfl, Iff.rfl, fun _ _ ↦ Iff.rfl⟩
  | closed _ _ => exact ⟨by simp [hid], rfl, Iff.rfl, fun _ _ ↦ Iff.rfl⟩
  | emptied _ =>
    refine ⟨rfl, by simp [hid], ?_, fun _ _ ↦ Iff.rfl⟩
    exact Broker.get?_revise_eq_none_iff fun _ heq ↦ heq
  | finished _ =>
    refine ⟨rfl, by simp [hid], Iff.rfl, fun _ _ ↦ ?_⟩
    refine SubscriptionTable.mem_entries_removeSession.trans ?_
    simp [hid]
  | sinkClosed _ => exact ⟨rfl, rfl, Iff.rfl, fun _ _ ↦ Iff.rfl⟩
  | replied version freeAt _ => exact ⟨rfl, rfl, Iff.rfl, fun _ _ ↦ Iff.rfl⟩

theorem PublisherStep.apart {name : Nat} (h : PublisherStep setting name world after) :
    Apart id world after := by
  cases h with
  | published message _ => exact ⟨rfl, rfl, Iff.rfl, fun _ _ ↦ Iff.rfl⟩
  | resolved _ => exact ⟨rfl, rfl, Iff.rfl, fun _ _ ↦ Iff.rfl⟩
  | wrote front target back freeAt _ => exact ⟨rfl, rfl, Iff.rfl, fun _ _ ↦ Iff.rfl⟩
  | rested _ => exact ⟨rfl, rfl, Iff.rfl, fun _ _ ↦ Iff.rfl⟩

/-- A step concerns a session, or it does not. -/
theorem Step.apart_or (h : Step world after) (id : SessionId) :
    Apart id world after ∨ ∃ setting, SessionStep setting id world after := by
  cases h with
  | session setting other hstep =>
    by_cases hid : other = id
    · subst hid
      exact .inr ⟨setting, hstep⟩
    · exact .inl (hstep.apart hid)
  | publisher setting name hstep => exact .inl hstep.apart

/-! ### Sessions that have left the registry -/

/-- A session is out of the registry, and of what its read loop was about to enter, nothing else can
come into the table once it was cleared. -/
structure Leaving (owing : Reader) (id : SessionId) (world : World) : Prop where
  gone : world.broker.registry.get? id = none
  opened : world.readers id ≠ .absent
  owes : ∀ subscription key, (world.readers id).Owes subscription key →
    owing.Owes subscription key
  entries : world.departures id = .finished → ∀ subscription key,
    (key, ⟨id, subscription⟩) ∈ world.broker.table.entries → owing.Owes subscription key

variable {owing : Reader}

theorem Leaving.apart (h : Leaving owing id world) (hapart : Apart id world after) :
    Leaving owing id after := by
  refine ⟨hapart.live.mpr h.gone, ?_, ?_, ?_⟩
  · rw [hapart.reader]
    exact h.opened
  · rw [hapart.reader]
    exact h.owes
  · rw [hapart.departure]
    intro hfinished subscription key hentry
    exact h.entries hfinished subscription key ((hapart.entries key subscription).mp hentry)

/-- Where an access takes a read loop that does not stay where it is. -/
theorem fst_advance_eq (id : SessionId) (reader : Reader) (broker : Broker) :
    (reader.advance id broker).1 = reader ∨
      (∃ name destination, (reader.advance id broker).1 = .entering name destination ∧
        reader = .subscribing name destination) ∨
      (reader.advance id broker).1 ≠ .absent ∧
        ∀ name destination, ¬(reader.advance id broker).1.Owes name destination := by
  cases reader with
  | connecting username version => exact .inr (.inr (by simp [Reader.advance, Reader.Owes]))
  | listing username =>
    cases hbind : broker.registry.bind id username <;>
      exact .inr (.inr (by simp [Reader.advance, Reader.Owes, hbind]))
  | subscribing name destination =>
    cases hfound : (broker.session? id).bind (·.subscribe? name destination) with
    | none => exact .inr (.inr (by simp [Reader.advance, Reader.Owes, hfound]))
    | some subscribed =>
      exact .inr (.inl ⟨name, destination, by simp [Reader.advance, hfound], rfl⟩)
  | entering name destination => exact .inr (.inr (by simp [Reader.advance, Reader.Owes]))
  | unsubscribing name =>
    cases hfound : (broker.session? id).bind (·.subscriptions.lookup name) <;>
      exact .inr (.inr (by simp [Reader.advance, Reader.Owes, hfound]))
  | withdrawing name destination => exact .inr (.inr (by simp [Reader.advance, Reader.Owes]))
  | _ => exact .inl rfl

theorem owes_of_owes_advance {reader : Reader} {broker : Broker}
    (h : (reader.advance id broker).1.Owes subscription key) : reader.Owes subscription key := by
  rcases fst_advance_eq id reader broker with
    hsame | ⟨name, destination, hentering, hreader⟩ | ⟨-, hnone⟩
  · rw [hsame] at h
    exact h
  · rw [hentering] at h
    rcases h with hsubscribing | hsame
    · cases hsubscribing
    · cases hsame
      exact .inl hreader
  · exact absurd h (hnone subscription key)

theorem advance_ne_absent {reader : Reader} {broker : Broker} (h : reader ≠ .absent) :
    (reader.advance id broker).1 ≠ .absent := by
  rcases fst_advance_eq id reader broker with
    hsame | ⟨name, destination, hentering, -⟩ | ⟨hopened, -⟩
  · rw [hsame]
    exact h
  · rw [hentering]
    exact Reader.noConfusion
  · exact hopened

theorem begin_ne_absent {session : Session} {frame : Frame} :
    Reader.begin setting session frame ≠ .absent := by
  unfold Reader.begin
  repeat' split
  all_goals exact Reader.noConfusion

/-- A read loop that ends its frame owes nothing. -/
theorem Leaving.setReader (h : Leaving owing id world) {reader : Reader}
    (hopened : reader ≠ .absent)
    (howes : ∀ subscription key, ¬reader.Owes subscription key) :
    Leaving owing id (world.setReader id reader) := by
  refine ⟨h.gone, by simpa using hopened, fun subscription key howed ↦ ?_, h.entries⟩
  rw [readers_setReader, if_pos rfl] at howed
  exact absurd howed (howes subscription key)

theorem Leaving.advance (h : Leaving owing id world) : Leaving owing id (world.advance id) := by
  constructor
  · exact (Broker.get?_advance_eq_none_iff _).mpr h.gone
  · rw [World.advance, readers_setReader, if_pos rfl]
    exact advance_ne_absent h.opened
  · rw [World.advance, readers_setReader, if_pos rfl]
    intro subscription key howed
    exact h.owes subscription key (owes_of_owes_advance howed)
  · intro hfinished subscription key hentry
    rcases (Broker.mem_entries_advance _).mp hentry with ⟨-, hentering⟩ | ⟨hold, -⟩
    · exact h.owes subscription key (.inr hentering)
    · exact h.entries hfinished subscription key hold

theorem Leaving.sessionStep (h : Leaving owing id world)
    (hstep : SessionStep setting id world after) : Leaving owing id after := by
  cases hstep with
  | opened sink habsent => exact absurd habsent h.opened
  | found frame _ hlive =>
    rw [h.gone] at hlive
    cases hlive
  | missed _ _ => exact h.setReader Reader.noConfusion (by simp [Reader.Owes])
  | advanced => exact h.advance
  | stopped _ => exact h.setReader Reader.noConfusion (by simp [Reader.Owes])
  | removed hlive =>
    rw [h.gone] at hlive
    cases hlive
  | left _ hlive =>
    rw [h.gone] at hlive
    cases hlive
  | leftBehind _ _ => exact h.setReader Reader.noConfusion (by simp [Reader.Owes])
  | closed _ _ => exact h.setReader Reader.noConfusion (by simp [Reader.Owes])
  | emptied _ =>
    refine ⟨Broker.get?_vacate_eq_none_iff.mpr h.gone, h.opened, h.owes, ?_⟩
    intro hfinished
    simp at hfinished
  | finished _ =>
    refine ⟨h.gone, h.opened, h.owes, fun _ subscription key hentry ↦ ?_⟩
    have hcleared := (SubscriptionTable.mem_entries_removeSession.mp hentry).2
    exact absurd rfl hcleared
  | sinkClosed _ => exact ⟨h.gone, h.opened, h.owes, h.entries⟩
  | replied version freeAt _ => exact ⟨h.gone, h.opened, h.owes, h.entries⟩

theorem Leaving.step (h : Leaving owing id world) (hstep : Step world after) :
    Leaving owing id after := by
  rcases hstep.apart_or id with hapart | ⟨setting, hsession⟩
  · exact h.apart hapart
  · exact h.sessionStep hsession

theorem Leaving.run (h : Leaving owing id world) (hrun : Run world after) :
    Leaving owing id after := by
  induction hrun with
  | refl => exact h
  | tail _ hstep ih => exact ih.step hstep

/-! ### Sessions that are gone -/

/-- A session is out of the registry, the table was cleared of it, and its read loop has ended. -/
structure Gone (id : SessionId) (world : World) : Prop where
  gone : world.broker.registry.get? id = none
  cleared : world.departures id = .finished
  ended : world.readers id = .ended

/-- No step brings back what is gone, or touches what it left behind. -/
theorem Gone.step (h : Gone id world) (hstep : Step world after) :
    Gone id after ∧ ∀ key subscription,
      (key, ⟨id, subscription⟩) ∈ after.broker.table.entries ↔
        (key, ⟨id, subscription⟩) ∈ world.broker.table.entries := by
  rcases hstep.apart_or id with hapart | ⟨setting, hsession⟩
  · refine ⟨⟨hapart.live.mpr h.gone, ?_, ?_⟩, hapart.entries⟩
    · rw [hapart.departure]
      exact h.cleared
    · rw [hapart.reader]
      exact h.ended
  · have hended := h.ended
    have hcleared := h.cleared
    have hgone := h.gone
    cases hsession with
    | advanced =>
      have hstays : world.advance id = (world.setBroker world.broker).setReader id .ended := by
        rw [World.advance, h.ended]
        rfl
      rw [hstays]
      exact ⟨⟨h.gone, h.cleared, by simp⟩, fun _ _ ↦ Iff.rfl⟩
    | sinkClosed _ => exact ⟨⟨h.gone, h.cleared, h.ended⟩, fun _ _ ↦ Iff.rfl⟩
    | replied version freeAt _ => exact ⟨⟨h.gone, h.cleared, h.ended⟩, fun _ _ ↦ Iff.rfl⟩
    | _ => simp_all

theorem Gone.run (h : Gone id world) (hrun : Run world after) :
    Gone id after ∧ ∀ key subscription,
      (key, ⟨id, subscription⟩) ∈ after.broker.table.entries ↔
        (key, ⟨id, subscription⟩) ∈ world.broker.table.entries := by
  induction hrun with
  | refl => exact ⟨h, fun _ _ ↦ Iff.rfl⟩
  | tail _ hstep ih =>
    obtain ⟨hgone, hentries⟩ := ih
    obtain ⟨hnext, hsame⟩ := hgone.step hstep
    exact ⟨hnext, fun key subscription ↦ (hsame key subscription).trans (hentries key subscription)⟩

/-! ### What remains -/

/-- Every live session has a read loop. -/
theorem opened_of_run (hrun : Run {} world) (hlive : world.broker.registry.get? id ≠ none) :
    world.readers id ≠ .absent := by
  induction hrun with
  | refl => exact absurd rfl hlive
  | @tail world after _ hstep ih =>
    rcases hstep.apart_or id with hapart | ⟨setting, hsession⟩
    · rw [hapart.reader]
      exact ih (mt hapart.live.mpr hlive)
    · cases hsession with
      | opened sink _ => simp
      | found frame _ _ =>
        rw [readers_setReader, if_pos rfl]
        exact begin_ne_absent
      | advanced =>
        rw [World.advance, readers_setReader, if_pos rfl]
        exact advance_ne_absent (ih (mt (Broker.get?_advance_eq_none_iff _).mpr hlive))
      | emptied _ => exact ih (mt Broker.get?_vacate_eq_none_iff.mpr hlive)
      | sinkClosed _ => exact ih hlive
      | replied version freeAt _ => exact ih hlive
      | _ => simp_all

/-- When a session leaves the registry, its read loop may be in the middle of a SUBSCRIBE. -/
theorem leaving_of_step (hopened : world.readers id ≠ .absent)
    (hlive : world.broker.registry.get? id ≠ none) (hstep : Step world after)
    (hgone : after.broker.registry.get? id = none) : Leaving (world.readers id) id after := by
  rcases hstep.apart_or id with hapart | ⟨setting, hsession⟩
  · exact absurd (hapart.live.mp hgone) hlive
  · cases hsession with
    | opened sink habsent => exact absurd habsent hopened
    | advanced => exact absurd ((Broker.get?_advance_eq_none_iff _).mp hgone) hlive
    | removed _ => exact ⟨hgone, hopened, fun _ _ howed ↦ howed, by simp⟩
    | left _ _ => exact ⟨hgone, by simp, by simp [Reader.Owes], by simp⟩
    | emptied _ => exact absurd (Broker.get?_vacate_eq_none_iff.mp hgone) hlive
    | _ => exact absurd hgone hlive

/-- Once a session is out of the registry, the table is cleared of it and its read loop has ended,
the table holds no entry of it but that of a SUBSCRIBE that the removal fell into, and no other one
ever appears. -/
theorem entries_of_removed {removed : World} (hrun : Run {} world)
    (hlive : world.broker.registry.get? id ≠ none) (hstep : Step world removed)
    (hgone : removed.broker.registry.get? id = none) (hlater : Run removed after)
    (hcleared : after.departures id = .finished) (hended : after.readers id = .ended) :
    (∀ subscription key, (key, ⟨id, subscription⟩) ∈ after.broker.table.entries →
      (world.readers id).Owes subscription key) ∧
    ∀ later, Run after later → ∀ subscription key,
      (key, ⟨id, subscription⟩) ∈ later.broker.table.entries ↔
        (key, ⟨id, subscription⟩) ∈ after.broker.table.entries := by
  have hleaving := (leaving_of_step (opened_of_run hrun hlive) hlive hstep hgone).run hlater
  have hleft : Gone id after := ⟨hleaving.gone, hcleared, hended⟩
  refine ⟨hleaving.entries hcleared, fun later hmore subscription key ↦ ?_⟩
  exact (hleft.run hmore).2 key subscription

end World

/-! ### A subscription that outlives its session -/

namespace World.Straggler

open Broker Client

/-- Somebody else removes the session from the registry. -/
def removed : World :=
  (subscribing.setBroker (subscribing.broker.strike Forgery.receiver)).setDeparture
    Forgery.receiver .removed

def emptied : World :=
  (removed.setBroker (removed.broker.revise Forgery.receiver Session.vacate)).setDeparture
    Forgery.receiver .emptied

def cleared : World :=
  (emptied.setBroker
    { emptied.broker with
      table := (emptied.broker.table.removeSession Forgery.receiver).2 }).setDeparture
    Forgery.receiver .finished

/-- The SUBSCRIBE goes on, and then the read loop ends. -/
def ended : World :=
  (((cleared.advance Forgery.receiver).advance Forgery.receiver).setReader Forgery.receiver
    .leaving).setReader Forgery.receiver .ended

theorem step_removed : Step subscribing removed :=
  .session Forgery.setting Forgery.receiver (.removed rfl)

theorem run_ended : Run removed ended := by
  have hemptied : Step removed emptied := .session Forgery.setting Forgery.receiver (.emptied rfl)
  have hcleared : Step emptied cleared := .session Forgery.setting Forgery.receiver (.finished rfl)
  have hrecorded : Step cleared (cleared.advance Forgery.receiver) :=
    .session Forgery.setting Forgery.receiver .advanced
  have hentered : Step (cleared.advance Forgery.receiver)
      ((cleared.advance Forgery.receiver).advance Forgery.receiver) :=
    .session Forgery.setting Forgery.receiver .advanced
  have hmissed : Step ((cleared.advance Forgery.receiver).advance Forgery.receiver)
      (((cleared.advance Forgery.receiver).advance Forgery.receiver).setReader Forgery.receiver
        .leaving) :=
    .session Forgery.setting Forgery.receiver (.missed rfl rfl)
  have hended : Step (((cleared.advance Forgery.receiver).advance Forgery.receiver).setReader
      Forgery.receiver .leaving) ended :=
    .session Forgery.setting Forgery.receiver (.leftBehind rfl rfl)
  exact ((((((Relation.ReflTransGen.single hemptied).tail hcleared).tail hrecorded).tail
    hentered).tail hmissed).tail hended)

end World.Straggler

namespace World

open Broker

/-- The removal falls into a SUBSCRIBE, whose entry is left behind. -/
theorem entries_of_removed_straggler :
    Run {} Client.subscribing ∧ Step Client.subscribing Straggler.removed ∧
      Run Straggler.removed Straggler.ended ∧
      (∀ subscription key,
        (key, ⟨Forgery.receiver, subscription⟩) ∈ Straggler.ended.broker.table.entries →
          (Client.subscribing.readers Forgery.receiver).Owes subscription key) ∧
      ∀ later, Run Straggler.ended later → ∀ subscription key,
        (key, ⟨Forgery.receiver, subscription⟩) ∈ later.broker.table.entries ↔
          (key, ⟨Forgery.receiver, subscription⟩) ∈ Straggler.ended.broker.table.entries :=
  ⟨Client.run_subscribing, Straggler.step_removed, Straggler.run_ended,
    entries_of_removed Client.run_subscribing (by decide) Straggler.step_removed rfl
      Straggler.run_ended rfl rfl⟩

/-- The session is out of the registry, the table was cleared of it and its read loop has ended, and
yet the table has an entry of it. -/
theorem exists_entry_left_behind :
    Run {} Straggler.ended ∧
      Straggler.ended.broker.registry.get? Forgery.receiver = none ∧
      Straggler.ended.departures Forgery.receiver = .finished ∧
      Straggler.ended.readers Forgery.receiver = .ended ∧
      Straggler.ended.broker.table.entries = [("/topic/x", ⟨Forgery.receiver, "0"⟩)] :=
  ⟨(Client.run_subscribing.tail Straggler.step_removed).trans Straggler.run_ended, rfl, rfl,
    rfl, rfl⟩

end World

end StompBroker
