import StompBroker.Proofs.Broker.Interleaving

/-!
# The order of publishers

Publishers write at the same time, each of them one message after the other. A subscription is in
the selection of a message at most once, and a publisher goes on to its next message only when
nothing is left to write, so its messages reach a subscription in the order in which they were
issued, and none of them twice, whatever everybody else does in between (`Orderly`).

As long as a subscription stays in the table and its session in the registry, every message to its
destination selects it. When the publisher has finished, it has attempted to write all of them
(`CaughtUp`), and if these writes succeed, the subscription has received all of them
(`inOrder_of_run`).
-/

set_option autoImplicit false

namespace StompBroker

namespace Delivery

/-- Whether a delivery goes from a publisher to a subscription. -/
def isFor (name : Nat) (subscriber : Subscriber) (delivery : Delivery) : Bool :=
  delivery.publisher = name && delivery.attempt.subscriber = subscriber

/-- Whether a delivery of a message to a destination goes from a publisher to a subscription. -/
def isTo (name : Nat) (destination : String) (subscriber : Subscriber) (delivery : Delivery) :
    Bool :=
  delivery.isFor name subscriber && delivery.message.destination = destination

/-- The messages of a publisher to a destination that a subscription received, by their indices. -/
def received (name : Nat) (destination : String) (subscriber : Subscriber)
    (deliveries : List Delivery) : List Nat :=
  (deliveries.filter fun delivery ↦
    delivery.isTo name destination subscriber && delivery.attempt.succeeded).map index

/-- The indices of the messages to a destination, when the first one has a given index. -/
def indices (destination : String) (start : Nat) (messages : List Message) : List Nat :=
  ((messages.zipIdx start).filter fun entry ↦ entry.1.destination = destination).map Prod.snd

theorem indices_append (destination : String) (start : Nat) (messages more : List Message) :
    indices destination start (messages ++ more) =
      indices destination start messages ++ indices destination (start + messages.length) more := by
  rw [indices, List.zipIdx_append, List.filter_append, List.map_append]
  rfl

theorem indices_singleton (destination : String) (start : Nat) (message : Message) :
    indices destination start [message] =
      if message.destination = destination then [start] else [] := by
  by_cases h : message.destination = destination
  · simp [indices, h]
  · simp [indices, h]

end Delivery

namespace World

variable {setting : Broker.Setting} {world after : World} {id : SessionId} {name rival : Nat}
  {subscriber : Subscriber} {destination : String}

/-! ### Targets -/

theorem map_subscriber_numbered (next : UInt64) (targets : List (Session × String)) :
    (numbered next targets).map Target.subscriber =
      targets.map fun target ↦ ⟨target.1.id, target.2⟩ := by
  induction targets generalizing next with
  | nil => rfl
  | cons target targets ih =>
    rw [numbered, List.map_cons, ih, List.map_cons]
    rfl

/-- Subscribers whose sessions are live are targets, and no others. -/
theorem map_subscriber_targets (registry : Registry) (subscribers : List Subscriber) :
    (Broker.targets registry subscribers).map (fun target ↦ ⟨target.1.id, target.2⟩) =
      subscribers.filter fun subscriber ↦ (registry.get? subscriber.session).isSome := by
  induction subscribers with
  | nil => rfl
  | cons subscriber subscribers ih =>
    cases hlive : registry.get? subscriber.session with
    | none =>
      have htargets : Broker.targets registry (subscriber :: subscribers) =
          Broker.targets registry subscribers := by
        rw [Broker.targets, List.filterMap_cons_none (by rw [hlive, Option.map_none])]
        rfl
      rw [htargets, ih, List.filter_cons_of_neg (by simp [hlive])]
    | some session =>
      have htargets : Broker.targets registry (subscriber :: subscribers) =
          (session, subscriber.subscription) :: Broker.targets registry subscribers := by
        rw [Broker.targets, List.filterMap_cons_some (by rw [hlive, Option.map_some])]
        rfl
      rw [htargets, List.map_cons, ih, List.filter_cons_of_pos (by simp [hlive]),
        Registry.id_of_get? hlive]

/-! ### The table stays a map into sets -/

theorem proper_table_advance {broker : Broker} (reader : Reader)
    (h : Rows.Proper broker.table.destinations) :
    Rows.Proper (reader.advance id broker).2.table.destinations := by
  rw [Broker.table_advance]
  cases reader with
  | entering subscription key => exact SubscriptionTable.proper_add h _ _
  | withdrawing subscription key => exact SubscriptionTable.proper_filter h _
  | _ => exact h

theorem proper_table_step (h : Rows.Proper world.broker.table.destinations)
    (hstep : Step world after) : Rows.Proper after.broker.table.destinations := by
  cases hstep with
  | session setting id hsession =>
    cases hsession with
    | advanced => exact proper_table_advance _ h
    | removed _ =>
      rw [broker_setDeparture, broker_setBroker, Broker.table_strike]
      exact h
    | left _ _ =>
      rw [broker_setReader, broker_setDeparture, broker_setBroker, Broker.table_strike]
      exact h
    | finished _ => exact SubscriptionTable.proper_filter h _
    | _ => exact h
  | publisher setting name hpublisher =>
    cases hpublisher with
    | _ => exact h

theorem proper_table_run (hrun : Run {} world) : Rows.Proper world.broker.table.destinations := by
  induction hrun with
  | refl => exact Rows.proper_nil
  | tail _ hstep ih => exact proper_table_step ih hstep

/-! ### Steps of others -/

/-- A step does not concern a publisher, and delivers nothing of it. -/
structure Unaware (name : Nat) (world after : World) : Prop where
  publisher : after.publishers name = world.publishers name
  deliveries : ∃ added, after.deliveries = world.deliveries ++ added ∧
    ∀ delivery ∈ added, delivery.publisher ≠ name

theorem SessionStep.unaware (h : SessionStep setting id world after) :
    Unaware name world after := by
  cases h with
  | _ => exact ⟨rfl, [], (List.append_nil _).symm, by simp⟩

theorem PublisherStep.unaware (h : PublisherStep setting rival world after) (hne : rival ≠ name) :
    Unaware name world after := by
  have hname : name ≠ rival := fun heq ↦ hne heq.symm
  cases h with
  | published message _ =>
    exact ⟨by simp [hname], [], (List.append_nil _).symm, by simp⟩
  | resolved _ => exact ⟨by simp [hname], [], (List.append_nil _).symm, by simp⟩
  | wrote front target back freeAt _ =>
    refine ⟨by simp [hname], _, rfl, fun delivery hmem ↦ ?_⟩
    obtain rfl := List.mem_singleton.mp hmem
    exact hne
  | rested _ => exact ⟨by simp [hname], [], (List.append_nil _).symm, by simp⟩

/-- A step is one of a publisher, or the publisher is unaware of it. -/
theorem Step.unaware_or (h : Step world after) (name : Nat) :
    Unaware name world after ∨ ∃ setting, PublisherStep setting name world after := by
  cases h with
  | session setting id hstep => exact .inl hstep.unaware
  | publisher setting rival hstep =>
    by_cases hname : rival = name
    · subst hname
      exact .inr ⟨setting, hstep⟩
    · exact .inl (hstep.unaware hname)

/-! ### One message after the other -/

/-- What is settled where a publisher stands: which message is the last one, that its targets are
different subscriptions, and that none of them has received it. -/
def Settled (name : Nat) (world : World) : Stage → Prop
  | .idle => True
  | .selected message subscribers =>
    (world.publishers name).issued.getLast? = some message ∧ subscribers.Nodup ∧
      ∀ delivery ∈ world.deliveries, delivery.publisher = name →
        delivery.index + 1 < (world.publishers name).issued.length
  | .writing message pending =>
    (world.publishers name).issued.getLast? = some message ∧
      (pending.map Target.subscriber).Nodup ∧
      ∀ delivery ∈ world.deliveries, delivery.publisher = name →
        delivery.attempt.subscriber ∈ pending.map Target.subscriber →
          delivery.index + 1 < (world.publishers name).issued.length

/-- A publisher delivers what it issued, to each subscription in the order of issue. -/
structure Orderly (name : Nat) (world : World) : Prop where
  issued : ∀ delivery ∈ world.deliveries, delivery.publisher = name →
    (world.publishers name).issued[delivery.index]? = some delivery.message
  rising : ∀ subscriber,
    ((world.deliveries.filter (Delivery.isFor name subscriber)).map Delivery.index).Pairwise (· < ·)
  settled : Settled name world (world.publishers name).stage

theorem orderly_start : Orderly name {} :=
  ⟨by simp, by simp, trivial⟩

theorem filter_isFor_of_ne {added : List Delivery}
    (h : ∀ delivery ∈ added, delivery.publisher ≠ name) :
    added.filter (Delivery.isFor name subscriber) = [] := by
  refine List.filter_eq_nil_iff.mpr fun delivery hmem ↦ ?_
  simp [Delivery.isFor, h delivery hmem]

theorem Settled.unaware {stage : Stage} (h : Settled name world stage)
    (hunaware : Unaware name world after) : Settled name after stage := by
  obtain ⟨added, hdeliveries, hothers⟩ := hunaware.deliveries
  have hold : ∀ delivery ∈ after.deliveries, delivery.publisher = name →
      delivery ∈ world.deliveries := by
    intro delivery hmem hname
    rw [hdeliveries] at hmem
    rcases List.mem_append.mp hmem with hold | hnew
    · exact hold
    · exact absurd hname (hothers delivery hnew)
  cases stage with
  | idle => trivial
  | selected message subscribers =>
    obtain ⟨hlast, hnodup, hearlier⟩ := h
    rw [Settled, hunaware.publisher]
    exact ⟨hlast, hnodup, fun delivery hmem hname ↦
      hearlier delivery (hold delivery hmem hname) hname⟩
  | writing message pending =>
    obtain ⟨hlast, hnodup, hearlier⟩ := h
    rw [Settled, hunaware.publisher]
    exact ⟨hlast, hnodup, fun delivery hmem hname ↦
      hearlier delivery (hold delivery hmem hname) hname⟩

theorem Orderly.unaware (h : Orderly name world) (hunaware : Unaware name world after) :
    Orderly name after := by
  obtain ⟨added, hdeliveries, hothers⟩ := hunaware.deliveries
  constructor
  · intro delivery hmem hname
    rw [hdeliveries] at hmem
    rw [hunaware.publisher]
    rcases List.mem_append.mp hmem with hold | hnew
    · exact h.issued delivery hold hname
    · exact absurd hname (hothers delivery hnew)
  · intro subscriber
    rw [hdeliveries, List.filter_append, filter_isFor_of_ne hothers, List.append_nil]
    exact h.rising subscriber
  · rw [hunaware.publisher]
    exact h.settled.unaware hunaware

theorem lt_length_of_getElem?_eq_some {messages : List Message} {index : Nat} {message : Message}
    (h : messages[index]? = some message) : index < messages.length :=
  (List.getElem?_eq_some_iff.mp h).1

theorem Orderly.published (h : Orderly name world) (message : Message)
    (htable : Rows.Proper world.broker.table.destinations) :
    Orderly name (world.setPublisher name
      { issued := (world.publishers name).issued ++ [message]
        stage := .selected message (world.broker.table.subscribers message.destination) }) := by
  have hissued : ∀ delivery ∈ world.deliveries, delivery.publisher = name →
      delivery.index < (world.publishers name).issued.length := fun delivery hmem hname ↦
    lt_length_of_getElem?_eq_some (h.issued delivery hmem hname)
  constructor
  · intro delivery hmem hname
    rw [publishers_setPublisher, if_pos rfl,
      List.getElem?_append_left (hissued delivery hmem hname)]
    exact h.issued delivery hmem hname
  · exact h.rising
  · rw [publishers_setPublisher, if_pos rfl]
    refine ⟨by simp, htable.nodup_lookup, fun delivery hmem hname ↦ ?_⟩
    have hlt := hissued delivery hmem hname
    simpa using hlt

theorem Orderly.resolved (h : Orderly name world) {message : Message}
    {subscribers : List Subscriber} (hstage : (world.publishers name).stage =
      .selected message subscribers) (counter next : UInt64) :
    Orderly name ((world.setBroker { world.broker with nextMessageId := counter }).setPublisher name
      { (world.publishers name) with
        stage := .writing message
          (numbered next (Broker.targets world.broker.registry subscribers)) }) := by
  have hsettled := h.settled
  rw [hstage] at hsettled
  obtain ⟨hlast, hnodup, hearlier⟩ := hsettled
  constructor
  · intro delivery hmem hname
    rw [publishers_setPublisher, if_pos rfl]
    exact h.issued delivery hmem hname
  · exact h.rising
  · rw [publishers_setPublisher, if_pos rfl]
    refine ⟨by simpa using hlast, ?_, fun delivery hmem hname _ ↦ ?_⟩
    · rw [map_subscriber_numbered, map_subscriber_targets]
      exact hnodup.filter _
    · have hlt := hearlier delivery hmem hname
      simpa using hlt

theorem Orderly.rested (h : Orderly name world) :
    Orderly name (world.setPublisher name { (world.publishers name) with stage := .idle }) := by
  constructor
  · intro delivery hmem hname
    rw [publishers_setPublisher, if_pos rfl]
    exact h.issued delivery hmem hname
  · exact h.rising
  · rw [publishers_setPublisher, if_pos rfl]
    trivial

/-- The delivery that a write records. -/
def deliveryOf (setting : Broker.Setting) (world : World) (name : Nat) (message : Message)
    (target : Target) (freeAt : Nat) : Delivery :=
  ⟨name, (world.publishers name).issued.length - 1, message,
    ⟨target.session, target.subscription, target.number,
      (world.broker.write target.session.id target.session.version
        (.message message.destination target.subscription (toString target.number)
          message.contentType message.body) freeAt setting.writeTimeout).1⟩⟩

theorem deliveries_writeTo {message : Message} {target : Target} {rest : List Target}
    {freeAt : Nat} :
    (world.writeTo setting name message target rest freeAt).deliveries =
      world.deliveries ++ [world.deliveryOf setting name message target freeAt] :=
  rfl

/-- A target takes its own place among those that are left. -/
theorem nodup_targets {front back : List Target} {target : Target}
    (h : ((front ++ target :: back).map Target.subscriber).Nodup) :
    target.subscriber ∉ (front ++ back).map Target.subscriber ∧
      ((front ++ back).map Target.subscriber).Nodup := by
  rw [List.map_append, List.map_cons, List.nodup_middle, ← List.map_append] at h
  exact List.nodup_cons.mp h

theorem Orderly.wrote (h : Orderly name world) {message : Message} {front : List Target}
    {target : Target} {back : List Target}
    (hstage : (world.publishers name).stage = .writing message (front ++ target :: back))
    (freeAt : Nat) :
    Orderly name (world.writeTo setting name message target (front ++ back) freeAt) := by
  have hsettled := h.settled
  rw [hstage] at hsettled
  obtain ⟨hlast, hnodup, hearlier⟩ := hsettled
  obtain ⟨hfresh, hrest⟩ := nodup_targets hnodup
  constructor
  · intro delivery hmem hname
    rw [publishers_writeTo, if_pos rfl]
    rw [deliveries_writeTo] at hmem
    rcases List.mem_append.mp hmem with hold | hnew
    · exact h.issued delivery hold hname
    · obtain rfl := List.mem_singleton.mp hnew
      rw [List.getLast?_eq_getElem?] at hlast
      exact hlast
  · intro subscriber
    rw [deliveries_writeTo, List.filter_append, List.map_append]
    refine List.pairwise_append.mpr ⟨h.rising subscriber, ?_, ?_⟩
    · exact (List.pairwise_singleton _ _).sublist (List.filter_sublist.map _)
    · intro earlier hmem later hlater
      obtain ⟨delivery, hdelivery, rfl⟩ := List.mem_map.mp hmem
      obtain ⟨written, hwritten, rfl⟩ := List.mem_map.mp hlater
      obtain ⟨hold, hfor⟩ := List.mem_filter.mp hdelivery
      obtain ⟨hnew, hforNew⟩ := List.mem_filter.mp hwritten
      obtain rfl := List.mem_singleton.mp hnew
      simp only [Delivery.isFor, Bool.and_eq_true, decide_eq_true_eq] at hfor hforNew
      have hpending : delivery.attempt.subscriber ∈
          (front ++ target :: back).map Target.subscriber := by
        rw [hfor.2, ← hforNew.2]
        exact List.mem_map_of_mem (List.mem_append_right _ List.mem_cons_self)
      have hlt := hearlier delivery hold hfor.1 hpending
      change delivery.index < (world.publishers name).issued.length - 1
      omega
  · rw [publishers_writeTo, if_pos rfl]
    refine ⟨by simpa using hlast, hrest, fun delivery hmem hname hpending ↦ ?_⟩
    rw [publishers_writeTo, if_pos rfl]
    rw [deliveries_writeTo] at hmem
    rcases List.mem_append.mp hmem with hold | hnew
    · refine hearlier delivery hold hname ?_
      rw [List.map_append, List.map_cons]
      rw [List.map_append] at hpending
      rcases List.mem_append.mp hpending with hfront | hback
      · exact List.mem_append_left _ hfront
      · exact List.mem_append_right _ (List.mem_cons_of_mem _ hback)
    · obtain rfl := List.mem_singleton.mp hnew
      exact absurd hpending hfresh

theorem Orderly.step (h : Orderly name world)
    (htable : Rows.Proper world.broker.table.destinations) (hstep : Step world after) :
    Orderly name after := by
  rcases hstep.unaware_or name with hunaware | ⟨setting, hpublisher⟩
  · exact h.unaware hunaware
  · cases hpublisher with
    | published message _ => exact h.published message htable
    | resolved hstage => exact h.resolved hstage _ _
    | wrote front target back freeAt hstage => exact h.wrote hstage freeAt
    | rested _ => exact h.rested

theorem orderly_run (hrun : Run {} world) : Orderly name world := by
  induction hrun with
  | refl => exact orderly_start
  | tail hrun hstep ih => exact ih.step (proper_table_run hrun) hstep

/-! ### Nothing is left out -/

/-- A subscription stands in the table, and its session is live. -/
def Subscribed (destination : String) (subscriber : Subscriber) (world : World) : Prop :=
  (destination, subscriber) ∈ world.broker.table.entries ∧
    world.broker.registry.get? subscriber.session ≠ none

/-- A run during which a subscription stands in the table and its session is live. -/
inductive Attended (destination : String) (subscriber : Subscriber) (start : World) : World → Prop
  | refl : Subscribed destination subscriber start → Attended destination subscriber start start
  | step {world after : World} : Attended destination subscriber start world → Step world after →
      Subscribed destination subscriber after → Attended destination subscriber start after

theorem Attended.subscribed {start : World} (h : Attended destination subscriber start world) :
    Subscribed destination subscriber world := by
  cases h with
  | refl hsubscribed => exact hsubscribed
  | step _ _ hsubscribed => exact hsubscribed

theorem Attended.run {start : World} (h : Attended destination subscriber start world) :
    Run start world := by
  induction h with
  | refl _ => exact .refl
  | step _ hstep _ ih => exact ih.tail hstep

/-- The indices that were delivered belong to all messages that were issued, but for the current one
as long as the subscription is to be written to. -/
def CaughtUp (destination : String) (subscriber : Subscriber) (first : Nat)
    (issued : List Message) (delivered : List Nat) : Stage → Prop
  | .idle => delivered = Delivery.indices destination first issued
  | .selected message subscribers => ∃ earlier, issued = earlier ++ [message] ∧
      delivered = Delivery.indices destination first earlier ∧
      (message.destination = destination → subscriber ∈ subscribers)
  | .writing message pending => ∃ earlier, issued = earlier ++ [message] ∧
      if subscriber ∈ pending.map Target.subscriber then
        delivered = Delivery.indices destination first earlier
      else delivered = Delivery.indices destination first issued

/-- A publisher keeps up with a subscription, from a world on in which it had nothing to do. -/
def KeepsUp (name : Nat) (destination : String) (subscriber : Subscriber) (start world : World) :
    Prop :=
  ∃ issued added, (world.publishers name).issued = (start.publishers name).issued ++ issued ∧
    world.deliveries = start.deliveries ++ added ∧
    CaughtUp destination subscriber (start.publishers name).issued.length issued
      ((added.filter (Delivery.isTo name destination subscriber)).map Delivery.index)
      (world.publishers name).stage

variable {start : World}

theorem keepsUp_start (h : (start.publishers name).stage = .idle) :
    KeepsUp name destination subscriber start start := by
  refine ⟨[], [], (List.append_nil _).symm, (List.append_nil _).symm, ?_⟩
  rw [h]
  rfl

theorem KeepsUp.unaware (h : KeepsUp name destination subscriber start world)
    (hunaware : Unaware name world after) : KeepsUp name destination subscriber start after := by
  obtain ⟨issued, added, hissued, hdeliveries, hcaught⟩ := h
  obtain ⟨more, hmore, hothers⟩ := hunaware.deliveries
  refine ⟨issued, added ++ more, ?_, ?_, ?_⟩
  · rw [hunaware.publisher, hissued]
  · rw [hmore, hdeliveries, List.append_assoc]
  · have hnone : more.filter (Delivery.isTo name destination subscriber) = [] := by
      refine List.filter_eq_nil_iff.mpr fun delivery hmem ↦ ?_
      simp [Delivery.isTo, Delivery.isFor, hothers delivery hmem]
    rw [hunaware.publisher, List.filter_append, hnone, List.append_nil]
    exact hcaught

theorem KeepsUp.published (h : KeepsUp name destination subscriber start world)
    (hidle : (world.publishers name).stage = .idle) (message : Message)
    (htable : Rows.Proper world.broker.table.destinations)
    (hsubscribed : Subscribed destination subscriber world) :
    KeepsUp name destination subscriber start (world.setPublisher name
      { issued := (world.publishers name).issued ++ [message]
        stage := .selected message (world.broker.table.subscribers message.destination) }) := by
  obtain ⟨issued, added, hissued, hdeliveries, hcaught⟩ := h
  rw [hidle] at hcaught
  refine ⟨issued ++ [message], added, ?_, hdeliveries, ?_⟩
  · rw [publishers_setPublisher, if_pos rfl, ← List.append_assoc, ← hissued]
  · rw [publishers_setPublisher, if_pos rfl]
    refine ⟨issued, rfl, hcaught, fun hdestination ↦ ?_⟩
    rw [hdestination]
    exact (SubscriptionTable.mem_subscribers_iff htable).mpr hsubscribed.1

/-- A message to another destination changes nothing. -/
theorem indices_append_of_ne {message : Message} (h : message.destination ≠ destination)
    (first : Nat) (earlier : List Message) :
    Delivery.indices destination first (earlier ++ [message]) =
      Delivery.indices destination first earlier := by
  rw [Delivery.indices_append, Delivery.indices_singleton, if_neg h, List.append_nil]

theorem KeepsUp.resolved (h : KeepsUp name destination subscriber start world) {message : Message}
    {subscribers : List Subscriber}
    (hstage : (world.publishers name).stage = .selected message subscribers)
    (hsubscribed : Subscribed destination subscriber world) (counter next : UInt64) :
    KeepsUp name destination subscriber start
      ((world.setBroker { world.broker with nextMessageId := counter }).setPublisher name
        { (world.publishers name) with
          stage := .writing message
            (numbered next (Broker.targets world.broker.registry subscribers)) }) := by
  obtain ⟨issued, added, hissued, hdeliveries, hcaught⟩ := h
  rw [hstage] at hcaught
  obtain ⟨earlier, rfl, hdelivered, hselected⟩ := hcaught
  refine ⟨earlier ++ [message], added, ?_, hdeliveries, ?_⟩
  · rw [publishers_setPublisher, if_pos rfl]
    exact hissued
  · rw [publishers_setPublisher, if_pos rfl]
    refine ⟨earlier, rfl, ?_⟩
    rw [map_subscriber_numbered, map_subscriber_targets]
    split
    · exact hdelivered
    · rename_i hmissing
      have hother : message.destination ≠ destination := by
        intro hdestination
        have hlive : (world.broker.registry.get? subscriber.session).isSome = true :=
          Option.isSome_iff_ne_none.mpr hsubscribed.2
        exact hmissing (List.mem_filter.mpr ⟨hselected hdestination, hlive⟩)
      rw [indices_append_of_ne hother]
      exact hdelivered

theorem KeepsUp.rested (h : KeepsUp name destination subscriber start world) {message : Message}
    (hstage : (world.publishers name).stage = .writing message []) :
    KeepsUp name destination subscriber start
      (world.setPublisher name { (world.publishers name) with stage := .idle }) := by
  obtain ⟨issued, added, hissued, hdeliveries, hcaught⟩ := h
  rw [hstage] at hcaught
  obtain ⟨earlier, -, hdelivered⟩ := hcaught
  refine ⟨issued, added, ?_, hdeliveries, ?_⟩
  · rw [publishers_setPublisher, if_pos rfl]
    exact hissued
  · rw [publishers_setPublisher, if_pos rfl]
    rw [List.map_nil, if_neg List.not_mem_nil] at hdelivered
    exact hdelivered

theorem KeepsUp.wrote (h : KeepsUp name destination subscriber start world)
    (horderly : Orderly name world) {message : Message} {front : List Target} {target : Target}
    {back : List Target}
    (hstage : (world.publishers name).stage = .writing message (front ++ target :: back))
    (freeAt : Nat) :
    KeepsUp name destination subscriber start
      (world.writeTo setting name message target (front ++ back) freeAt) := by
  have hsettled := horderly.settled
  rw [hstage] at hsettled
  obtain ⟨hfresh, -⟩ := nodup_targets hsettled.2.1
  obtain ⟨issued, added, hissued, hdeliveries, hcaught⟩ := h
  rw [hstage] at hcaught
  obtain ⟨earlier, rfl, hdelivered⟩ := hcaught
  let written := world.deliveryOf setting name message target freeAt
  have hindex : written.index = (start.publishers name).issued.length + earlier.length := by
    change (world.publishers name).issued.length - 1 = _
    rw [hissued, List.length_append, List.length_append, List.length_singleton]
    omega
  refine ⟨earlier ++ [message], added ++ [written], ?_, ?_, ?_⟩
  · rw [publishers_writeTo, if_pos rfl]
    exact hissued
  · rw [deliveries_writeTo, hdeliveries, List.append_assoc]
  · rw [publishers_writeTo, if_pos rfl]
    refine ⟨earlier, rfl, ?_⟩
    by_cases hself : target.subscriber = subscriber
    · subst hself
      have hpending : target.subscriber ∈ (front ++ target :: back).map Target.subscriber :=
        List.mem_map_of_mem (List.mem_append_right _ List.mem_cons_self)
      rw [if_pos hpending] at hdelivered
      rw [if_neg hfresh, List.filter_append, List.map_append, hdelivered, Delivery.indices_append,
        Delivery.indices_singleton, ← hindex]
      by_cases hdestination : message.destination = destination
      · have hto : written.isTo name destination target.subscriber = true := by
          simp [Delivery.isTo, Delivery.isFor, written, deliveryOf, hdestination, Target.subscriber,
            Attempt.subscriber]
        rw [if_pos hdestination, List.filter_cons_of_pos hto]
        rfl
      · have hto : ¬written.isTo name destination target.subscriber = true := by
          simp [Delivery.isTo, written, deliveryOf, hdestination]
        rw [if_neg hdestination, List.filter_cons_of_neg hto]
        rfl
    · have hto : ¬written.isTo name destination subscriber = true := by
        intro htrue
        simp only [Delivery.isTo, Delivery.isFor, Bool.and_eq_true, decide_eq_true_eq] at htrue
        exact hself htrue.1.2
      have hpending : subscriber ∈ (front ++ target :: back).map Target.subscriber ↔
          subscriber ∈ (front ++ back).map Target.subscriber := by
        have hne : subscriber ≠ target.subscriber := fun heq ↦ hself heq.symm
        simp [hne]
      rw [List.filter_append, List.filter_cons_of_neg hto, List.filter_nil, List.append_nil]
      simpa only [hpending] using hdelivered

theorem KeepsUp.step (h : KeepsUp name destination subscriber start world)
    (hrun : Run {} world) (hsubscribed : Subscribed destination subscriber world)
    (hstep : Step world after) : KeepsUp name destination subscriber start after := by
  rcases hstep.unaware_or name with hunaware | ⟨setting, hpublisher⟩
  · exact h.unaware hunaware
  · cases hpublisher with
    | published message hidle =>
      exact h.published hidle message (proper_table_run hrun) hsubscribed
    | resolved hstage => exact h.resolved hstage hsubscribed _ _
    | wrote front target back freeAt hstage => exact h.wrote (orderly_run hrun) hstage freeAt
    | rested hstage => exact h.rested hstage

theorem Attended.keepsUp (h : Attended destination subscriber start world) (hrun : Run {} start)
    (hidle : (start.publishers name).stage = .idle) :
    KeepsUp name destination subscriber start world := by
  induction h with
  | refl _ => exact keepsUp_start hidle
  | step hattended hstep _ ih =>
    exact ih.step (hrun.trans hattended.run) hattended.subscribed hstep

/-! ### What the sinks saw -/

/-- The events of a journal that write messages. -/
def messageEvents (journal : List Event) : List Event :=
  journal.filter fun event ↦ event.message?.isSome

theorem messageEvents_append (journal more : List Event) :
    messageEvents (journal ++ more) = messageEvents journal ++ messageEvents more :=
  List.filter_append journal more

theorem journal_advance {broker : Broker} (reader : Reader) :
    (reader.advance id broker).2.journal = broker.journal := by
  cases reader with
  | listing username =>
    cases hbind : broker.registry.bind id username <;> simp only [Reader.advance, hbind]
  | subscribing subscription key =>
    cases hfound : (broker.session? id).bind (·.subscribe? subscription key) <;>
      simp only [Reader.advance, hfound]
    rfl
  | unsubscribing subscription =>
    cases hfound : (broker.session? id).bind (·.subscriptions.lookup subscription) <;>
      simp only [Reader.advance, hfound]
    rfl
  | _ => rfl

theorem journal_strike {broker : Broker} : (broker.strike id).journal = broker.journal := by
  unfold Broker.strike
  split <;> rfl

/-- Only publishers write messages. -/
theorem SessionStep.messageEvents_eq (h : SessionStep setting id world after) :
    messageEvents after.broker.journal = messageEvents world.broker.journal := by
  cases h with
  | advanced =>
    rw [advance, broker_setReader, broker_setBroker, journal_advance]
  | removed _ => rw [broker_setDeparture, broker_setBroker, journal_strike]
  | left _ _ => rw [broker_setReader, broker_setDeparture, broker_setBroker, journal_strike]
  | sinkClosed _ =>
    have hjournal : (world.broker.closeSink id).journal =
        world.broker.journal ++ [.closed id (world.broker.sink id).close.1] := rfl
    rw [broker_setBroker, hjournal, messageEvents_append]
    exact List.append_nil _
  | replied version freeAt hcommand =>
    rw [broker_setBroker, Broker.journal_write, messageEvents_append]
    have hnone : ∀ outcome frame, frame.command ≠ .message →
        messageEvents [.wrote id version frame outcome] = [] := by
      intro outcome frame hother
      simp [messageEvents, Event.message?, hother]
    rw [hnone _ _ hcommand, List.append_nil]
  | _ => rfl

/-- The messages in the journal are what publishers delivered. -/
def Recorded (world : World) : Prop :=
  messageEvents world.broker.journal =
    world.deliveries.map fun delivery ↦ delivery.attempt.event delivery.message

theorem Recorded.step (h : Recorded world) (hstep : Step world after) : Recorded after := by
  cases hstep with
  | session setting id hsession =>
    have hdeliveries : after.deliveries = world.deliveries := by
      cases hsession with
      | _ => rfl
    rw [Recorded, hsession.messageEvents_eq, hdeliveries]
    exact h
  | publisher setting name hpublisher =>
    cases hpublisher with
    | wrote front target back freeAt _ =>
      rw [Recorded, deliveries_writeTo, List.map_append, ← h]
      exact messageEvents_append _ _
    | _ => exact h

theorem recorded_run (hrun : Run {} world) : Recorded world := by
  induction hrun with
  | refl => exact rfl
  | tail _ hstep ih => exact ih.step hstep

/-! ### The guarantee -/

/-- Subscriptions receive the messages of each publisher in order, and none that they should have
received is missing. -/
structure InOrder (world : World) : Prop where
  recorded : Recorded world
  issued : ∀ delivery ∈ world.deliveries,
    (world.publishers delivery.publisher).issued[delivery.index]? = some delivery.message
  rising : ∀ name destination subscriber,
    (Delivery.received name destination subscriber world.deliveries).Pairwise (· < ·)
  complete : ∀ name destination subscriber after, (world.publishers name).stage = .idle →
    Attended destination subscriber world after → (after.publishers name).stage = .idle →
      ∃ issued added, (after.publishers name).issued = (world.publishers name).issued ++ issued ∧
        after.deliveries = world.deliveries ++ added ∧
        ((∀ delivery ∈ added, delivery.attempt.subscriber = subscriber →
          delivery.attempt.succeeded = true) →
            Delivery.received name destination subscriber added =
              Delivery.indices destination (world.publishers name).issued.length issued)

theorem received_eq_of_succeeded {deliveries : List Delivery}
    (h : ∀ delivery ∈ deliveries, delivery.attempt.subscriber = subscriber →
      delivery.attempt.succeeded = true) :
    Delivery.received name destination subscriber deliveries =
      (deliveries.filter (Delivery.isTo name destination subscriber)).map Delivery.index := by
  rw [Delivery.received]
  refine congrArg (List.map Delivery.index) (List.filter_congr fun delivery hmem ↦ ?_)
  by_cases hsubscriber : delivery.attempt.subscriber = subscriber
  · rw [h delivery hmem hsubscriber, Bool.and_true]
  · simp [Delivery.isTo, Delivery.isFor, hsubscriber]

/-- Whatever order the tasks take, each publisher is heard in its own. -/
theorem inOrder_of_run (hrun : Run {} world) : InOrder world := by
  refine ⟨recorded_run hrun, fun delivery hmem ↦ ?_, fun name destination subscriber ↦ ?_, ?_⟩
  · exact (orderly_run hrun).issued delivery hmem rfl
  · have horderly : Orderly name world := orderly_run hrun
    refine (horderly.rising subscriber).sublist (List.Sublist.map _ ?_)
    refine List.monotone_filter_right _ fun delivery hreceived ↦ ?_
    simp only [Delivery.isTo, Bool.and_eq_true] at hreceived
    exact hreceived.1.1
  · intro name destination subscriber after hidle hattended hdone
    obtain ⟨issued, added, hissued, hdeliveries, hcaught⟩ := hattended.keepsUp hrun hidle
    rw [hdone] at hcaught
    refine ⟨issued, added, hissued, hdeliveries, fun hsucceeded ↦ ?_⟩
    rw [received_eq_of_succeeded hsucceeded]
    exact hcaught

end World

/-! ### Two messages to one subscription -/

namespace World.News

open Broker Client

/-- The client has subscribed. -/
def subscribed : World := (subscribing.advance Forgery.receiver).advance Forgery.receiver

def reader : Session :=
  { (Forgery.fresh Forgery.receiver).authenticate "u" .v10 with
    subscriptions := [("0", "/topic/x")] }

def message (body : Bytes) : Message := ⟨"/topic/x", jsonContentType, body⟩

/-- A publisher takes the subscribers of a message. -/
def selected (world : World) (message : Message) : World :=
  world.setPublisher 0
    { issued := (world.publishers 0).issued ++ [message]
      stage := .selected message (world.broker.table.subscribers message.destination) }

/-- The publisher finds their sessions. -/
def resolved (world : World) (message : Message) (subscribers : List Subscriber) : World :=
  (world.setBroker { world.broker with
    nextMessageId := world.broker.nextMessageId +
      .ofNat (targets world.broker.registry subscribers).length }).setPublisher 0
      { (world.publishers 0) with
        stage := .writing message (numbered world.broker.nextMessageId
          (targets world.broker.registry subscribers)) }

/-- The publisher writes to the only target, and is done. -/
def written (world : World) (message : Message) (number : UInt64) : World :=
  let after := world.writeTo Forgery.setting 0 message ⟨reader, "0", number⟩ [] 0
  after.setPublisher 0 { (after.publishers 0) with stage := .idle }

def tell (world : World) (message : Message) : World :=
  written (resolved (selected world message) message [⟨Forgery.receiver, "0"⟩]) message
    world.broker.nextMessageId

theorem run_tell {world : World} {body : Bytes} (hidle : (world.publishers 0).stage = .idle)
    (hsubscribers : world.broker.table.subscribers "/topic/x" = [⟨Forgery.receiver, "0"⟩])
    (hlive : world.broker.registry.get? Forgery.receiver = some reader) :
    Run world (tell world (message body)) := by
  have hselected : Step world (selected world (message body)) :=
    .publisher Forgery.setting 0 (.published (message body) hidle)
  have hstage : ((selected world (message body)).publishers 0).stage =
      .selected (message body) [⟨Forgery.receiver, "0"⟩] := by
    rw [← hsubscribers]
    rfl
  have hresolved : Step (selected world (message body))
      (resolved (selected world (message body)) (message body) [⟨Forgery.receiver, "0"⟩]) :=
    .publisher Forgery.setting 0 (.resolved hstage)
  have htargets : targets world.broker.registry [⟨Forgery.receiver, "0"⟩] = [(reader, "0")] := by
    simp [targets, hlive]
  have hpending : ((resolved (selected world (message body)) (message body)
      [⟨Forgery.receiver, "0"⟩]).publishers 0).stage =
        .writing (message body) ([] ++ ⟨reader, "0", world.broker.nextMessageId⟩ :: []) := by
    change Stage.writing (message body) (numbered world.broker.nextMessageId
      (targets world.broker.registry [⟨Forgery.receiver, "0"⟩])) = _
    rw [htargets]
    rfl
  have hwrote : PublisherStep Forgery.setting 0 _ _ := .wrote [] _ [] 0 hpending
  exact (((Relation.ReflTransGen.single hselected).tail hresolved).tail
    (.publisher Forgery.setting 0 hwrote)).tail (.publisher Forgery.setting 0 (.rested rfl))

theorem run_subscribed : Run {} subscribed :=
  (run_subscribing.tail (.session Forgery.setting Forgery.receiver .advanced)).tail
    (.session Forgery.setting Forgery.receiver .advanced)

def told : World := tell (tell subscribed (message [0x31])) (message [0x32])

theorem run_told : Run {} told :=
  (run_subscribed.trans (run_tell rfl rfl rfl)).trans (run_tell rfl rfl rfl)

end World.News

namespace World

open Broker

/-- A subscription has received the two messages that were issued. -/
theorem inOrder_of_run_news :
    Run {} News.told ∧ InOrder News.told ∧
      Delivery.received 0 "/topic/x" ⟨Forgery.receiver, "0"⟩ News.told.deliveries = [0, 1] :=
  ⟨News.run_told, inOrder_of_run News.run_told, rfl⟩

end World

end StompBroker
