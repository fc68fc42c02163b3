import StompBroker.Proofs.Broker.Private

/-!
# The label of a private message

A message for a user is labelled with the user's own form of a private queue. What the label is made
from is read back from it, and a client that subscribes to its own label is listed under the key
that the message is looked up by. So it is for every user but the one called queue
(`labelled_of_reachable`): the labels of that user have the start of the shared keys, are taken for
such keys, and a subscription to one stands where no message is looked up.
-/

set_option autoImplicit false

namespace StompBroker.Broker

variable {setting : Setting} {broker : Broker} {session : Session} {frame : Frame}
  {username destination queue subscription key : String}

/-! ### What a user subscribes to -/

/-- A user subscribes to keys, and to the own forms of private queues. -/
def Subscribable (username destination : String) : Prop :=
  Destination.IsKey destination ∨
    username ≠ "" ∧ '/' ∉ username.toList ∧
      ∃ name, name ≠ "" ∧ destination = userDestination username ("/queue/" ++ name)

theorem subscriptionKey?_userDestination (hne : username ≠ "") (hslash : '/' ∉ username.toList)
    (hqueue : Destination.hasName "/queue/" queue = true) :
    subscriptionKey? username (userDestination username queue) =
      some (if username = "queue" then userDestination username queue else userQueue queue) := by
  rw [subscriptionKey?, Destination.parse_userDestination hne hslash hqueue]
  by_cases hcalled : username = "queue"
  · rw [if_pos hcalled, if_pos hcalled]
  · simp only [if_neg hcalled, if_true]

theorem exists_subscriptionKey?_iff :
    (∃ key, subscriptionKey? username destination = some key) ↔
      Subscribable username destination := by
  constructor
  · rintro ⟨key, hkey⟩
    rcases subscriptionKey?_eq_some_iff.mp hkey with ⟨hshared, -⟩ | hparse
    · exact .inl hshared
    · obtain ⟨⟨hne, hslash⟩, -, queue, hqueue, hown, -⟩ :=
        Destination.parse_eq_userScoped_iff.mp hparse
      obtain ⟨name, hname, rfl⟩ := Destination.hasName_iff.mp hqueue
      exact .inr ⟨hne, hslash, name, hname, hown⟩
  · rintro (hshared | ⟨hne, hslash, name, hname, rfl⟩)
    · exact ⟨destination, subscriptionKey?_eq_some_iff.mpr (.inl ⟨hshared, rfl⟩)⟩
    · exact ⟨_, subscriptionKey?_userDestination hne hslash
        (Destination.hasName_iff.mpr ⟨name, hname, rfl⟩)⟩

/-! ### Subscriptions to labels -/

/-- A receipt leaves the books as they are. -/
theorem books_sendReceipt (setting : Setting) (broker : Broker) (session : Session)
    (frame : Frame) :
    (broker.sendReceipt setting session frame).registry = broker.registry ∧
      (broker.sendReceipt setting session frame).table = broker.table := by
  unfold sendReceipt
  cases frame.header? Header.receipt with
  | none => exact ⟨rfl, rfl⟩
  | some receipt => exact ⟨rfl, rfl⟩

/-- A session subscribes to a label of its own user, under an id that is free. -/
structure SubscribesToLabel (broker : Broker) (session : Session) (frame : Frame)
    (queue subscription : String) : Prop where
  live : broker.registry.get? session.id = some session
  authenticated : session.authenticated = true
  username : session.username ≠ "" ∧ '/' ∉ session.username.toList
  named : ∃ name, name ≠ "" ∧ queue = "/queue/" ++ name
  command : frame.command = .subscribe
  id : frame.header? Header.id = some subscription
  destination :
    frame.header? Header.destination = some (userDestination session.username queue)
  free : session.subscriptions.lookup subscription = none

theorem handleFrame_of_handleSubscribe {after : Broker}
    (hlive : broker.registry.get? session.id = some session)
    (hauthenticated : session.authenticated = true) (hcommand : frame.command = .subscribe)
    (hsubscribe : broker.handleSubscribe session frame = .ok after) :
    broker.handleFrame setting session.id frame =
      (.continue, after.sendReceipt setting session frame) := by
  rw [handleFrame_of_authenticated (hcommand ▸ rfl) hlive hauthenticated]
  simp only [handleAuthenticated, hcommand, hsubscribe, settle]

/-- Behind a subscription to a label, the table has it under one key, and the session holds it. -/
theorem SubscribesToLabel.run (h : SubscribesToLabel broker session frame queue subscription)
    (hconsistent : Consistent broker) (setting : Setting) :
    (∀ key, (key, ⟨session.id, subscription⟩) ∈
        (broker.run setting (.handleFrame session.id frame)).table.entries ↔
          key = if session.username = "queue" then userDestination session.username queue
            else userQueue queue) ∧
      (broker.run setting (.handleFrame session.id frame)).HeldBy session.username
        ⟨session.id, subscription⟩ := by
  obtain ⟨name, hname, hqueue⟩ := h.named
  have hnamed : Destination.hasName "/queue/" queue = true :=
    Destination.hasName_iff.mpr ⟨name, hname, hqueue⟩
  have hkey := subscriptionKey?_userDestination h.username.1 h.username.2 hnamed
  generalize (if session.username = "queue" then userDestination session.username queue
    else userQueue queue) = registered at hkey ⊢
  obtain ⟨subscribed, hsubscribe⟩ :
      ∃ subscribed, session.subscribe? subscription registered = some subscribed :=
    ⟨_, Session.subscribe?_eq_some_iff.mpr ⟨h.free, rfl⟩⟩
  obtain ⟨-, hsubscribed⟩ := Session.subscribe?_eq_some_iff.mp hsubscribe
  have hhandled : broker.handleSubscribe session frame =
      .ok { broker with
        registry := broker.registry.update session.id fun _ ↦ subscribed
        table := broker.table.add registered ⟨session.id, subscription⟩ } := by
    rw [handleSubscribe, h.id, h.destination]
    simp only [hkey, hsubscribe]
  rw [Broker.run, handleFrame_of_handleSubscribe h.live h.authenticated h.command hhandled]
  obtain ⟨hregistry, htable⟩ := books_sendReceipt setting
    { broker with
      registry := broker.registry.update session.id fun _ ↦ subscribed
      table := broker.table.add registered ⟨session.id, subscription⟩ } session frame
  constructor
  · intro key
    have hunused : (key, ⟨session.id, subscription⟩) ∉ broker.table.entries := by
      rw [hconsistent.mem_entries_iff h.live, h.free]
      exact Option.some_ne_none key ∘ Eq.symm
    rw [htable]
    simp only [SubscriptionTable.mem_entries_add, hunused, and_true, or_false]
  · rw [HeldBy, hregistry]
    refine ⟨subscribed, ?_, ?_, ?_⟩
    · exact Registry.get?_update_self (fun _ _ ↦ by rw [← hsubscribed]) h.live
    · rw [← hsubscribed]
      exact h.authenticated
    · rw [← hsubscribed]

/-! ### The laws of labels -/

/-- Labels are read back as what they were made from, and lead to the messages that they are on. -/
structure Labelled (broker : Broker) : Prop where
  parsed : ∀ username name, username ≠ "" → '/' ∉ username.toList → name ≠ "" →
    Destination.parse (userDestination username ("/queue/" ++ name)) =
      if username = "queue" then .userQueue (userDestination username ("/queue/" ++ name))
      else .userScoped username (userQueue ("/queue/" ++ name))
  named : ∀ raw username canonical, Destination.parse raw = .userScoped username canonical →
    username ≠ "" ∧ '/' ∉ username.toList ∧
      ∃ name, name ≠ "" ∧ raw = userDestination username ("/queue/" ++ name) ∧
        canonical = userQueue ("/queue/" ++ name)
  plain : ∀ raw, (∀ username canonical, Destination.parse raw ≠ .userScoped username canonical) →
    Destination.parse raw ∈
      [.topic raw, .queue raw, .userQueue raw, .app raw, .other raw]
  /-- A session that subscribes to a label of its user is listed under the shared key. -/
  registered : ∀ setting session frame queue subscription,
    SubscribesToLabel broker session frame queue subscription →
      ∀ key, (key, ⟨session.id, subscription⟩) ∈
        (broker.run setting (.handleFrame session.id frame)).table.entries ↔
          key = if session.username = "queue" then userDestination session.username queue
            else userQueue queue
  /-- What the server then sends to the queue of the user is written to that subscription. -/
  reached : ∀ setting session frame queue subscription body,
    SubscribesToLabel broker session frame queue subscription →
      ∃ attempts, Routed (broker.run setting (.handleFrame session.id frame))
          ((broker.run setting (.handleFrame session.id frame)).run setting
            (.sendToQueue session.username queue body))
          session.username (userQueue queue)
          ⟨userDestination session.username queue, jsonContentType, body⟩ attempts [] ∧
        (⟨session.id, subscription⟩ ∈ attempts.map Attempt.subscriber ↔
          session.username ≠ "queue")

theorem userDestination_ne_userQueue (queue : String) :
    userDestination "queue" queue ≠ userQueue queue := by
  intro heq
  have hlength := congrArg String.length heq
  simp only [userDestination, userQueue, String.length_append] at hlength
  have huser : "/user".length < "/user/".length := by decide
  omega

/-- Whatever was asked of the broker, labels lead to where they should but for the user called
queue. -/
theorem labelled_of_reachable {allowed : Setting → Broker → Operation → Prop}
    (h : Reachable allowed broker) : Labelled broker where
  parsed username name hne hslash hname :=
    Destination.parse_userDestination hne hslash (Destination.hasName_iff.mpr ⟨name, hname, rfl⟩)
  named raw username canonical hparse := by
    obtain ⟨⟨hne, hslash⟩, -, queue, hqueue, hraw, hcanonical⟩ :=
      Destination.parse_eq_userScoped_iff.mp hparse
    obtain ⟨name, hname, rfl⟩ := Destination.hasName_iff.mp hqueue
    exact ⟨hne, hslash, name, hname, hraw, hcanonical⟩
  plain _ hplain := Destination.parse_mem_of_ne_userScoped hplain
  registered setting _ _ _ _ hlabel := (hlabel.run h.consistent setting).1
  reached setting session frame queue subscription body hlabel := by
    obtain ⟨hentries, hheld⟩ := hlabel.run h.consistent setting
    have hafter : (Operation.handleFrame session.id frame).Fresh broker := trivial
    obtain ⟨attempts, hrouted⟩ := exists_routed_deliverToUser (h.consistent.run hafter)
      (h.proper.run hafter) setting session.username queue jsonContentType body
    refine ⟨attempts, hrouted, ?_⟩
    rw [hrouted.held_iff, and_iff_left hheld, hentries]
    by_cases hcalled : session.username = "queue"
    · rw [if_pos hcalled, hcalled]
      simp [(userDestination_ne_userQueue queue).symm]
    · simp [hcalled]

/-- A second subscription of the guest, to its own label. -/
def Greetings.labelled : Frame where
  command := .subscribe
  headers := [(Header.id, "1"), (Header.destination, "/user/v/queue/greeting")]
  body := []

theorem labelled_of_reachable_greetings :
    Reachable (fun _ _ _ ↦ True) Greetings.broker ∧ Labelled Greetings.broker ∧
      SubscribesToLabel Greetings.broker (Greetings.record Greetings.guest "v" .v12)
        Greetings.labelled "/queue/greeting" "1" ∧
      Destination.parse "/user/v/queue/greeting" = .userScoped "v" "/user/queue/greeting" :=
  ⟨Greetings.reachable_broker, labelled_of_reachable Greetings.reachable_broker,
    ⟨rfl, rfl, ⟨by decide, by decide⟩, ⟨"greeting", by decide, rfl⟩, rfl, rfl, rfl, rfl⟩,
    by decide⟩

/-- The label of a greeting for the user called queue is read as the shared key of another queue,
and a subscription to it is not found under the key of the greetings. -/
theorem parse_label_queue :
    Destination.parse (userDestination "queue" "/queue/greeting") =
        .userQueue "/user/queue/queue/greeting" ∧
      Destination.parse (userDestination "queue" "/queue/greeting") ≠
        .userScoped "queue" (userQueue "/queue/greeting") ∧
      subscriptionKey? "queue" (userDestination "queue" "/queue/greeting") ≠
        some (userQueue "/queue/greeting") := by
  decide

end StompBroker.Broker
