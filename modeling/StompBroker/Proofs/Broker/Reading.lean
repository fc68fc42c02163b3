import StompBroker.Proofs.Broker.Conversation
import StompBroker.Proofs.Frame.Stream

/-!
# What is read of a message

The reading half of a session dispatches the frames of a message one after the other. A `Reading` is
where it stands; the frames that are answered with Continue are `Heard`, and then the message comes
to its `Halt`. That is what `Socket.step` does with a message (`Socket.step_message`), and every
message is read so (`Socket.exists_heard_halt`).

`Socket.Serves` says which frames an arrival dispatches, and `Socket.Breaks` where the reading half
may stand when something panics. In both cases all frames but the last were answered with Continue
(`Orderly`).
-/

set_option autoImplicit false

namespace StompBroker

open Broker

/-- A frame that was dispatched, and its answer unless a panic came first. -/
structure Handled where
  frame : Frame
  answer : Option Flow
  deriving DecidableEq, Repr

/-- What the reading half has of a message, and the broker. -/
structure Reading where
  codec : Codec
  buffer : Bytes
  broker : Broker

variable {setting : Setting} {id : SessionId} {socket : Socket} {broker : Broker}
  {reading middle : Reading} {frames : List Frame} {handled : List Handled} {flow : Flow}

/-! ### Frame by frame -/

namespace Socket

/-- Frames that are answered with Continue, one after the other. -/
inductive Heard (setting : Setting) (id : SessionId) : Reading → List Frame → Reading → Prop
  | refl {reading : Reading} : Heard setting id reading [] reading
  | head {codec : Codec} {buffer rest : Bytes} {broker after : Broker} {frame : Frame}
    {version : Option Version} {frames : List Frame} {last : Reading} :
    codec.decode buffer = .frame frame rest →
      dispatch setting id frame broker = (.continue, version, after) →
        Heard setting id ⟨{ codec with version := version.getD codec.version }, rest, after⟩ frames
          last →
            Heard setting id ⟨codec, buffer, broker⟩ (frame :: frames) last

/-- The end of a message, with the last frame that was dispatched if it was answered with Close. -/
inductive Halt (setting : Setting) (id : SessionId) (reading : Reading) :
    List Handled → Flow → Reading → Prop
  /-- No whole frame is left. -/
  | more {left : Bytes} :
    reading.codec.decode reading.buffer = .more left →
      Halt setting id reading [] .continue ⟨reading.codec, left, reading.broker⟩
  /-- What is left is no frame. -/
  | invalid {cause : CodecError} {left : Bytes} :
    reading.codec.decode reading.buffer = .invalid cause left →
      Halt setting id reading [] .close
        ⟨reading.codec, left, refuse setting id cause reading.broker⟩
  | close {frame : Frame} {rest : Bytes} {version : Option Version} {after : Broker} :
    reading.codec.decode reading.buffer = .frame frame rest →
      dispatch setting id frame reading.broker = (.close, version, after) →
        Halt setting id reading [⟨frame, some .close⟩] .close ⟨reading.codec, rest, after⟩

/-- Frames as they are kept once they were answered with Continue. -/
def continued (frames : List Frame) : List Handled :=
  frames.map fun frame ↦ ⟨frame, some .continue⟩

/-- The whole of what is read, from the first frame to the end. -/
def drained (setting : Setting) (id : SessionId) (reading : Reading) :
    Flow × Codec × Bytes × Broker :=
  reading.codec.drain (dispatch setting id) (refuse setting id) reading.buffer reading.broker

theorem drained_of_heard (h : Heard setting id reading frames middle) :
    drained setting id reading = drained setting id middle := by
  induction h with
  | refl => rfl
  | head hdecode hdispatch _ ih =>
    rw [← ih]
    exact Codec.drain_of_continue hdecode hdispatch

theorem drained_of_halt {last : Reading} (h : Halt setting id reading handled flow last) :
    drained setting id reading = (flow, last.codec, last.buffer, last.broker) := by
  cases h with
  | more hdecode => exact Codec.drain_of_more hdecode
  | invalid hdecode => exact Codec.drain_of_invalid hdecode
  | close hdecode hdispatch => exact Codec.drain_of_close hdecode hdispatch

/-- Every message is read to its end. -/
theorem exists_heard_halt (setting : Setting) (id : SessionId) (reading : Reading) :
    ∃ frames middle handled flow last, Heard setting id reading frames middle ∧
      Halt setting id middle handled flow last := by
  obtain ⟨codec, buffer, broker⟩ := reading
  induction hlength : buffer.length using Nat.strongRecOn generalizing codec buffer broker with
  | ind length ih =>
    cases hdecode : codec.decode buffer with
    | more left => exact ⟨[], _, _, _, _, .refl, .more hdecode⟩
    | invalid cause left => exact ⟨[], _, _, _, _, .refl, .invalid hdecode⟩
    | frame frame rest =>
      rcases hdispatch : dispatch setting id frame broker with ⟨flow, version, after⟩
      cases flow with
      | close => exact ⟨[], _, _, _, _, .refl, .close hdecode hdispatch⟩
      | «continue» =>
        have hlt := Codec.length_lt_of_decode_eq_frame hdecode
        obtain ⟨frames, middle, handled, flow, last, hheard, hhalt⟩ :=
          ih rest.length (hlength ▸ hlt) { codec with version := version.getD codec.version } rest
            after rfl
        exact ⟨frame :: frames, middle, handled, flow, last, .head hdecode hdispatch hheard, hhalt⟩

/-- The frames that are dispatched while an arrival is served. -/
inductive Serves (setting : Setting) (socket : Socket) (broker : Broker) :
    Arrival → List Handled → Prop
  | message {data : Bytes} {frames : List Frame} {middle last : Reading} {handled : List Handled}
    {flow : Flow} :
    data.length ≤ socket.codec.maxFrameBytes →
      Heard setting socket.id ⟨socket.codec, socket.buffer ++ data, broker⟩ frames middle →
        Halt setting socket.id middle handled flow last →
          Serves setting socket broker (.message data) (continued frames ++ handled)
  | other {arrival : Arrival} :
    (∀ data, arrival = .message data → socket.codec.maxFrameBytes < data.length) →
      Serves setting socket broker arrival []

/-- Where the reading half may stand when something panics, with the frames dispatched until then:
waiting, between two frames, behind a refusal, or between any two acts that handle a frame. -/
inductive Breaks (setting : Setting) (socket : Socket) (broker : Broker) :
    List Handled → Broker → Prop
  | waiting : Breaks setting socket broker [] broker
  | timedOut :
    socket.authenticated = false →
      Breaks setting socket broker [] (broker.reject setting socket.id connectTimeout none).2
  | reading {data : Bytes} {frames : List Frame} {middle : Reading} :
    Heard setting socket.id ⟨socket.codec, socket.buffer ++ data, broker⟩ frames middle →
      Breaks setting socket broker (continued frames) middle.broker
  | refused {data left : Bytes} {frames : List Frame} {middle : Reading} {cause : CodecError} :
    Heard setting socket.id ⟨socket.codec, socket.buffer ++ data, broker⟩ frames middle →
      middle.codec.decode middle.buffer = .invalid cause left →
        Breaks setting socket broker (continued frames)
          (refuse setting socket.id cause middle.broker)
  | handling {data rest : Bytes} {frames : List Frame} {middle : Reading} {frame : Frame}
    {broken : Broker} :
    Heard setting socket.id ⟨socket.codec, socket.buffer ++ data, broker⟩ frames middle →
      middle.codec.decode middle.buffer = .frame frame rest →
        Acts setting (some socket.id) middle.broker broken →
          Acts setting (some socket.id) broken
            (middle.broker.handleFrame setting socket.id frame).2 →
              Breaks setting socket broker (continued frames ++ [⟨frame, none⟩]) broken

theorem exists_serves (setting : Setting) (socket : Socket) (broker : Broker) (arrival : Arrival) :
    ∃ handled, Serves setting socket broker arrival handled := by
  by_cases hread : ∃ data, arrival = .message data ∧ data.length ≤ socket.codec.maxFrameBytes
  · obtain ⟨data, rfl, hfits⟩ := hread
    obtain ⟨frames, middle, handled, flow, last, hheard, hhalt⟩ := exists_heard_halt setting
      socket.id ⟨socket.codec, socket.buffer ++ data, broker⟩
    exact ⟨_, .message hfits hheard hhalt⟩
  · refine ⟨[], .other fun data heq ↦ ?_⟩
    by_contra hfits
    exact hread ⟨data, heq, Nat.le_of_not_lt hfits⟩

/-- What a message does to the reading half is told by how it was read. -/
theorem step_message {data : Bytes} {last : Reading}
    (hfits : data.length ≤ socket.codec.maxFrameBytes)
    (hheard : Heard setting socket.id ⟨socket.codec, socket.buffer ++ data, broker⟩ frames middle)
    (hhalt : Halt setting socket.id middle handled flow last) :
    socket.step setting broker (.message data) =
      (flow,
        { socket with
          codec := last.codec
          buffer := last.buffer
          authenticated := socket.authenticated ||
            (last.broker.registry.get? socket.id).elim false (·.authenticated) },
        last.broker) := by
  have hdrained := (drained_of_heard hheard).trans (drained_of_halt hhalt)
  rw [drained] at hdrained
  rw [step, if_neg (Nat.not_lt.mpr hfits), read, hdrained]

end Socket

/-! ### Answers -/

/-- Every frame but the last was answered with Continue, and the last as well while the connection
goes on. -/
def Orderly (handled : List Handled) : Flow → Prop
  | .continue => ∀ entry ∈ handled, entry.answer = some .continue
  | .close => ∀ entry ∈ handled.dropLast, entry.answer = some .continue

theorem Orderly.append {earlier : List Handled} (h : Orderly earlier .continue)
    (hnext : Orderly handled flow) : Orderly (earlier ++ handled) flow := by
  cases flow with
  | «continue» =>
    intro entry hmem
    rcases List.mem_append.mp hmem with hmem | hmem
    · exact h entry hmem
    · exact hnext entry hmem
  | close =>
    intro entry hmem
    cases handled with
    | nil =>
      rw [List.append_nil] at hmem
      exact h entry (List.dropLast_subset _ hmem)
    | cons first handled =>
      rw [List.dropLast_append_of_ne_nil (List.cons_ne_nil first handled)] at hmem
      rcases List.mem_append.mp hmem with hmem | hmem
      · exact h entry hmem
      · exact hnext entry hmem

theorem orderly_nil : Orderly [] flow := by
  cases flow with
  | «continue» => exact fun _ hmem ↦ by cases hmem
  | close => exact fun _ hmem ↦ by cases hmem

theorem orderly_singleton (entry : Handled) : Orderly [entry] .close :=
  fun _ hmem ↦ by cases hmem

theorem orderly_continued (frames : List Frame) : Orderly (Socket.continued frames) .continue := by
  intro entry hmem
  obtain ⟨frame, -, rfl⟩ := List.mem_map.mp hmem
  rfl

theorem Orderly.stopped (h : Orderly handled .continue) : Orderly handled .close :=
  fun entry hmem ↦ h entry (List.dropLast_subset _ hmem)

theorem orderly_of_halt {last : Reading} (h : Socket.Halt setting id reading handled flow last) :
    Orderly handled flow := by
  cases h with
  | more _ => exact orderly_nil
  | invalid _ => exact orderly_nil
  | close _ _ => exact orderly_singleton _

theorem orderly_of_breaks {broken : Broker} (h : socket.Breaks setting broker handled broken) :
    Orderly handled .close := by
  cases h with
  | waiting => exact orderly_nil
  | timedOut _ => exact orderly_nil
  | reading _ => exact (orderly_continued _).stopped
  | refused _ _ => exact (orderly_continued _).stopped
  | handling _ _ _ _ => exact (orderly_continued _).append (orderly_singleton _)

end StompBroker
