import StompBroker.Proofs.Broker.Connection
import StompBroker.Proofs.Frame.Cursor

/-!
# What a connection keeps of its client

A client decides what its octets are, which lengths they declare and how they are cut into messages.
`Codec.Disciplined` says what the decoder does with a buffer nevertheless: it reads inside of it, and
it takes nothing off but the line ends in front of a frame and the frame, if there is one. A frame is
not empty, so frames can be taken off a buffer only so often (`wellFounded_decode`), and what waits
for the rest of its frame is no longer than a frame may be.

The reading half of a session waits with such a rest, and reads the next message behind it. A message
makes the buffer longer once, and every frame makes it shorter (`Socket.length_le_of_heard`). So
between messages it holds one frame at most (`Within`), a step lemma for turns and from it a lemma
for their runs.
-/

set_option autoImplicit false

namespace StompBroker

open Broker

/-! ### One buffer -/

namespace Codec

/-- What a decoder owes to the buffer that it is given: no position that it comes to is outside of
the buffer, and it takes off the line ends in front and one frame that is within the limit. What
waits for more is within the limit as well. -/
structure Disciplined (codec : Codec) (buffer : Bytes) : Prop where
  scan : buffer.length < maxUnsigned64 → codec.scan buffer = .ok (codec.decode buffer)
  frame : ∀ frame rest, codec.decode buffer = .frame frame rest →
    ∃ ends taken, Stripped buffer ends (taken ++ rest) ∧
      1 ≤ taken.length ∧ taken.length ≤ codec.maxFrameBytes
  more : ∀ left, codec.decode buffer = .more left →
    (∃ ends, Stripped buffer ends left) ∧ left.length ≤ codec.maxFrameBytes
  invalid : ∀ cause left, codec.decode buffer = .invalid cause left →
    ∃ ends, Stripped buffer ends left

theorem length_le_of_decode_eq_more {codec : Codec} {buffer left : Bytes}
    (h : codec.decode buffer = .more left) :
    left.length ≤ codec.maxFrameBytes := by
  obtain ⟨-, octets, hread, hle⟩ := decode_eq_more_iff.mp h
  exact Nat.le_trans (length_le_of_readFrame_eq_atLeast hread) hle

theorem disciplined (codec : Codec) (buffer : Bytes) : Disciplined codec buffer where
  scan hlt := scan_eq_decode codec (Nat.le_of_lt hlt)
  frame frame rest h := by
    obtain ⟨ends, first, block, blank, taken, -, htaken, hstripped, hsize⟩ :=
      exists_spelling_of_decode_eq_frame h
    refine ⟨ends, taken, hstripped, ?_, hsize⟩
    simp only [htaken, List.length_append, List.length_cons]
    omega
  more _ h := ⟨stripped_iff.mpr (decode_eq_more_iff.mp h).1, length_le_of_decode_eq_more h⟩
  invalid _ _ h := stripped_iff.mpr (decode_eq_invalid_iff.mp h).1

/-- No buffer holds frames without end, whichever codecs take them off. -/
theorem wellFounded_decode :
    WellFounded fun rest buffer : Bytes ↦
      ∃ (codec : Codec) (frame : Frame), codec.decode buffer = .frame frame rest := by
  refine Subrelation.wf (r := InvImage (· < ·) List.length) ?_ (InvImage.wf _ Nat.lt_wfRel.wf)
  rintro rest buffer ⟨codec, frame, h⟩
  exact length_lt_of_decode_eq_frame h

end Codec

/-! ### One message -/

variable {setting : Setting} {id : SessionId} {socket next : Socket} {broker : Broker}
  {reading middle last : Reading} {frames : List Frame} {handled : List Handled} {flow : Flow}

namespace Socket

/-- Switching versions leaves the limit alone. -/
theorem maxFrameBytes_of_heard (h : Heard setting id reading frames middle) :
    middle.codec.maxFrameBytes = reading.codec.maxFrameBytes := by
  induction h with
  | refl => rfl
  | head _ _ _ ih => exact ih

/-- Every frame of a message makes the buffer shorter. -/
theorem length_le_of_heard (h : Heard setting id reading frames middle) :
    frames.length + middle.buffer.length ≤ reading.buffer.length := by
  induction h with
  | refl => exact Nat.le_of_eq (Nat.zero_add _)
  | head hdecode _ _ ih =>
    have hlt := Codec.length_lt_of_decode_eq_frame hdecode
    simp only [List.length_cons] at ih ⊢
    omega

theorem codec_of_halt (h : Halt setting id reading handled flow last) :
    last.codec = reading.codec := by
  cases h with
  | more _ => rfl
  | invalid _ => rfl
  | close _ _ => rfl

theorem length_le_of_halt (h : Halt setting id reading handled flow last) :
    last.buffer.length ≤ reading.buffer.length := by
  cases h with
  | more hdecode =>
    obtain rfl := (Codec.decode_eq_more_iff.mp hdecode).1
    exact Codec.length_skipLineEnds_le _
  | invalid hdecode =>
    obtain rfl := (Codec.decode_eq_invalid_iff.mp hdecode).1
    exact Codec.length_skipLineEnds_le _
  | close hdecode _ => exact Nat.le_of_lt (Codec.length_lt_of_decode_eq_frame hdecode)

/-- What is left of a message, if the connection goes on, waits for the rest of one frame. -/
theorem length_le_maxFrameBytes_of_halt (h : Halt setting id reading handled .continue last) :
    last.buffer.length ≤ reading.codec.maxFrameBytes := by
  cases h with
  | more hdecode => exact Codec.length_le_of_decode_eq_more hdecode

end Socket

/-! ### Many messages -/

/-- The octets that wait are no more than a frame may have. -/
structure Within (max : Nat) (socket : Socket) : Prop where
  limit : socket.codec.maxFrameBytes = max
  buffer : socket.buffer.length ≤ max

theorem Within.fresh (id : SessionId) (max : Nat) : Within max (.fresh id max) :=
  ⟨rfl, Nat.zero_le _⟩

theorem Within.step {max : Nat} (h : Within max socket) {arrival : Arrival} {after : Broker}
    (hstep : socket.step setting broker arrival = (.continue, next, after)) : Within max next := by
  cases arrival with
  | message data =>
    by_cases hfits : data.length ≤ socket.codec.maxFrameBytes
    · obtain ⟨frames, middle, handled, flow, last, hheard, hhalt⟩ := Socket.exists_heard_halt
        setting socket.id ⟨socket.codec, socket.buffer ++ data, broker⟩
      rw [Socket.step_message hfits hheard hhalt] at hstep
      simp only [Prod.mk.injEq] at hstep
      obtain ⟨rfl, rfl, -⟩ := hstep
      have hmiddle := (Socket.maxFrameBytes_of_heard hheard).trans h.limit
      refine ⟨?_, ?_⟩
      · exact (congrArg Codec.maxFrameBytes (Socket.codec_of_halt hhalt)).trans hmiddle
      · exact hmiddle ▸ Socket.length_le_maxFrameBytes_of_halt hhalt
    · rw [Socket.step, if_pos (Nat.lt_of_not_le hfits)] at hstep
      cases hstep
  | ping payload =>
    cases hstep
    exact h
  | pong =>
    cases hstep
    exact h
  | ended => cases hstep
  | shutdown => cases hstep
  | deadline =>
    rw [Socket.step] at hstep
    split at hstep
    · cases hstep
      exact h
    · cases hstep

theorem Within.serve {max : Nat} (h : Within max socket) {arrival : Arrival}
    (hserve : (socket.serve setting broker arrival).1 = some next) : Within max next := by
  rw [Socket.serve] at hserve
  rcases hstep : socket.step setting broker arrival with ⟨flow, stepped, after⟩
  rw [hstep] at hserve
  cases flow with
  | close => cases hserve
  | «continue» =>
    cases hserve
    exact h.step hstep

/-- Whatever happens to a connection and around it, what waits is within the limit. -/
theorem within_of_turns {origin : Broker} {sink : Sink} {max : Nat} {link : Link}
    (h : Turns id (.opened setting origin id sink max) link) :
    ∀ socket, link.socket = some socket → Within max socket := by
  induction h with
  | refl =>
    rintro socket ⟨⟩
    exact Within.fresh id max
  | tail _ hturn ih =>
    cases hturn with
    | arrived hserves =>
      intro socket hsocket
      exact (ih _ rfl).serve hsocket
    | others hfresh hforeign => exact ih
    | panicked hbreaks =>
      rintro socket ⟨⟩

/-- Whatever a client sends, decoding stays inside of the buffer and comes to an end, and the buffer
of a connection holds its limit and the last message at most, at every frame of that message and
behind it. -/
theorem buffer_bounded_of_turns (max : Nat) :
    (∀ version buffer, Codec.Disciplined ⟨version, max⟩ buffer) ∧
      (WellFounded fun rest buffer : Bytes ↦
        ∃ (codec : Codec) (frame : Frame), codec.decode buffer = .frame frame rest) ∧
      ∀ (setting : Setting) (origin : Broker) (id : SessionId) (sink : Sink) (link : Link)
        (socket : Socket),
        Turns id (.opened setting origin id sink max) link → link.socket = some socket →
          socket.buffer.length ≤ max ∧
            ∀ setting broker data frames middle,
              Socket.Heard setting socket.id ⟨socket.codec, socket.buffer ++ data, broker⟩ frames
                middle →
                frames.length + middle.buffer.length ≤ max + data.length ∧
                  ∀ handled flow last, Socket.Halt setting socket.id middle handled flow last →
                    last.buffer.length ≤ max + data.length := by
  refine ⟨fun version ↦ Codec.disciplined ⟨version, max⟩, Codec.wellFounded_decode, ?_⟩
  intro setting origin id sink link socket hturns hsocket
  have hwithin := within_of_turns hturns socket hsocket
  refine ⟨hwithin.buffer, fun setting broker data frames middle hheard ↦ ?_⟩
  have hlength := Socket.length_le_of_heard hheard
  have hbuffer := hwithin.buffer
  rw [List.length_append] at hlength
  refine ⟨by omega, fun handled flow last hhalt ↦ ?_⟩
  have hlast := Socket.length_le_of_halt hhalt
  omega

/-- A command line waits; with the header line of the next message the buffer is longer than a frame
may be, and is refused. -/
theorem buffer_bounded_of_turns_unfinished :
    let start : Link := .opened Forgery.setting {} Forgery.receiver {} 8
    let waiting : Socket := ⟨Forgery.receiver, ⟨.v12, 8⟩, Utf8.encode "SEND\n", false⟩
    let reading : Reading :=
      ⟨⟨.v12, 8⟩, Utf8.encode "SEND\n" ++ Utf8.encode "k:v\n", start.broker⟩
    let refused : Reading := ⟨⟨.v12, 8⟩, reading.buffer,
      Socket.refuse Forgery.setting Forgery.receiver (.tooLarge 8) start.broker⟩
    Turns Forgery.receiver start ⟨some waiting, start.broker, []⟩ ∧
      Socket.Heard Forgery.setting Forgery.receiver reading [] reading ∧
      Socket.Halt Forgery.setting Forgery.receiver reading [] .close refused ∧
      waiting.buffer.length ≤ 8 ∧
      0 + reading.buffer.length ≤ 8 + (Utf8.encode "k:v\n").length ∧
      refused.buffer.length ≤ 8 + (Utf8.encode "k:v\n").length := by
  intro start waiting reading refused
  have hheard : Socket.Heard Forgery.setting Forgery.receiver
      ⟨⟨.v12, 8⟩, [] ++ Utf8.encode "SEND\n", start.broker⟩ []
      ⟨⟨.v12, 8⟩, [] ++ Utf8.encode "SEND\n", start.broker⟩ := .refl
  have hmore : Codec.decode ⟨.v12, 8⟩ ([] ++ Utf8.encode "SEND\n") =
      .more (Utf8.encode "SEND\n") := by
    decide +kernel
  have hfits : (Utf8.encode "SEND\n").length ≤ 8 := by decide
  have hserve : (Socket.fresh Forgery.receiver 8).serve Forgery.setting start.broker
      (.message (Utf8.encode "SEND\n")) = (some waiting, start.broker) := by
    rw [Socket.serve, Socket.step_message hfits hheard (.more hmore)]
    rfl
  have hturn : Turn Forgery.receiver start ⟨some waiting, start.broker, []⟩ := by
    have hserved : Turn Forgery.receiver
        ⟨some (.fresh Forgery.receiver 8), start.broker, []⟩ ⟨_, _, _⟩ :=
      .arrived (.message hfits hheard (.more hmore))
    rw [hserve] at hserved
    exact hserved
  have hinvalid : Codec.decode ⟨.v12, 8⟩ reading.buffer =
      .invalid (.tooLarge 8) reading.buffer := by
    decide +kernel
  obtain ⟨-, -, hbounded⟩ := buffer_bounded_of_turns 8
  obtain ⟨hwaiting, hmessage⟩ := hbounded Forgery.setting {} Forgery.receiver {} _ waiting
    (.single hturn) rfl
  obtain ⟨hreading, hlast⟩ := hmessage Forgery.setting start.broker (Utf8.encode "k:v\n") []
    reading .refl
  exact ⟨.single hturn, .refl, .invalid hinvalid, hwaiting, hreading,
    hlast [] .close refused (.invalid hinvalid)⟩

end StompBroker
