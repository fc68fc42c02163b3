import Mathlib.Data.List.Induction
import StompBroker.Frame.Stream
import StompBroker.Proofs.Frame.Prefix

/-!
# Streams in pieces

A connection delivers its octets in pieces, and `Codec.drain` runs once for each of them. A
`Reader` keeps what such runs leave behind: whether the connection goes on, the codec, the octets
that wait, and a `Trace` of the frames that were dispatched and of the failure that ended them.
`Reader.take` runs over one more piece. Tracing does not change a run (`drain_eq_of_readAll`).

The cuts between the pieces do not matter (`agree_foldl_take`): readers that take a stream in
pieces and in one dispatch the same frames, stop after the same frame, and otherwise end alike. They
may only name different reasons for a failure, where the pieces were refused for their size. One
step of this is `agree_take_append`, an induction on the frames of the first piece; the run over
many pieces follows because a reader cannot tell how it came to its state (`Agree.take`).
-/

set_option autoImplicit false

namespace StompBroker.Codec

variable {σ : Type}

/-! ### One run -/

section Drain

variable {dispatch : Frame → σ → Flow × Option Version × σ} {refuse : CodecError → σ → σ}
  {codec : Codec} {buffer rest left : Bytes} {frame : Frame} {state : σ}

/-- What follows a frame is shorter than the buffer was. -/
theorem length_lt_of_decode_eq_frame (h : codec.decode buffer = .frame frame rest) :
    rest.length < buffer.length := by
  obtain ⟨hread, -⟩ := decode_eq_frame_iff.mp h
  have hlt := (readFrame_eq_complete_iff.mp hread).1.length_lt
  have hle := length_skipLineEnds_le buffer
  omega

theorem drain_of_more (h : codec.decode buffer = .more left) :
    codec.drain dispatch refuse buffer state = (.continue, codec, left, state) := by
  rw [drain, h]

theorem drain_of_invalid {cause : CodecError} (h : codec.decode buffer = .invalid cause left) :
    codec.drain dispatch refuse buffer state = (.close, codec, left, refuse cause state) := by
  rw [drain, h]

theorem drain_of_close {version : Option Version} {next : σ}
    (h : codec.decode buffer = .frame frame rest)
    (hdispatch : dispatch frame state = (.close, version, next)) :
    codec.drain dispatch refuse buffer state = (.close, codec, rest, next) := by
  rw [drain, h]
  simp only [hdispatch]

/-- After a frame the run goes on in the version that the dispatch asks for. -/
theorem drain_of_continue {version : Option Version} {next : σ}
    (h : codec.decode buffer = .frame frame rest)
    (hdispatch : dispatch frame state = (.continue, version, next)) :
    codec.drain dispatch refuse buffer state =
      drain dispatch refuse { codec with version := version.getD codec.version } rest next := by
  rw [drain, h]
  simp only [hdispatch, if_pos (length_lt_of_decode_eq_frame h)]

end Drain

/-! ### Traces -/

/-- A state, the frames that were dispatched on the way to it, and the failure at its end. -/
structure Trace (σ : Type) where
  state : σ
  frames : List Frame := []
  failure : Option CodecError := none

namespace Trace

/-- Dispatches a frame and keeps it. -/
def watch (dispatch : Frame → σ → Flow × Option Version × σ) (frame : Frame) (trace : Trace σ) :
    Flow × Option Version × Trace σ :=
  let (flow, version, state) := dispatch frame trace.state
  (flow, version, { trace with state, frames := trace.frames ++ [frame] })

/-- Keeps the reason of a failure. -/
def fail (cause : CodecError) (trace : Trace σ) : Trace σ :=
  { trace with failure := some cause }

end Trace

/-- What a connection has read so far. -/
structure Reader (σ : Type) where
  flow : Flow := .continue
  codec : Codec
  left : Bytes := []
  trace : Trace σ

/-- Runs over a buffer and keeps what happens. -/
def readAll (dispatch : Frame → σ → Flow × Option Version × σ) (codec : Codec) (buffer : Bytes)
    (trace : Trace σ) : Reader σ :=
  let (flow, codec, left, trace) := codec.drain (Trace.watch dispatch) Trace.fail buffer trace
  { flow, codec, left, trace }

namespace Reader

/-- A reader that has read nothing. -/
def start (codec : Codec) (state : σ) : Reader σ :=
  { codec, trace := { state } }

/-- What the run leaves behind when nobody watches it. -/
def result (refuse : CodecError → σ → σ) (reader : Reader σ) : Flow × Codec × Bytes × σ :=
  (reader.flow, reader.codec, reader.left,
    reader.trace.failure.elim reader.trace.state fun cause ↦ refuse cause reader.trace.state)

/-- Reads one more piece, unless the connection has ended. -/
def take (dispatch : Frame → σ → Flow × Option Version × σ) (reader : Reader σ) (piece : Bytes) :
    Reader σ :=
  match reader.flow with
  | .continue => readAll dispatch reader.codec (reader.left ++ piece) reader.trace
  | .close => reader

end Reader

section ReadAll

variable {dispatch : Frame → σ → Flow × Option Version × σ} {codec : Codec}
  {buffer rest left : Bytes} {frame : Frame} {trace : Trace σ}

theorem readAll_of_more (h : codec.decode buffer = .more left) :
    readAll dispatch codec buffer trace = { codec, left, trace } := by
  rw [readAll, drain_of_more h]

theorem readAll_of_invalid {cause : CodecError} (h : codec.decode buffer = .invalid cause left) :
    readAll dispatch codec buffer trace =
      { flow := .close, codec, left, trace := trace.fail cause } := by
  rw [readAll, drain_of_invalid h]

theorem readAll_of_close {version : Option Version} {state : σ}
    (h : codec.decode buffer = .frame frame rest)
    (hdispatch : dispatch frame trace.state = (.close, version, state)) :
    readAll dispatch codec buffer trace =
      { flow := .close, codec, left := rest,
        trace := { trace with state, frames := trace.frames ++ [frame] } } := by
  have hwatch : trace.watch dispatch frame =
      (.close, version, { trace with state, frames := trace.frames ++ [frame] }) := by
    simp only [Trace.watch, hdispatch]
  rw [readAll, drain_of_close h hwatch]

theorem readAll_of_continue {version : Option Version} {state : σ}
    (h : codec.decode buffer = .frame frame rest)
    (hdispatch : dispatch frame trace.state = (.continue, version, state)) :
    readAll dispatch codec buffer trace =
      readAll dispatch { codec with version := version.getD codec.version } rest
        { trace with state, frames := trace.frames ++ [frame] } := by
  have hwatch : trace.watch dispatch frame =
      (.continue, version, { trace with state, frames := trace.frames ++ [frame] }) := by
    simp only [Trace.watch, hdispatch]
  rw [readAll, drain_of_continue h hwatch, ← readAll]

/-- A run depends on what its buffer is decoded as, and on nothing else. -/
theorem readAll_congr {other : Bytes} (h : codec.decode buffer = codec.decode other) :
    readAll dispatch codec buffer trace = readAll dispatch codec other trace := by
  cases hother : codec.decode other with
  | more left => rw [readAll_of_more (h.trans hother), readAll_of_more hother]
  | invalid cause left => rw [readAll_of_invalid (h.trans hother), readAll_of_invalid hother]
  | frame frame rest =>
    rcases hdispatch : dispatch frame trace.state with ⟨flow, version, state⟩
    cases flow with
    | close =>
      rw [readAll_of_close (h.trans hother) hdispatch, readAll_of_close hother hdispatch]
    | «continue» =>
      rw [readAll_of_continue (h.trans hother) hdispatch, readAll_of_continue hother hdispatch]

end ReadAll

/-- A run that nobody watches is the same run, and refuses at its end what the watched one failed
for. -/
theorem drain_eq_of_readAll (dispatch : Frame → σ → Flow × Option Version × σ)
    (refuse : CodecError → σ → σ) (codec : Codec) (buffer : Bytes) (trace : Trace σ)
    (h : trace.failure = none) :
    codec.drain dispatch refuse buffer trace.state =
      (readAll dispatch codec buffer trace).result refuse := by
  induction hlength : buffer.length using Nat.strongRecOn
    generalizing codec buffer trace with
  | ind length ih =>
    cases hdecode : codec.decode buffer with
    | more left =>
      rw [drain_of_more hdecode, readAll_of_more hdecode]
      simp only [Reader.result, h, Option.elim_none]
    | invalid cause left =>
      rw [drain_of_invalid hdecode, readAll_of_invalid hdecode]
      rfl
    | frame frame rest =>
      rcases hdispatch : dispatch frame trace.state with ⟨flow, version, state⟩
      cases flow with
      | close =>
        rw [drain_of_close hdecode hdispatch, readAll_of_close hdecode hdispatch]
        simp only [Reader.result, h, Option.elim_none]
      | «continue» =>
        rw [drain_of_continue hdecode hdispatch, readAll_of_continue hdecode hdispatch]
        have hlt := length_lt_of_decode_eq_frame hdecode
        exact ih rest.length (hlength ▸ hlt) _ rest
          { trace with state, frames := trace.frames ++ [frame] } h rfl

/-! ### Agreement -/

/-- The failure of a stream in pieces, and of the same stream in one. -/
inductive SameFailure (limit : Nat) : Option CodecError → Option CodecError → Prop
  | same (failure : Option CodecError) : SameFailure limit failure failure
  | size (cause : CodecError) : SameFailure limit (some (.tooLarge limit)) (some cause)

/-- What a reader of pieces has in common with a reader of the whole stream. -/
structure Agree (limit : Nat) (pieces whole : Reader σ) : Prop where
  flow : pieces.flow = whole.flow
  codec : pieces.codec = whole.codec
  frames : pieces.trace.frames = whole.trace.frames
  state : pieces.trace.state = whole.trace.state
  failure : SameFailure limit pieces.trace.failure whole.trace.failure
  running : whole.flow = .continue → pieces = whole

theorem Agree.refl {limit : Nat} (reader : Reader σ) : Agree limit reader reader :=
  ⟨rfl, rfl, rfl, rfl, .same _, fun _ ↦ rfl⟩

theorem SameFailure.trans {limit : Nat} {first second third : Option CodecError}
    (h : SameFailure limit first second) (hnext : SameFailure limit second third) :
    SameFailure limit first third := by
  cases h with
  | same _ => exact hnext
  | size cause =>
    cases hnext with
    | same _ => exact .size cause
    | size other => exact .size other

theorem Agree.trans {limit : Nat} {first second third : Reader σ} (h : Agree limit first second)
    (hnext : Agree limit second third) : Agree limit first third where
  flow := h.flow.trans hnext.flow
  codec := h.codec.trans hnext.codec
  frames := h.frames.trans hnext.frames
  state := h.state.trans hnext.state
  failure := h.failure.trans hnext.failure
  running := fun hrunning ↦
    (h.running (hnext.flow.trans hrunning)).trans (hnext.running hrunning)

/-- Readers that agree still do after the same piece. -/
theorem Agree.take {limit : Nat} {pieces whole : Reader σ} (h : Agree limit pieces whole)
    (dispatch : Frame → σ → Flow × Option Version × σ) (piece : Bytes) :
    Agree limit (pieces.take dispatch piece) (whole.take dispatch piece) := by
  cases hflow : whole.flow with
  | «continue» =>
    rw [h.running hflow]
    exact .refl _
  | close =>
    have hpieces : pieces.take dispatch piece = pieces := by
      rw [Reader.take, h.flow.trans hflow]
    have hwhole : whole.take dispatch piece = whole := by
      rw [Reader.take, hflow]
    rw [hpieces, hwhole]
    exact h

/-- A buffer read in two pieces. -/
theorem agree_take_append (dispatch : Frame → σ → Flow × Option Version × σ) (codec : Codec)
    (hlimit : 1 ≤ codec.maxFrameBytes) (buffer more : Bytes) (trace : Trace σ) :
    Agree codec.maxFrameBytes ((readAll dispatch codec buffer trace).take dispatch more)
      (readAll dispatch codec (buffer ++ more) trace) := by
  induction hlength : buffer.length using Nat.strongRecOn
    generalizing codec buffer trace with
  | ind length ih =>
    cases hdecode : codec.decode buffer with
    | more left =>
      rw [readAll_of_more hdecode, readAll_congr (decode_append_of_more hdecode more)]
      exact .refl _
    | invalid cause left =>
      obtain ⟨other, hother, hcause⟩ := decode_append_of_invalid hlimit hdecode more
      rw [readAll_of_invalid hdecode, readAll_of_invalid hother]
      refine ⟨rfl, rfl, rfl, rfl, ?_, fun hrunning ↦ by cases hrunning⟩
      rcases hcause with rfl | rfl
      · exact .same _
      · exact .size other
    | frame frame rest =>
      have hmore := decode_append_of_frame hdecode more
      rcases hdispatch : dispatch frame trace.state with ⟨flow, version, state⟩
      cases flow with
      | close =>
        rw [readAll_of_close hdecode hdispatch, readAll_of_close hmore hdispatch]
        exact ⟨rfl, rfl, rfl, rfl, .same _, fun hrunning ↦ by cases hrunning⟩
      | «continue» =>
        rw [readAll_of_continue hdecode hdispatch, readAll_of_continue hmore hdispatch]
        have hlt := length_lt_of_decode_eq_frame hdecode
        exact ih rest.length (hlength ▸ hlt) { codec with version := version.getD codec.version }
          hlimit rest _ rfl

/-- A reader cannot tell into which pieces its stream was cut. -/
theorem agree_foldl_take (dispatch : Frame → σ → Flow × Option Version × σ) (codec : Codec)
    (hlimit : 1 ≤ codec.maxFrameBytes) (state : σ) (pieces : List Bytes) :
    Agree codec.maxFrameBytes (pieces.foldl (Reader.take dispatch) (.start codec state))
      ((Reader.start codec state).take dispatch pieces.flatten) := by
  induction pieces using List.reverseRecOn with
  | nil =>
    have hempty : codec.decode [] = .more [] := rfl
    have hstart : (Reader.start codec state).take dispatch [] = .start codec state :=
      readAll_of_more hempty
    rw [List.foldl_nil, List.flatten_nil, hstart]
    exact .refl _
  | append_singleton pieces piece ih =>
    rw [List.foldl_append, List.foldl_cons, List.foldl_nil, List.flatten_append,
      List.flatten_singleton]
    have hwhole := agree_take_append dispatch codec hlimit pieces.flatten piece { state }
    exact (ih.take dispatch piece).trans hwhole

/-- A frame cut inside of its command, and a line end cut inside of itself; the escape after them
is one only before the CONNECT switches the version. -/
theorem agree_foldl_take_connect :
    let dispatch : Frame → Nat → Flow × Option Version × Nat := fun frame count ↦
      (.continue, if frame.command.isConnectFamily then some .v10 else none, count + 1)
    let pieces := ["CONN", "ECT\n\n\x00\r", "\nSEND\nk:\\q\n\n\x00"].map Utf8.encode
    1 ≤ (⟨.v12, 64⟩ : Codec).maxFrameBytes ∧
      Agree 64 (pieces.foldl (Reader.take dispatch) (.start ⟨.v12, 64⟩ 0))
        ((Reader.start ⟨.v12, 64⟩ 0).take dispatch pieces.flatten) := by
  intro dispatch pieces
  exact ⟨by decide, agree_foldl_take dispatch ⟨.v12, 64⟩ (by decide) 0 pieces⟩

example :
    let dispatch : Frame → Unit → Flow × Option Version × Unit := fun _ _ ↦ (.continue, none, ())
    let pieces := ["HELLO", "\n"].map Utf8.encode
    (pieces.foldl (Reader.take dispatch) (.start ⟨.v12, 4⟩ ())).trace.failure = some (.tooLarge 4) ∧
      ((Reader.start ⟨.v12, 4⟩ ()).take dispatch pieces.flatten).trace.failure =
        some (.unknownCommand "HELLO") := by
  decide +kernel

end StompBroker.Codec
