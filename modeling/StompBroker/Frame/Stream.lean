import StompBroker.Frame.Codec

/-!
# Frames from a stream

The octets of a connection arrive in pieces that need not end where frames end. `Codec.drain` takes
all whole frames from what has arrived and hands them, one after the other, to a function that
changes some state, may switch the version, and may end the connection. What is left over waits for
the next piece.
-/

set_option autoImplicit false

namespace StompBroker

/-- What the reader of a connection does after a frame. -/
inductive Flow where
  | continue
  | close
  deriving DecidableEq, Repr

/-- The name of what the reader does. -/
def Flow.name : Flow → String
  | .continue => "Continue"
  | .close => "Close"

namespace Codec

variable {σ : Type}

/-- Takes frames from a buffer until it holds no whole frame, one of them ends the connection, or
the buffer does not hold a frame at all; `refuse` is told the reason of that. -/
def drain (dispatch : Frame → σ → Flow × Option Version × σ) (refuse : CodecError → σ → σ)
    (codec : Codec) (buffer : Bytes) (state : σ) : Flow × Codec × Bytes × σ :=
  match codec.decode buffer with
  | .more left => (.continue, codec, left, state)
  | .invalid cause left => (.close, codec, left, refuse cause state)
  | .frame frame rest =>
    match dispatch frame state with
    | (.close, _, state) => (.close, codec, rest, state)
    | (.continue, version, state) =>
      let codec := { codec with version := version.getD codec.version }
      if rest.length < buffer.length then drain dispatch refuse codec rest state
      else (.continue, codec, rest, state)
termination_by buffer.length

end Codec

end StompBroker
