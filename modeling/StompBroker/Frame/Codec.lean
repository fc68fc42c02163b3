import StompBroker.Frame.Basic
import StompBroker.Frame.Escape
import StompBroker.Text.Decimal
import StompBroker.Text.Split

/-!
# Frames as octets

`Codec.encode` writes a frame: its command line, a line per header, an empty line, the body and a
NUL. Headers are escaped when the version and the command ask for it (`escapes`).

`Codec.decode` works on a buffer that grows by what arrives. It skips the line ends between frames
and takes one complete frame off the front. `Decoded` has the three outcomes: a frame with the rest
of the buffer, a wish for more octets, or a `CodecError`; in the last two cases what is left is the
buffer without its leading line ends. A line ends with LF, and one CR before it is dropped. The body
has the length that a `content-length` header declares, and otherwise runs to the first NUL.

A frame may have `maxFrameBytes` octets. An unfinished frame is refused as soon as the octets that
it is known to need exceed that number; `Need` carries the number.
-/

set_option autoImplicit false

namespace StompBroker

/-- Why the octets of a buffer are not a frame. -/
inductive CodecError where
  | unknownCommand (name : String)
  | headerBeforeCommand
  | malformedHeader (line : String)
  | invalidEscape (cause : Header.EscapeError)
  | duplicateContentLength
  | invalidContentLength (value : String)
  | missingTerminator
  | tooLarge (limit : Nat)
  deriving DecidableEq, Repr

namespace CodecError

/-- The wording of the failure. -/
def message : CodecError → String
  | unknownCommand name => "unknown command '" ++ name ++ "'"
  | headerBeforeCommand => "header line before command line"
  | malformedHeader line => "malformed header line: " ++ line
  | invalidEscape cause => "invalid header escape: " ++ cause.message
  | duplicateContentLength => "duplicate content-length header"
  | invalidContentLength value => "invalid content-length '" ++ value ++ "'"
  | missingTerminator => "frame body not terminated by NUL"
  | tooLarge limit => "frame exceeds " ++ toString limit ++ " bytes"

/-- The name of the kind of failure. -/
def name : CodecError → String
  | unknownCommand _ => "UnknownCommand"
  | headerBeforeCommand => "HeaderBeforeCommand"
  | malformedHeader _ => "MalformedHeader"
  | invalidEscape _ => "InvalidEscape"
  | duplicateContentLength => "DuplicateContentLength"
  | invalidContentLength _ => "InvalidContentLength"
  | missingTerminator => "MissingTerminator"
  | tooLarge _ => "TooLarge"

end CodecError

/-- The rules that one side of a connection reads and writes by. -/
structure Codec where
  version : Version := .v12
  maxFrameBytes : Nat := 1048576
  deriving DecidableEq, Repr

/-- What a buffer holds at its front. -/
inductive Decoded where
  /-- A complete frame, and the octets after it. -/
  | frame (frame : Frame) (rest : Bytes)
  /-- No complete frame yet. -/
  | more (buffer : Bytes)
  /-- No frame can start like this. -/
  | invalid (cause : CodecError) (buffer : Bytes)
  deriving DecidableEq, Repr

namespace Codec

/-- Headers of this version and command are escaped. -/
def escapes (version : Version) (command : Command) : Bool :=
  version.escapesHeaders && !command.isConnectFamily

/-! ### Writing -/

/-- A header name or value as its frame writes it. -/
def writeText (escaped : Bool) (text : String) : Bytes :=
  Utf8.encode (if escaped then Header.escape text else text)

/-- A header as a line with its end. -/
def writeHeader (escaped : Bool) (header : String × String) : Bytes :=
  writeText escaped header.1 ++ 0x3A :: (writeText escaped header.2 ++ [0x0A])

/-- The octets of a frame. -/
def encode (version : Version) (frame : Frame) : Bytes :=
  Utf8.encode frame.command.text ++ 0x0A ::
    (frame.headers.flatMap (writeHeader (escapes version frame.command)) ++
      0x0A :: (frame.body ++ [0x00]))

/-! ### Reading -/

/-- The buffer without the line ends at its front. -/
def skipLineEnds : Bytes → Bytes
  | 0x0A :: rest => skipLineEnds rest
  | 0x0D :: 0x0A :: rest => skipLineEnds rest
  | buffer => buffer

/-- A line without one CR at its end. -/
def dropReturn (line : Bytes) : Bytes :=
  if line.getLast? = some 0x0D then line.dropLast else line

/-- The first line without its end, and what follows it. -/
def line? (buffer : Bytes) : Option (Bytes × Bytes) :=
  match buffer.dropWhile (· != 0x0A) with
  | [] => none
  | _ :: rest => some (dropReturn (buffer.takeWhile (· != 0x0A)), rest)

/-- What follows a line is shorter than what it was taken from. -/
theorem length_lt_of_line? {buffer line rest : Bytes} (found : line? buffer = some (line, rest)) :
    rest.length < buffer.length := by
  have parts := congrArg List.length
    (List.takeWhile_append_dropWhile (p := (· != (0x0A : UInt8))) (l := buffer))
  unfold line? at found
  split at found
  · simp at found
  · rename_i octet tail dropped
    simp only [Option.some.injEq, Prod.mk.injEq] at found
    rw [dropped, found.2] at parts
    simp only [List.length_append, List.length_cons] at parts
    omega

/-- A header name or value as its frame means it. -/
def readText (escaped : Bool) (text : String) : Except CodecError String :=
  if escaped then (Header.unescape text).mapError .invalidEscape else .ok text

/-- A header from its line. -/
def readHeader (escaped : Bool) (line : Bytes) : Except CodecError (String × String) :=
  match Utf8.decode? line with
  | none => .error (.malformedHeader "header is not UTF-8")
  | some text =>
    match Text.splitOnce? ':' text with
    | none => .error (.malformedHeader text)
    | some (name, value) => do
      let name ← readText escaped name
      let value ← readText escaped value
      return (name, value)

/-- The length that the value of a `content-length` header declares. -/
def readLength (maxFrameBytes : Nat) (value : String) : Except CodecError Nat :=
  match Text.natural? maxUnsigned64 (Text.trim value) with
  | .error _ => .error (.invalidContentLength value)
  | .ok length => if maxFrameBytes < length then .error (.tooLarge maxFrameBytes) else .ok length

/-- The declared length after one more header. -/
def declare (maxFrameBytes : Nat) (declared : Option Nat) (header : String × String) :
    Except CodecError (Option Nat) :=
  if header.1 != Header.contentLength then .ok declared
  else if declared.isSome then .error .duplicateContentLength
  else (readLength maxFrameBytes header.2).map some

/-- The headers of a frame and the octets from its body on. -/
structure HeaderBlock where
  headers : List (String × String)
  declared : Option Nat
  rest : Bytes

/-- Reads header lines up to the empty line, after the headers `read` (the last one first). The
answer is nothing while the empty line has not arrived. -/
def readHeaders (escaped : Bool) (maxFrameBytes : Nat) (read : List (String × String))
    (declared : Option Nat) (buffer : Bytes) : Except CodecError (Option HeaderBlock) :=
  match _found : line? buffer with
  | none => .ok none
  | some ([], rest) => .ok (some ⟨read.reverse, declared, rest⟩)
  | some (octet :: line, rest) =>
    match readHeader escaped (octet :: line) with
    | .error cause => .error cause
    | .ok header =>
      match declare maxFrameBytes declared header with
      | .error cause => .error cause
      | .ok declared => readHeaders escaped maxFrameBytes (header :: read) declared rest
  termination_by buffer.length
  decreasing_by exact length_lt_of_line? (by assumption)

/-- How much of a frame is there. -/
inductive Need where
  /-- The whole frame, without what follows it. -/
  | complete (frame : Frame) (rest : Bytes)
  /-- A frame that takes at least so many octets. -/
  | atLeast (octets : Nat)

/-- The command of the first line. -/
def readCommand (line : Bytes) : Except CodecError Command :=
  if line.contains 0x3A then .error .headerBeforeCommand
  else
    match Utf8.decode? line with
    | none => .error (.unknownCommand (Utf8.decodeLossy line))
    | some name =>
      match Command.ofText? name with
      | none => .error (.unknownCommand name)
      | some command => .ok command

/-- Takes the body of a frame whose headers are read; `total` octets are in the buffer. -/
def readBody (maxFrameBytes total : Nat) (command : Command) (block : HeaderBlock) :
    Except CodecError Need :=
  match block.declared with
  | some length =>
    let last := total - block.rest.length + length
    if maxUnsigned64 < last then .error (.tooLarge maxFrameBytes)
    else
      match block.rest.drop length with
      | [] => .ok (.atLeast (min (last + 1) maxUnsigned64))
      | octet :: rest =>
        if octet = 0x00 then
          .ok (.complete ⟨command, block.headers, block.rest.take length⟩ rest)
        else .error .missingTerminator
  | none =>
    match block.rest.dropWhile (· != 0x00) with
    | [] => .ok (.atLeast total)
    | _ :: rest =>
      .ok (.complete ⟨command, block.headers, block.rest.takeWhile (· != 0x00)⟩ rest)

/-- Reads one frame from a buffer that starts with its command line. -/
def readFrame (codec : Codec) (buffer : Bytes) : Except CodecError Need :=
  match line? buffer with
  | none => .ok (.atLeast buffer.length)
  | some (line, afterCommand) => do
    let command ← readCommand line
    let escaped := escapes codec.version command
    match ← readHeaders escaped codec.maxFrameBytes [] none afterCommand with
    | none => return .atLeast buffer.length
    | some block => readBody codec.maxFrameBytes buffer.length command block

/-- Takes the first frame off a buffer. -/
def decode (codec : Codec) (buffer : Bytes) : Decoded :=
  let buffer := skipLineEnds buffer
  if buffer.isEmpty then .more buffer
  else
    match readFrame codec buffer with
    | .error cause => .invalid cause buffer
    | .ok (.atLeast octets) =>
      if codec.maxFrameBytes < octets then .invalid (.tooLarge codec.maxFrameBytes) buffer
      else .more buffer
    | .ok (.complete frame rest) =>
      if codec.maxFrameBytes < buffer.length - rest.length then
        .invalid (.tooLarge codec.maxFrameBytes) buffer
      else .frame frame rest

end Codec

end StompBroker
