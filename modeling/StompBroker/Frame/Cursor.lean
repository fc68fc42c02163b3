import StompBroker.Frame.Codec

/-!
# Frames by position

A buffer of octets is one block of memory, and a decoder that reads it works with positions: it
looks for the next LF from one of them, cuts out what lies between two, and adds to them. Each of
these can go wrong. A `Fault` is a position outside of the buffer, or a sum or difference that no
64-bit number holds.

`Codec.scan` reads a frame in this way. It takes the command line and the header lines by `lineAt`
and the body between `bodyStart` and the position of its NUL, and cuts the frame off the front of
the buffer at the end. A fault is an outcome of its own, next to what `Codec.decode` answers.
-/

set_option autoImplicit false

namespace StompBroker

/-- What goes wrong when octets are read by position. -/
inductive Fault where
  | outOfRange
  | overflow
  deriving DecidableEq, Repr

namespace Cursor

/-- The sum of two positions. -/
def add (first second : Nat) : Except Fault Nat :=
  if maxUnsigned64 < first + second then .error .overflow else .ok (first + second)

/-- The distance from one position to a later one. -/
def distance (start stop : Nat) : Except Fault Nat :=
  if stop < start then .error .overflow else .ok (stop - start)

/-- The octet at a position. -/
def octet (octets : Bytes) (position : Nat) : Except Fault UInt8 :=
  match octets[position]? with
  | none => .error .outOfRange
  | some octet => .ok octet

/-- The octets from a position on. -/
def suffix (octets : Bytes) (start : Nat) : Except Fault Bytes :=
  if octets.length < start then .error .outOfRange else .ok (octets.drop start)

/-- The octets between two positions. -/
def slice (octets : Bytes) (start stop : Nat) : Except Fault Bytes :=
  if stop < start ∨ octets.length < stop then .error .outOfRange
  else .ok ((octets.take stop).drop start)

/-- The octets before a position and those from it on. -/
def split (octets : Bytes) (position : Nat) : Except Fault (Bytes × Bytes) :=
  if octets.length < position then .error .outOfRange else .ok (octets.splitAt position)

theorem bind_eq_ok_iff {α β : Type} {first : Except Fault α} {next : α → Except Fault β}
    {result : β} :
    first >>= next = .ok result ↔ ∃ found, first = .ok found ∧ next found = .ok result := by
  cases first with
  | error fault => simp [bind, Except.bind]
  | ok found => simp [bind, Except.bind]

theorem add_eq_ok_iff {first second sum : Nat} :
    add first second = .ok sum ↔ first + second ≤ maxUnsigned64 ∧ sum = first + second := by
  unfold add
  split
  · simp only [reduceCtorEq, false_iff, not_and]
    omega
  · simp only [Except.ok.injEq]
    omega

theorem suffix_eq_ok_iff {octets rest : Bytes} {start : Nat} :
    suffix octets start = .ok rest ↔ start ≤ octets.length ∧ rest = octets.drop start := by
  unfold suffix
  split
  · simp only [reduceCtorEq, false_iff, not_and]
    omega
  · simp only [Except.ok.injEq, eq_comm (a := rest), iff_and_self]
    omega

/-- Going on behind octets that were found leaves less to read. -/
theorem lt_of_suffix_of_add {octets rest : Bytes} {octet : UInt8} {start count next : Nat}
    (hsuffix : suffix octets start = .ok (octet :: rest)) (hcount : 0 < count)
    (hadd : add start count = .ok next) : octets.length - next < octets.length - start := by
  have hlength := congrArg List.length (suffix_eq_ok_iff.mp hsuffix).2
  have hnext := (add_eq_ok_iff.mp hadd).2
  rw [List.length_cons, List.length_drop] at hlength
  omega

end Cursor

namespace Codec

/-! ### Lines -/

/-- The position behind the line ends that start at `skip`. -/
def skipFrom (buffer : Bytes) (skip : Nat) : Except Fault Nat :=
  match _octets : Cursor.suffix buffer skip with
  | .error fault => .error fault
  | .ok (0x0A :: _) =>
    match _next : Cursor.add skip 1 with
    | .error fault => .error fault
    | .ok next => skipFrom buffer next
  | .ok (0x0D :: 0x0A :: _) =>
    match _next : Cursor.add skip 2 with
    | .error fault => .error fault
    | .ok next => skipFrom buffer next
  | .ok _ => .ok skip
  termination_by buffer.length - skip
  decreasing_by all_goals exact Cursor.lt_of_suffix_of_add _octets (by decide) _next

/-- The line that starts at a position, without its end, and the position of the next one. -/
def lineAt (buffer : Bytes) (start : Nat) : Except Fault (Option (Bytes × Nat)) := do
  match (← Cursor.suffix buffer start).findIdx? (· == 0x0A) with
  | none => return none
  | some offset =>
    let feed ← Cursor.add offset start
    let line ← Cursor.slice buffer start feed
    let next ← Cursor.add feed 1
    return some (dropReturn line, next)

/-- The next line lies behind the one that was found. -/
theorem lt_of_lineAt {buffer line : Bytes} {start next : Nat}
    (h : lineAt buffer start = .ok (some (line, next))) :
    buffer.length - next < buffer.length - start := by
  obtain ⟨rest, hsuffix, h⟩ := Cursor.bind_eq_ok_iff.mp h
  obtain ⟨-, rfl⟩ := Cursor.suffix_eq_ok_iff.mp hsuffix
  split at h
  · cases h
  · rename_i offset hoffset
    obtain ⟨feed, hfeed, h⟩ := Cursor.bind_eq_ok_iff.mp h
    obtain ⟨content, -, h⟩ := Cursor.bind_eq_ok_iff.mp h
    obtain ⟨after, hafter, h⟩ := Cursor.bind_eq_ok_iff.mp h
    cases h
    have hlt := (List.findIdx?_eq_some_iff_findIdx_eq.mp hoffset).1
    have hposition := (Cursor.add_eq_ok_iff.mp hfeed).2
    have hnext := (Cursor.add_eq_ok_iff.mp hafter).2
    rw [List.length_drop] at hlt
    omega

/-- The headers of a frame and the position of its body. -/
structure HeaderSpan where
  headers : List (String × String)
  declared : Option Nat
  bodyStart : Nat

/-- Reads header lines from a position up to the empty line, as `readHeaders` does. -/
def scanHeaders (escaped : Bool) (maxFrameBytes : Nat) (buffer : Bytes)
    (read : List (String × String)) (declared : Option Nat) (start : Nat) :
    Except Fault (Except CodecError (Option HeaderSpan)) :=
  match _line : lineAt buffer start with
  | .error fault => .error fault
  | .ok none => .ok (.ok none)
  | .ok (some ([], next)) => .ok (.ok (some ⟨read.reverse, declared, next⟩))
  | .ok (some (octet :: line, next)) =>
    match readHeader escaped (octet :: line) with
    | .error cause => .ok (.error cause)
    | .ok header =>
      match declare maxFrameBytes declared header with
      | .error cause => .ok (.error cause)
      | .ok declared => scanHeaders escaped maxFrameBytes buffer (header :: read) declared next
  termination_by buffer.length - start
  decreasing_by exact lt_of_lineAt _line

/-! ### Frames -/

/-- The answer to an unfinished frame that takes at least so many octets. -/
def wait (codec : Codec) (buffer : Bytes) (octets : Nat) : Decoded :=
  if codec.maxFrameBytes < octets then .invalid (.tooLarge codec.maxFrameBytes) buffer
  else .more buffer

/-- Cuts a frame off a buffer, with its body between two positions. -/
def cut (codec : Codec) (buffer : Bytes) (command : Command) (span : HeaderSpan) (bodyEnd : Nat) :
    Except Fault Decoded := do
  let stop ← Cursor.add bodyEnd 1
  if codec.maxFrameBytes < stop then
    return .invalid (.tooLarge codec.maxFrameBytes) buffer
  let (taken, rest) ← Cursor.split buffer stop
  let (_, after) ← Cursor.split taken span.bodyStart
  let length ← Cursor.distance span.bodyStart bodyEnd
  let body ← Cursor.slice after 0 length
  return .frame ⟨command, span.headers, body⟩ rest

/-- Finds the end of a body, and cuts off its frame. -/
def scanBody (codec : Codec) (buffer : Bytes) (command : Command) (span : HeaderSpan) :
    Except Fault Decoded := do
  match span.declared with
  | some length =>
    -- the only sum with a number that the client chose, so its overflow is an answer and no fault
    match Cursor.add span.bodyStart length with
    | .error _ => return .invalid (.tooLarge codec.maxFrameBytes) buffer
    | .ok bodyEnd =>
      if buffer.length ≤ bodyEnd then
        return wait codec buffer (min (bodyEnd + 1) maxUnsigned64)
      if (← Cursor.octet buffer bodyEnd) != 0x00 then return .invalid .missingTerminator buffer
      cut codec buffer command span bodyEnd
  | none =>
    match (← Cursor.suffix buffer span.bodyStart).findIdx? (· == 0x00) with
    | none => return wait codec buffer buffer.length
    | some offset => cut codec buffer command span (← Cursor.add span.bodyStart offset)

/-- Reads one frame from a buffer that starts with its command line. -/
def scanFrame (codec : Codec) (buffer : Bytes) : Except Fault Decoded := do
  match ← lineAt buffer 0 with
  | none => return wait codec buffer buffer.length
  | some (line, next) =>
    match readCommand line with
    | .error cause => return .invalid cause buffer
    | .ok command =>
      let escaped := escapes codec.version command
      match ← scanHeaders escaped codec.maxFrameBytes buffer [] none next with
      | .error cause => return .invalid cause buffer
      | .ok none => return wait codec buffer buffer.length
      | .ok (some span) => scanBody codec buffer command span

/-- Takes the first frame off a buffer, by positions. -/
def scan (codec : Codec) (buffer : Bytes) : Except Fault Decoded := do
  let skip ← skipFrom buffer 0
  let (_, buffer) ← Cursor.split buffer skip
  if buffer.isEmpty then return .more buffer
  scanFrame codec buffer

end Codec

end StompBroker
