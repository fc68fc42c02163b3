import StompBroker.Proofs.Frame.Grammar

/-!
# Frames written and read back

`Codec.encode` writes a frame of the grammar when its body is delimited and, where nothing is
escaped, none of its headers collides with the separators (`PlainHeader`). An escaped header never
does (`headerLines_encode`). Together with the size limit this is `Encodable`, and it decides
whether the decoder finds the frame again in front of whatever follows (`decode_encode_append_iff`).

Frames written one after the other are taken off one by one (`takeFrames_flatMap_encode`).
-/

set_option autoImplicit false

namespace StompBroker.Codec

/-- A header that can stand on its line as it is. -/
structure PlainHeader (header : String × String) : Prop where
  name_colon : ':' ∉ header.1.toList
  name_newline : '\n' ∉ header.1.toList
  value_newline : '\n' ∉ header.2.toList
  value_end : header.2.toList.getLast? ≠ some '\r'

/-- A frame that the codec can write so that it reads the same frame again. -/
structure Encodable (codec : Codec) (frame : Frame) : Prop where
  body : Delimited codec.maxFrameBytes frame
  size : (encode codec.version frame).length ≤ codec.maxFrameBytes
  plain : escapes codec.version frame.command = false → ∀ header ∈ frame.headers, PlainHeader header

/-! ### Lines of the written form -/

/-- The octets of a text are a line of their own unless the text holds or ends with a separator. -/
theorem line_encode {text : String} (hnewline : '\n' ∉ text.toList)
    (hend : text.toList.getLast? ≠ some '\r') : Line (Utf8.encode text) (Utf8.encode text) :=
  .bare (fun hmem ↦ hnewline (Utf8.feed_mem_encode_iff.mp hmem))
    (fun hlast ↦ hend (Utf8.getLast?_encode_eq_return_iff.mp hlast))

theorem line_command (command : Command) :
    Line (Utf8.encode command.text) (Utf8.encode command.text) :=
  line_encode (Command.not_mem_text (by decide) command)
    (fun hlast ↦ Command.not_mem_text (by decide) command (List.mem_of_getLast? hlast))

/-- A written frame starts with its command, so there are no line ends to skip. -/
theorem skipLineEnds_encode_append (version : Version) (frame : Frame) (rest : Bytes) :
    skipLineEnds (encode version frame ++ rest) = encode version frame ++ rest := by
  unfold encode
  rcases hcommand : Utf8.encode frame.command.text with _ | ⟨octet, tail⟩
  · have hempty : frame.command.text = "" := Utf8.encode_injective (by simpa using hcommand)
    cases hverb : frame.command <;> rw [hverb] at hempty <;> simp [Command.text] at hempty
  · have hmem : octet ∈ Utf8.encode frame.command.text := by
      rw [hcommand]
      exact List.mem_cons_self
    refine skipLineEnds_cons_of_ne ?_ ?_
    · rintro rfl
      exact Command.not_mem_text (by decide) frame.command (Utf8.feed_mem_encode_iff.mp hmem)
    · rintro rfl
      exact Command.not_mem_text (by decide) frame.command (Utf8.return_mem_encode_iff.mp hmem)

/-! ### Writing headers -/

/-- A header name or value as it is written. -/
def writtenText (escaped : Bool) (text : String) : String :=
  if escaped then Header.escape text else text

/-- A header as its line says it. -/
def writtenLine (escaped : Bool) (header : String × String) : String :=
  writtenText escaped header.1 ++ ":" ++ writtenText escaped header.2

theorem writeHeader_eq (escaped : Bool) (header : String × String) :
    writeHeader escaped header = Utf8.encode (writtenLine escaped header) ++ [0x0A] := by
  have hcolon : Utf8.encode ":" = [0x3A] := by decide
  simp [writeHeader, writeText, writtenLine, writtenText, hcolon]

theorem denotes_writtenText (escaped : Bool) (text : String) :
    Denotes escaped (writtenText escaped text) text := by
  unfold Denotes writtenText
  cases escaped with
  | false => simp
  | true =>
    simp only [if_true, Header.escape, String.toList_ofList]
    exact Header.escaped_escapeChars _

/-- An escaped text holds no separator. -/
theorem not_mem_writtenText {separator : Char} (h : separator ∈ Header.separators)
    (text : String) : separator ∉ (writtenText true text).toList := by
  simp only [writtenText, if_true, Header.escape, String.toList_ofList]
  exact Header.not_mem_escapeChars h _

/-- What a line must be like so that its header is read from it. -/
theorem plainHeader_writtenText {escaped : Bool} {header : String × String}
    (h : escaped = false → PlainHeader header) :
    PlainHeader (writtenText escaped header.1, writtenText escaped header.2) := by
  cases escaped with
  | false => exact h rfl
  | true =>
    refine ⟨?_, ?_, ?_, fun hlast ↦ ?_⟩
    · exact not_mem_writtenText (by decide) _
    · exact not_mem_writtenText (by decide) _
    · exact not_mem_writtenText (by decide) _
    · exact @not_mem_writtenText '\r' (by decide) _ (List.mem_of_getLast? hlast)

/-- A header is written as the line that the grammar asks for. -/
theorem headerLines_encode {escaped : Bool} {headers : List (String × String)}
    (h : escaped = false → ∀ header ∈ headers, PlainHeader header) :
    HeaderLines escaped (headers.flatMap (writeHeader escaped)) headers := by
  induction headers with
  | nil => exact .nil
  | cons header headers ih =>
    have hplain : PlainHeader (writtenText escaped header.1, writtenText escaped header.2) :=
      plainHeader_writtenText fun hescaped ↦ h hescaped header List.mem_cons_self
    have hline : Line (Utf8.encode (writtenLine escaped header))
        (Utf8.encode (writtenLine escaped header)) := by
      refine line_encode ?_ ?_
      · simp only [writtenLine, String.toList_append, List.mem_append, not_or]
        exact ⟨⟨hplain.name_newline, by decide⟩, hplain.value_newline⟩
      · simp only [writtenLine, String.toList_append, List.getLast?_append]
        cases hlast : (writtenText escaped header.2).toList.getLast? with
        | none => simp
        | some c =>
          rw [Option.some_or]
          exact hlast ▸ hplain.value_end
    have hheader : HeaderLine escaped (Utf8.encode (writtenLine escaped header)) header :=
      ⟨_, _, rfl, hplain.name_colon, denotes_writtenText _ _, denotes_writtenText _ _⟩
    rw [List.flatMap_cons, writeHeader_eq, List.append_assoc]
    refine .cons hline hheader (ih fun hescaped other hmem ↦ ?_)
    exact h hescaped other (List.mem_cons_of_mem _ hmem)

/-- A block of unescaped lines is at least as long as its headers written out, and only longer if
one of its lines ends with CR. -/
theorem plainHeader_of_headerLines {block : Bytes} {headers : List (String × String)}
    (h : HeaderLines false block headers) :
    (headers.flatMap (writeHeader false)).length ≤ block.length ∧
      (block.length ≤ (headers.flatMap (writeHeader false)).length →
        ∀ header ∈ headers, PlainHeader header) := by
  induction h with
  | nil => simp
  | @cons line content block header headers hline hheader _ ih =>
    obtain ⟨name, value, rfl, hcolon, hname, hvalue⟩ := hheader
    obtain rfl : name = header.1 := hname
    obtain rfl : value = header.2 := hvalue
    have hwritten : writeHeader false header =
        Utf8.encode (header.1 ++ ":" ++ header.2) ++ [0x0A] := writeHeader_eq false header
    have hcontent := hline.length_le
    rw [List.flatMap_cons, hwritten]
    simp only [List.length_append, List.length_cons, List.length_nil] at *
    refine ⟨by omega, fun hle ↦ ?_⟩
    have hnewline : '\n' ∉ (header.1 ++ ":" ++ header.2).toList := fun hmem ↦
      hline.not_mem_content (Utf8.feed_mem_encode_iff.mpr hmem)
    have hend : (header.1 ++ ":" ++ header.2).toList.getLast? ≠ some '\r' := fun hlast ↦
      hline.getLast?_ne (by omega)
        (Utf8.getLast?_encode_eq_return_iff.mpr hlast)
    simp only [String.toList_append, List.mem_append, not_or] at hnewline
    simp only [String.toList_append, List.getLast?_append] at hend
    intro other hmem
    rcases List.mem_cons.mp hmem with rfl | hmem
    · refine ⟨hcolon, hnewline.1.1, hnewline.2, fun hlast ↦ hend ?_⟩
      rw [hlast, Option.some_or]
    · exact ih.2 (by omega) other hmem

/-! ### One frame -/

theorem spelled_encode_append {codec : Codec} {frame : Frame}
    (hbody : Delimited codec.maxFrameBytes frame)
    (hplain : escapes codec.version frame.command = false →
      ∀ header ∈ frame.headers, PlainHeader header) (rest : Bytes) :
    Spelled codec (encode codec.version frame ++ rest) frame rest := by
  refine ⟨_, _, [], ⟨line_command frame.command, headerLines_encode hplain, ?_, hbody⟩, ?_⟩
  · exact .bare (by simp) (by simp)
  · simp [encode]

/-- A frame is found again in front of whatever follows exactly if it is encodable. -/
theorem decode_encode_append_iff {codec : Codec} (h : codec.maxFrameBytes ≤ maxUnsigned64)
    {frame : Frame} {rest : Bytes} :
    codec.decode (encode codec.version frame ++ rest) = .frame frame rest ↔
      Encodable codec frame := by
  rw [decode_eq_frame_iff_of_le h, skipLineEnds_encode_append, List.length_append,
    Nat.add_sub_cancel]
  constructor
  · rintro ⟨⟨first, block, blank, hspelling, hsplit⟩, hsize⟩
    refine ⟨hspelling.body, hsize, fun hescaped ↦ ?_⟩
    have hheaders := hspelling.headers
    have htotal := congrArg List.length hsplit
    have hfirst := hspelling.command.length_le
    simp only [encode, hescaped, List.length_append, List.length_cons, List.length_nil] at htotal
    rw [hescaped] at hheaders
    exact (plainHeader_of_headerLines hheaders).2 (by omega)
  · rintro ⟨hbody, hsize, hplain⟩
    exact ⟨spelled_encode_append hbody hplain rest, hsize⟩

/-! ### Many frames -/

/-- Takes so many frames off a buffer. -/
def takeFrames (codec : Codec) : Nat → Bytes → Option (List Frame × Bytes)
  | 0, buffer => some ([], buffer)
  | count + 1, buffer =>
    match codec.decode buffer with
    | .frame frame rest => (takeFrames codec count rest).map fun taken ↦ (frame :: taken.1, taken.2)
    | .more _ | .invalid _ _ => none

/-- Frames written into one buffer are taken off again in their order, and nothing else is. -/
theorem takeFrames_flatMap_encode (version : Version) (max : UInt64) (frames : List Frame)
    (rest : Bytes) (h : ∀ frame ∈ frames, Encodable ⟨version, max.toNat⟩ frame) :
    takeFrames ⟨version, max.toNat⟩ frames.length (frames.flatMap (encode version) ++ rest) =
      some (frames, rest) := by
  induction frames with
  | nil => rfl
  | cons frame frames ih =>
    have hframe : decode ⟨version, max.toNat⟩
        (encode version frame ++ (frames.flatMap (encode version) ++ rest)) =
          .frame frame (frames.flatMap (encode version) ++ rest) :=
      (decode_encode_append_iff (toNat_le_maxUnsigned64 max)).mpr (h frame List.mem_cons_self)
    rw [List.length_cons, List.flatMap_cons, List.append_assoc, takeFrames, hframe]
    simp only
    rw [ih fun other hmem ↦ h other (List.mem_cons_of_mem _ hmem)]
    rfl

/-- A header that holds every separator and a body that holds a NUL, one frame after the other. -/
theorem takeFrames_separators_nul :
    let frames : List Frame :=
      [⟨.send, [("k:ey", "v\nal\r\\ue")], [0x68, 0x69]⟩,
        ⟨.message, [(Header.contentLength, " 3 ")], [0x01, 0x00, 0x02]⟩]
    (∀ frame ∈ frames, Encodable ⟨.v11, (64 : UInt64).toNat⟩ frame) ∧
      takeFrames ⟨.v11, (64 : UInt64).toNat⟩ frames.length
        (frames.flatMap (encode .v11) ++ [0x0A]) = some (frames, [0x0A]) := by
  intro frames
  have hencodable : ∀ frame ∈ frames, Encodable ⟨.v11, (64 : UInt64).toNat⟩ frame := by
    intro frame hmem
    simp only [frames, List.mem_cons, List.not_mem_nil, or_false] at hmem
    rcases hmem with rfl | rfl
    · refine ⟨.terminated (by decide) (by decide), by decide +kernel, fun hescaped ↦ ?_⟩
      cases hescaped
    · have hlengths : declaredLengths [(Header.contentLength, " 3 ")] = [" 3 "] := by decide
      refine ⟨.counted hlengths ?_ (by decide), by decide +kernel, fun hescaped ↦ ?_⟩
      · decide +kernel
      · cases hescaped
  exact ⟨hencodable, takeFrames_flatMap_encode .v11 64 frames [0x0A] hencodable⟩

end StompBroker.Codec
