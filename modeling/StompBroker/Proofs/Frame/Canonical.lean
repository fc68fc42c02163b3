import StompBroker.Proofs.Frame.Server

/-!
# Frames read and written back

A frame has many spellings, and `Codec.encode` writes one of them. The lines in front of a body are
the `frontLines`, which hold the command and the headers, and the `blankLine?` that ends them. What
was read is written back octet by octet exactly if these lines are a `KeptFront`: no CR stands
before a LF, and an escaped header line holds no CR at all and a single colon
(`encode_eq_iff_kept`).

The frame itself survives being written and read once more, whatever its spelling was, unless a
value that is not escaped ends in CR: that CR is then taken for a part of the line end. For this the
written frame has to respect the largest length, and it does, since no spelling is shorter than half
of the written form (`length_encode_le`). `decode_written_back` puts both together.
-/

set_option autoImplicit false

namespace StompBroker

/-! ### How long an escaped text becomes -/

namespace Header

/-- A character is written in twice its octets at most. -/
theorem length_escapeChar_le (c : Char) :
    ((escapeChar c).flatMap String.utf8EncodeChar).length ≤
      2 * (String.utf8EncodeChar c).length := by
  unfold escapeChar
  split
  · decide
  · decide
  · decide
  · decide
  · rw [List.flatMap_singleton]
    omega

/-- What was read from an escaped text is written in twice its octets at most. -/
theorem length_escapeChars_le {written meant : List Char} (h : Escaped written meant) :
    ((escapeChars meant).flatMap String.utf8EncodeChar).length ≤
      2 * (written.flatMap String.utf8EncodeChar).length := by
  induction h with
  | nil => simp [escapeChars]
  | @plain c written meant _ _ ih =>
    have hfront := length_escapeChar_le c
    simp only [escapeChars, List.flatMap_cons, List.flatMap_append, List.length_append] at ih ⊢
    omega
  | @pair letter c written meant hpair _ ih =>
    have hfront : ((escapeChar c).flatMap String.utf8EncodeChar).length = 2 := by
      cases hpair <;> rfl
    have hbackslash : (String.utf8EncodeChar '\\').length = 1 := rfl
    simp only [escapeChars, List.flatMap_cons, List.flatMap_append, List.length_append] at ih ⊢
    omega

end Header

namespace Codec

/-! ### The lines in front of a body -/

/-- The command line and the header lines of a frame as they stand on the wire, without LF. -/
def frontLines (wire : Bytes) : List Bytes :=
  (wire.splitOn 0x0A).takeWhile fun line ↦ dropReturn line != []

/-- The line that ends the headers. -/
def blankLine? (wire : Bytes) : Option Bytes :=
  (wire.splitOn 0x0A).find? fun line ↦ dropReturn line == []

section Lines

variable {line content : Bytes}

theorem frontLines_of_line (h : Line line content) (hcontent : content ≠ []) (rest : Bytes) :
    frontLines (line ++ 0x0A :: rest) = line :: frontLines rest := by
  rw [frontLines, List.splitOn_append_cons_self_of_not_mem h.not_mem,
    List.takeWhile_cons_of_pos (by simpa [h.dropReturn_eq] using hcontent), frontLines]

theorem frontLines_of_blank (h : Line line []) (rest : Bytes) :
    frontLines (line ++ 0x0A :: rest) = [] := by
  rw [frontLines, List.splitOn_append_cons_self_of_not_mem h.not_mem,
    List.takeWhile_cons_of_neg (by simp [h.dropReturn_eq])]

theorem blankLine?_of_line (h : Line line content) (hcontent : content ≠ []) (rest : Bytes) :
    blankLine? (line ++ 0x0A :: rest) = blankLine? rest := by
  rw [blankLine?, List.splitOn_append_cons_self_of_not_mem h.not_mem,
    List.find?_cons_of_neg (by simpa [h.dropReturn_eq] using hcontent), blankLine?]

theorem blankLine?_of_blank (h : Line line []) (rest : Bytes) :
    blankLine? (line ++ 0x0A :: rest) = some line := by
  rw [blankLine?, List.splitOn_append_cons_self_of_not_mem h.not_mem,
    List.find?_cons_of_pos (by simp [h.dropReturn_eq])]

/-- Where the first LF stands is known from the octets alone. -/
theorem append_feed_inj {first second rest other : Bytes} (hfirst : 0x0A ∉ first)
    (hsecond : 0x0A ∉ second) :
    first ++ 0x0A :: rest = second ++ 0x0A :: other ↔ first = second ∧ rest = other := by
  constructor
  · intro h
    have hlines := congrArg (List.splitOn 0x0A) h
    rw [List.splitOn_append_cons_self_of_not_mem hfirst,
      List.splitOn_append_cons_self_of_not_mem hsecond] at hlines
    obtain rfl := (List.cons.inj hlines).1
    exact ⟨rfl, (List.cons.inj (List.append_cancel_left h)).2⟩
  · rintro ⟨rfl, rfl⟩
    rfl

/-- A line is its own content unless a CR ends it. -/
theorem Line.content_eq_iff (h : Line line content) :
    content = line ↔ line.getLast? ≠ some 0x0D := by
  cases h with
  | bare _ hlast => exact ⟨fun _ ↦ hlast, fun _ ↦ rfl⟩
  | returned _ => simp

theorem Line.content_eq_of_not_mem (h : Line line content) (hreturn : 0x0D ∉ line) :
    content = line :=
  h.content_eq_iff.mpr fun hlast ↦ hreturn (List.mem_of_getLast? hlast)

end Lines

/-! ### Lines that are written as they were read -/

/-- A header line that is written as it was read. -/
def Kept (escaped : Bool) (line : Bytes) : Prop :=
  if escaped then 0x0D ∉ line ∧ line.count 0x3A = 1 else line.getLast? ≠ some 0x0D

theorem encode_writtenLine (escaped : Bool) (header : String × String) :
    Utf8.encode (writtenLine escaped header) =
      Utf8.encode (writtenText escaped header.1) ++
        0x3A :: Utf8.encode (writtenText escaped header.2) := by
  have hcolon : Utf8.encode ":" = [0x3A] := by decide
  simp [writtenLine, hcolon]

/-- A text holds no separator exactly if its octets hold none. -/
theorem forall_separators_iff {text : String} :
    (∀ separator ∈ Header.separators, separator ∉ text.toList) ↔
      0x0A ∉ Utf8.encode text ∧ 0x0D ∉ Utf8.encode text ∧ 0x3A ∉ Utf8.encode text := by
  rw [Utf8.feed_mem_encode_iff, Utf8.return_mem_encode_iff, Utf8.colon_mem_encode_iff]
  simp [Header.separators]

theorem writtenText_eq_iff {written meant : String} (h : Denotes true written meant) :
    writtenText true meant = written ↔
      ∀ separator ∈ Header.separators, separator ∉ written.toList := by
  have hescaped : Header.Escaped written.toList meant.toList := h
  rw [← Header.escapeChars_eq_iff hescaped, ← String.toList_inj, writtenText, if_pos rfl,
    Header.escape, String.toList_ofList]

theorem forall_separators_writtenText (text : String) :
    ∀ separator ∈ Header.separators, separator ∉ (writtenText true text).toList :=
  fun _ hseparator ↦ not_mem_writtenText hseparator text

section HeaderLine

variable {line content : Bytes} {header : String × String}

/-- What was read from an escaped line is written as that line exactly if the line is kept. -/
theorem encode_writtenLine_eq_iff_of_escaped (hline : Line line content)
    (hheader : HeaderLine true content header) :
    Utf8.encode (writtenLine true header) = line ↔ Kept true line := by
  obtain ⟨name, value, rfl, hcolon, hname, hvalue⟩ := hheader
  have hkept : Kept true line ↔ 0x0D ∉ line ∧ line.count 0x3A = 1 := Iff.rfl
  rw [hkept]
  constructor
  · rintro rfl
    obtain ⟨-, hnameReturn, hnameColon⟩ :=
      forall_separators_iff.mp (forall_separators_writtenText header.1)
    obtain ⟨-, hvalueReturn, hvalueColon⟩ :=
      forall_separators_iff.mp (forall_separators_writtenText header.2)
    rw [encode_writtenLine, List.count_append, List.count_cons_self,
      List.count_eq_zero_of_not_mem hnameColon, List.count_eq_zero_of_not_mem hvalueColon]
    refine ⟨?_, rfl⟩
    simp only [List.mem_append, List.mem_cons, not_or]
    exact ⟨hnameReturn, by decide, hvalueReturn⟩
  · rintro ⟨hreturn, hcount⟩
    have hwritten : Utf8.encode (name ++ ":" ++ value) =
        Utf8.encode name ++ 0x3A :: Utf8.encode value := by
      have hcolon : Utf8.encode ":" = [0x3A] := by decide
      simp [hcolon]
    obtain rfl := hline.content_eq_of_not_mem hreturn
    have hfeed := hline.not_mem
    rw [hwritten] at hfeed hreturn hcount ⊢
    simp only [List.mem_append, List.mem_cons, not_or] at hfeed hreturn
    -- the colon between name and value is the only one
    have hvalueColon : 0x3A ∉ Utf8.encode value := by
      rw [List.count_append, List.count_cons_self] at hcount
      exact List.count_eq_zero.mp (by omega)
    have hnameColon : 0x3A ∉ Utf8.encode name := fun hmem ↦
      hcolon (Utf8.colon_mem_encode_iff.mp hmem)
    rw [encode_writtenLine,
      (writtenText_eq_iff hname).mpr (forall_separators_iff.mpr ⟨hfeed.1, hreturn.1, hnameColon⟩),
      (writtenText_eq_iff hvalue).mpr
        (forall_separators_iff.mpr ⟨hfeed.2.2, hreturn.2.2, hvalueColon⟩)]

/-- What was read from a header line is written as that line exactly if the line is kept. -/
theorem encode_writtenLine_eq_iff {escaped : Bool} (hline : Line line content)
    (hheader : HeaderLine escaped content header) :
    Utf8.encode (writtenLine escaped header) = line ↔ Kept escaped line := by
  cases escaped with
  | true => exact encode_writtenLine_eq_iff_of_escaped hline hheader
  | false =>
    obtain ⟨name, value, rfl, -, hname, hvalue⟩ := hheader
    obtain rfl : name = header.1 := hname
    obtain rfl : value = header.2 := hvalue
    exact hline.content_eq_iff

/-- A header that was read is written without a LF. -/
theorem feed_not_mem_writtenLine {escaped : Bool} (hline : Line line content)
    (hheader : HeaderLine escaped content header) :
    0x0A ∉ Utf8.encode (writtenLine escaped header) := by
  cases escaped with
  | true =>
    obtain ⟨hname, -, -⟩ := forall_separators_iff.mp (forall_separators_writtenText header.1)
    obtain ⟨hvalue, -, -⟩ := forall_separators_iff.mp (forall_separators_writtenText header.2)
    rw [encode_writtenLine]
    simp only [List.mem_append, List.mem_cons, not_or]
    exact ⟨hname, by decide, hvalue⟩
  | false =>
    obtain ⟨name, value, rfl, -, hname, hvalue⟩ := hheader
    obtain rfl : name = header.1 := hname
    obtain rfl : value = header.2 := hvalue
    exact hline.not_mem_content

/-- A header that was read is written in twice the octets of its line at most. -/
theorem length_writeHeader_le {escaped : Bool} (hline : Line line content)
    (hheader : HeaderLine escaped content header) :
    (writeHeader escaped header).length ≤ 2 * (line.length + 1) := by
  obtain ⟨name, value, rfl, -, hname, hvalue⟩ := hheader
  have hcontent := hline.length_le
  have hcolon : (Utf8.encode ":").length = 1 := by decide
  have hlength : ∀ {written meant : String}, Denotes escaped written meant →
      (Utf8.encode (writtenText escaped meant)).length ≤ 2 * (Utf8.encode written).length := by
    intro written meant h
    cases escaped with
    | true =>
      have hescaped := Header.length_escapeChars_le (show Header.Escaped _ _ from h)
      simpa [Utf8.encode_eq_flatMap, writtenText, Header.escape] using hescaped
    | false =>
      obtain rfl : written = meant := h
      simp only [writtenText, Bool.false_eq_true, if_false]
      omega
  have hnameLength := hlength hname
  have hvalueLength := hlength hvalue
  simp only [writeHeader_eq, encode_writtenLine, Utf8.encode_append, List.length_append,
    List.length_cons, List.length_nil] at hcontent ⊢
  omega

end HeaderLine

/-! ### The whole front of a frame -/

/-- A header block is written as it was read exactly if each of its lines is kept. -/
theorem flatMap_writeHeader_eq_iff {escaped : Bool} {block blank : Bytes}
    {headers : List (String × String)} (h : HeaderLines escaped block headers)
    (hblank : Line blank []) (rest : Bytes) :
    headers.flatMap (writeHeader escaped) = block ↔
      ∀ line ∈ frontLines (block ++ (blank ++ 0x0A :: rest)), Kept escaped line := by
  induction h with
  | nil => simp [frontLines_of_blank hblank]
  | @cons line content block header headers hline hheader _ ih =>
    have hfeed := feed_not_mem_writtenLine hline hheader
    rw [List.flatMap_cons, writeHeader_eq, List.append_assoc, List.singleton_append,
      append_feed_inj hfeed hline.not_mem, encode_writtenLine_eq_iff hline hheader, ih,
      List.append_assoc, List.cons_append, frontLines_of_line hline hheader.ne_nil,
      List.forall_mem_cons]

theorem length_flatMap_writeHeader_le {escaped : Bool} {block : Bytes}
    {headers : List (String × String)} (h : HeaderLines escaped block headers) :
    (headers.flatMap (writeHeader escaped)).length ≤ 2 * block.length := by
  induction h with
  | nil => simp
  | cons hline hheader _ ih =>
    have hfirst := length_writeHeader_le hline hheader
    simp only [List.flatMap_cons, List.length_append, List.length_cons] at ih ⊢
    omega

/-- The front of a frame that is written as it was read: the CR that may stand in front of a LF does
not, nor does any other in an escaped header line, which holds one colon. -/
structure KeptFront (escaped : Bool) (wire : Bytes) : Prop where
  command : ∀ line ∈ (frontLines wire).head?, line.getLast? ≠ some 0x0D
  headers : ∀ line ∈ (frontLines wire).tail, Kept escaped line
  blank : ∀ line ∈ blankLine? wire, line.getLast? ≠ some 0x0D

section Spelling

variable {codec : Codec} {frame : Frame} {first block blank : Bytes}

theorem blankLine?_of_headerLines {escaped : Bool} {headers : List (String × String)}
    (h : HeaderLines escaped block headers) (hblank : Line blank []) (rest : Bytes) :
    blankLine? (block ++ (blank ++ 0x0A :: rest)) = some blank := by
  induction h with
  | nil => exact blankLine?_of_blank hblank rest
  | cons hline hheader _ ih =>
    rw [List.append_assoc, List.cons_append, blankLine?_of_line hline hheader.ne_nil, ih]

theorem encode_text_ne_nil (command : Command) : Utf8.encode command.text ≠ [] := by
  intro hempty
  have htext : command.text = "" := Utf8.encode_injective (by simpa using hempty)
  cases command <;> simp [Command.text] at htext

/-- Headers end with a LF where they are written. -/
theorem getLast?_flatMap_writeHeader (escaped : Bool) (headers : List (String × String)) :
    (headers.flatMap (writeHeader escaped)).getLast? ≠ some 0x0D := by
  rcases List.eq_nil_or_concat headers with rfl | ⟨earlier, header, rfl⟩
  · simp
  · rw [List.concat_eq_append, List.flatMap_append, List.flatMap_singleton, writeHeader_eq,
      ← List.append_assoc, List.getLast?_concat]
    decide

/-- The empty line is written without a CR, so the octets before it are the headers. -/
theorem append_blank_inj {escaped : Bool} {headers : List (String × String)}
    (hblank : Line blank []) (rest : Bytes) :
    headers.flatMap (writeHeader escaped) ++ 0x0A :: rest = block ++ (blank ++ 0x0A :: rest) ↔
      headers.flatMap (writeHeader escaped) = block ∧ [] = blank := by
  rw [← List.append_assoc, List.append_left_inj]
  constructor
  · intro h
    -- a CR in front of the last LF would have to come from a written header, which ends with LF
    have hlast := getLast?_flatMap_writeHeader escaped headers
    cases hblank with
    | bare _ _ => exact ⟨by rw [h, List.append_nil], rfl⟩
    | returned _ =>
      rw [h, List.nil_append, List.getLast?_concat] at hlast
      exact absurd rfl hlast
  · rintro ⟨h, rfl⟩
    rw [h, List.append_nil]

/-- A frame is written as it was read exactly if its front is kept. -/
theorem encode_eq_iff_kept (h : Spelling codec frame first block blank) :
    encode codec.version frame =
        first ++ 0x0A :: (block ++ (blank ++ 0x0A :: (frame.body ++ [0x00]))) ↔
      KeptFront (escapes codec.version frame.command)
        (first ++ 0x0A :: (block ++ (blank ++ 0x0A :: (frame.body ++ [0x00])))) := by
  have hname := encode_text_ne_nil frame.command
  have hlines := frontLines_of_line h.command hname
    (block ++ (blank ++ 0x0A :: (frame.body ++ [0x00])))
  have hblank := (blankLine?_of_line h.command hname _).trans
    (blankLine?_of_headerLines h.headers h.blank (frame.body ++ [0x00]))
  rw [encode, append_feed_inj (line_command frame.command).not_mem h.command.not_mem,
    append_blank_inj h.blank, h.command.content_eq_iff, h.blank.content_eq_iff,
    flatMap_writeHeader_eq_iff h.headers h.blank (frame.body ++ [0x00])]
  constructor
  · rintro ⟨hcommand, hheaders, hend⟩
    refine ⟨?_, ?_, ?_⟩
    · rw [hlines]
      rintro line ⟨⟩
      exact hcommand
    · rw [hlines]
      exact hheaders
    · rw [hblank]
      rintro line ⟨⟩
      exact hend
  · rintro ⟨hcommand, hheaders, hend⟩
    rw [hlines] at hcommand hheaders
    rw [hblank] at hend
    exact ⟨hcommand first rfl, hheaders, hend blank rfl⟩

/-- A frame is written in twice the octets that it was read from at most. -/
theorem length_encode_le (h : Spelling codec frame first block blank) :
    (encode codec.version frame).length ≤
      2 * (first ++ 0x0A :: (block ++ (blank ++ 0x0A :: (frame.body ++ [0x00])))).length := by
  have hcommand := h.command.length_le
  have hheaders := length_flatMap_writeHeader_le h.headers
  simp only [encode, List.length_append, List.length_cons]
  omega

/-- Where nothing is escaped, a colon cannot get into the name of a header. -/
theorem colon_not_mem_of_headerLines {headers : List (String × String)}
    (h : HeaderLines false block headers) : ∀ header ∈ headers, ':' ∉ header.1.toList := by
  induction h with
  | nil => simp
  | cons _ hheader _ ih =>
    obtain ⟨name, value, -, hcolon, hname, -⟩ := hheader
    exact List.forall_mem_cons.mpr ⟨(show name = _ from hname) ▸ hcolon, ih⟩

/-- Only a CR at the end of a value keeps headers that were read unescaped from being read again. -/
theorem plainHeader_iff_of_headerLines {headers : List (String × String)}
    (h : HeaderLines false block headers) :
    (∀ header ∈ headers, PlainHeader header) ↔
      ∀ header ∈ headers, header.2.toList.getLast? ≠ some '\r' := by
  refine forall₂_congr fun header hmem ↦ ⟨PlainHeader.value_end, fun hend ↦ ?_⟩
  obtain ⟨hname, hvalue⟩ := newline_not_mem_of_headerLines h hmem
  exact ⟨colon_not_mem_of_headerLines h header hmem, hname, hvalue, hend⟩

/-- Which limit a frame's body was read under does not matter to one that the frame fits into. -/
theorem Delimited.of_length_le {limit other : Nat} (h : Delimited limit frame)
    (hother : frame.body.length ≤ other) : Delimited other frame := by
  cases h with
  | counted hlengths hparse _ => exact .counted hlengths hparse hother
  | terminated hlengths hbody => exact .terminated hlengths hbody

/-- A frame that was read can be read once more exactly if no unescaped value ends in CR. -/
theorem encodable_iff_of_spelling (h : Spelling codec frame first block blank) {limit : Nat}
    (hlimit : (encode codec.version frame).length ≤ limit) :
    Encodable ⟨codec.version, limit⟩ frame ↔
      escapes codec.version frame.command = true ∨
        ∀ header ∈ frame.headers, header.2.toList.getLast? ≠ some '\r' := by
  have hbody : Delimited limit frame :=
    h.body.of_length_le (Nat.le_trans (length_body_le_length_encode _ _) hlimit)
  have hheaders := h.headers
  cases hescaped : escapes codec.version frame.command with
  | true =>
    refine iff_of_true ⟨hbody, hlimit, fun hplain ↦ ?_⟩ (.inl rfl)
    rw [hescaped] at hplain
    cases hplain
  | false =>
    rw [hescaped] at hheaders
    rw [← plainHeader_iff_of_headerLines hheaders]
    simp only [Bool.false_eq_true, false_or]
    exact ⟨fun hencodable ↦ hencodable.plain hescaped,
      fun hplain ↦ ⟨hbody, hlimit, fun _ ↦ hplain⟩⟩

end Spelling

/-! ### What decoding and encoding do to each other -/

/-- A frame on the wire whose front has no second spelling: no line up to the empty one holds a CR,
and where headers are escaped each of them has a single colon. -/
structure Canonical (escaped : Bool) (wire : Bytes) : Prop where
  lines : ∀ line ∈ frontLines wire, 0x0D ∉ line
  blank : ∀ line ∈ blankLine? wire, 0x0D ∉ line
  colon : escaped = true → ∀ line ∈ (frontLines wire).tail, line.count 0x3A = 1

theorem Canonical.keptFront {escaped : Bool} {wire : Bytes} (h : Canonical escaped wire) :
    KeptFront escaped wire := by
  refine ⟨fun line hmem hlast ↦ ?_, fun line hmem ↦ ?_, fun line hmem hlast ↦ ?_⟩
  · exact h.lines line (List.mem_of_mem_head? hmem) (List.mem_of_getLast? hlast)
  · have hreturn := h.lines line (List.mem_of_mem_tail hmem)
    cases escaped with
    | true => exact ⟨hreturn, h.colon rfl line hmem⟩
    | false => exact fun hlast ↦ hreturn (List.mem_of_getLast? hlast)
  · exact h.blank line hmem (List.mem_of_getLast? hlast)

/-- A decoded frame encodes to the octets that it was decoded from if these are canonical. However
they were spelled, no more than twice as many are written, and under every limit that admits them
they are decoded to the same frame, with nothing left, exactly if headers are escaped or no value
ends in CR. -/
theorem decode_written_back {codec : Codec} {buffer rest : Bytes} {frame : Frame}
    (h : codec.decode buffer = .frame frame rest) :
    ∃ ends taken, Stripped buffer ends (taken ++ rest) ∧
      (Canonical (escapes codec.version frame.command) taken →
        encode codec.version frame = taken) ∧
      (encode codec.version frame).length ≤ 2 * taken.length ∧
      ∀ limit, (encode codec.version frame).length ≤ limit → limit ≤ maxUnsigned64 →
        (decode ⟨codec.version, limit⟩ (encode codec.version frame) = .frame frame [] ↔
          escapes codec.version frame.command = true ∨
            ∀ header ∈ frame.headers, header.2.toList.getLast? ≠ some '\r') := by
  obtain ⟨ends, first, block, blank, taken, hspelling, rfl, hstripped, -⟩ :=
    exists_spelling_of_decode_eq_frame h
  refine ⟨ends, _, hstripped, fun hcanonical ↦ ?_, length_encode_le hspelling,
    fun limit hfits hlimit ↦ ?_⟩
  · exact (encode_eq_iff_kept hspelling).mpr hcanonical.keptFront
  · have hagain := @decode_encode_append_iff ⟨codec.version, limit⟩ hlimit frame []
    rw [List.append_nil] at hagain
    rw [hagain, encodable_iff_of_spelling hspelling hfits]

/-- A heart-beat in front, an escaped name, and a second frame behind. -/
theorem decode_written_back_escaped :
    let buffer := Utf8.encode "\nSEND\nk\\cey:a\n\nhi\x00ACK\n"
    decode ⟨.v12, 1024⟩ buffer =
        .frame ⟨.send, [("k:ey", "a")], Utf8.encode "hi"⟩ (Utf8.encode "ACK\n") ∧
      ∃ ends taken, Stripped buffer ends (taken ++ Utf8.encode "ACK\n") ∧
        (Canonical true taken →
          encode .v12 ⟨.send, [("k:ey", "a")], Utf8.encode "hi"⟩ = taken) ∧
        (encode .v12 ⟨.send, [("k:ey", "a")], Utf8.encode "hi"⟩).length ≤ 2 * taken.length ∧
        ∀ limit, (encode .v12 ⟨.send, [("k:ey", "a")], Utf8.encode "hi"⟩).length ≤ limit →
          limit ≤ maxUnsigned64 →
          (decode ⟨.v12, limit⟩ (encode .v12 ⟨.send, [("k:ey", "a")], Utf8.encode "hi"⟩) =
              .frame ⟨.send, [("k:ey", "a")], Utf8.encode "hi"⟩ [] ↔
            true = true ∨ ∀ header ∈ [("k:ey", "a")], header.2.toList.getLast? ≠ some '\r') := by
  intro buffer
  have hdecode : decode ⟨.v12, 1024⟩ buffer =
      .frame ⟨.send, [("k:ey", "a")], Utf8.encode "hi"⟩ (Utf8.encode "ACK\n") := by
    decide +kernel
  exact ⟨hdecode, decode_written_back hdecode⟩

/-- The empty line counts: a CR in it is lost although every other line is free of it. -/
theorem decode_written_back_blank_return :
    ¬∀ (codec : Codec) (buffer ends taken rest : Bytes) (frame : Frame),
      codec.decode buffer = .frame frame rest → Stripped buffer ends (taken ++ rest) →
        (∀ line ∈ frontLines taken, 0x0D ∉ line) →
          (escapes codec.version frame.command = true →
            ∀ line ∈ (frontLines taken).tail, line.count 0x3A = 1) →
            encode codec.version frame = taken := by
  intro hclaim
  have hdecode : decode {} (Utf8.encode "SEND\n\r\n\x00") = .frame ⟨.send, [], []⟩ [] := by
    decide +kernel
  obtain ⟨ends, hstripped⟩ := stripped_iff.mpr
    (show Utf8.encode "SEND\n\r\n\x00" ++ [] = skipLineEnds (Utf8.encode "SEND\n\r\n\x00") by
      decide +kernel)
  have hlines : frontLines (Utf8.encode "SEND\n\r\n\x00") = [Utf8.encode "SEND"] := by
    decide +kernel
  have hencode := hclaim {} _ ends _ [] _ hdecode hstripped
    (by rw [hlines]; decide) (by rw [hlines]; decide)
  exact absurd hencode (by decide +kernel)

end Codec

end StompBroker
