import StompBroker.Proofs.Frame.Escape
import StompBroker.Proofs.Frame.Line
import StompBroker.Proofs.Text.Split
import StompBroker.Proofs.Text.Utf8

/-!
# The grammar of frames

`Spelled codec input frame rest` says, without any reader, that `input` is a command line, a line
per header, an empty line, the body and a NUL, followed by `rest`: a `HeaderLine` is a name and a
value around the first colon, each escaped when the version and the command ask for it
(`Denotes`), and a body is `Delimited` by the only `content-length` header or by the first NUL.

`Codec.decode` accepts this grammar and nothing else, as far as the frame fits into the limit
(`decode_eq_frame_iff_spelled`). The proof goes through the reader's stages, each with the part of
the grammar that it reads: `readHeader_eq_ok_iff`, `headerLines_of_readHeaders` with its converse
`readHeaders_of_headerLines`, `readBody_eq_complete_iff` and `readFrame_eq_complete_iff`.
-/

set_option autoImplicit false

namespace StompBroker

/-! ### Commands -/

theorem Command.ofText?_eq_some_iff {name : String} {command : Command} :
    Command.ofText? name = some command ↔ command.text = name := by
  constructor
  · intro h
    simpa using List.find?_some h
  · rintro rfl
    cases command <;> rfl

/-- The name of a command holds neither a line end nor a colon. -/
theorem Command.not_mem_text {separator : Char} (h : separator ∈ Header.separators)
    (command : Command) : separator ∉ command.text.toList := by
  simp only [Header.separators, List.mem_cons, List.not_mem_nil, or_false] at h
  rcases h with rfl | rfl | rfl <;> cases command <;> decide

namespace Codec

/-! ### The grammar -/

/-- A header name or value as it is written, and what it stands for. -/
def Denotes (escaped : Bool) (written meant : String) : Prop :=
  if escaped then Header.Escaped written.toList meant.toList else written = meant

/-- The content of a header line: a name that holds no colon, a colon, and a value. -/
def HeaderLine (escaped : Bool) (content : Bytes) (header : String × String) : Prop :=
  ∃ name value, content = Utf8.encode (name ++ ":" ++ value) ∧ ':' ∉ name.toList ∧
    Denotes escaped name header.1 ∧ Denotes escaped value header.2

/-- A block of lines, each with its LF, and the header that each of them holds. -/
inductive HeaderLines (escaped : Bool) : Bytes → List (String × String) → Prop
  | nil : HeaderLines escaped [] []
  | cons {line content block : Bytes} {header : String × String}
    {headers : List (String × String)} :
    Line line content → HeaderLine escaped content header → HeaderLines escaped block headers →
      HeaderLines escaped (line ++ 0x0A :: block) (header :: headers)

/-- The values of all headers that declare the length of the body. -/
def declaredLengths (headers : List (String × String)) : List String :=
  (headers.filter fun header ↦ header.1 == Header.contentLength).map (·.2)

/-- How the end of a body is known: one header declares its length, or no header does and the body
holds no NUL. -/
inductive Delimited (limit : Nat) (frame : Frame) : Prop
  | counted {value : String} :
    declaredLengths frame.headers = [value] →
      Text.natural? maxUnsigned64 (Text.trim value) = .ok frame.body.length →
        frame.body.length ≤ limit → Delimited limit frame
  | terminated : declaredLengths frame.headers = [] → 0x00 ∉ frame.body → Delimited limit frame

/-- The lines in front of a frame's body: the command line, the header lines and the empty line. -/
structure Spelling (codec : Codec) (frame : Frame) (first block blank : Bytes) : Prop where
  command : Line first (Utf8.encode frame.command.text)
  headers : HeaderLines (escapes codec.version frame.command) block frame.headers
  blank : Line blank []
  body : Delimited codec.maxFrameBytes frame

/-- The octets start with a frame, and `rest` is what follows it. -/
def Spelled (codec : Codec) (input : Bytes) (frame : Frame) (rest : Bytes) : Prop :=
  ∃ first block blank, Spelling codec frame first block blank ∧
    input = first ++ 0x0A :: (block ++ (blank ++ 0x0A :: (frame.body ++ 0x00 :: rest)))

/-! ### The command line -/

theorem readCommand_eq_ok_iff {content : Bytes} {command : Command} :
    readCommand content = .ok command ↔ content = Utf8.encode command.text := by
  unfold readCommand
  constructor
  · intro h
    split at h
    · cases h
    · split at h
      · cases h
      · rename_i name hname
        split at h
        · cases h
        · rename_i found hfound
          cases h
          rw [Command.ofText?_eq_some_iff.mp hfound]
          exact (Utf8.decode?_eq_some_iff.mp hname).symm
  · rintro rfl
    have hcolon : ¬(Utf8.encode command.text).contains 0x3A = true := by
      rw [List.contains_iff_mem, Utf8.colon_mem_encode_iff]
      exact Command.not_mem_text (by decide) command
    rw [if_neg hcolon, Utf8.decode?_encode]
    simp only [Command.ofText?_eq_some_iff.mpr rfl]

/-! ### Header lines -/

theorem readText_eq_ok_iff {escaped : Bool} {written meant : String} :
    readText escaped written = .ok meant ↔ Denotes escaped written meant := by
  unfold readText Denotes
  cases escaped with
  | false => simp
  | true =>
    simp only [if_true]
    rw [← Header.unescape_eq_ok_iff]
    cases Header.unescape written <;> simp [Except.mapError]

/-- One line is read as the grammar says. -/
theorem readHeader_eq_ok_iff {escaped : Bool} {content : Bytes} {header : String × String} :
    readHeader escaped content = .ok header ↔ HeaderLine escaped content header := by
  unfold readHeader HeaderLine
  constructor
  · intro h
    split at h
    · cases h
    · rename_i text htext
      split at h
      · cases h
      · rename_i name value hsplit
        obtain ⟨hname, rfl⟩ := Text.splitOnce?_eq_some_iff.mp hsplit
        refine ⟨name, value, (Utf8.decode?_eq_some_iff.mp htext).symm, hname, ?_⟩
        cases hfirst : readText escaped name with
        | error cause =>
          rw [hfirst] at h
          cases h
        | ok first =>
          cases hsecond : readText escaped value with
          | error cause =>
            rw [hfirst, hsecond] at h
            cases h
          | ok second =>
            rw [hfirst, hsecond] at h
            cases h
            exact ⟨readText_eq_ok_iff.mp hfirst, readText_eq_ok_iff.mp hsecond⟩
  · rintro ⟨name, value, rfl, hname, hfirst, hsecond⟩
    have hsplit : Text.splitOnce? ':' (name ++ ":" ++ value) = some (name, value) :=
      Text.splitOnce?_eq_some_iff.mpr ⟨hname, rfl⟩
    rw [Utf8.decode?_encode]
    simp only [hsplit, readText_eq_ok_iff.mpr hfirst, readText_eq_ok_iff.mpr hsecond]
    rfl

/-- A header line is not the empty line. -/
theorem HeaderLine.ne_nil {escaped : Bool} {content : Bytes} {header : String × String}
    (h : HeaderLine escaped content header) : content ≠ [] := by
  obtain ⟨name, value, rfl, -⟩ := h
  have hmem : 0x3A ∈ Utf8.encode (name ++ ":" ++ value) :=
    Utf8.colon_mem_encode_iff.mpr (by simp)
  exact List.ne_nil_of_mem hmem

/-! ### The declared length -/

theorem readLength_eq_ok_iff {limit length : Nat} {value : String} :
    readLength limit value = .ok length ↔
      Text.natural? maxUnsigned64 (Text.trim value) = .ok length ∧ length ≤ limit := by
  unfold readLength
  cases Text.natural? maxUnsigned64 (Text.trim value) with
  | error cause => simp
  | ok parsed =>
    simp only [Except.ok.injEq]
    split
    · rename_i hlarge
      simp only [reduceCtorEq, false_iff, not_and]
      rintro rfl
      omega
    · rename_i hsmall
      simp only [Except.ok.injEq]
      constructor
      · rintro rfl
        exact ⟨rfl, by omega⟩
      · exact fun h ↦ h.1

theorem declaredLengths_cons_of_ne {header : String × String} {headers : List (String × String)}
    (h : header.1 ≠ Header.contentLength) :
    declaredLengths (header :: headers) = declaredLengths headers := by
  simp [declaredLengths, h]

theorem declaredLengths_cons_of_eq {header : String × String} {headers : List (String × String)}
    (h : header.1 = Header.contentLength) :
    declaredLengths (header :: headers) = header.2 :: declaredLengths headers := by
  simp [declaredLengths, h]

/-- Once a length is declared, no later header may declare one. -/
theorem foldlM_declare_some {limit length : Nat} {headers : List (String × String)}
    {declared : Option Nat} :
    headers.foldlM (declare limit) (some length) = .ok declared ↔
      declaredLengths headers = [] ∧ declared = some length := by
  induction headers with
  | nil => simp [declaredLengths, pure, Except.pure, eq_comm]
  | cons header headers ih =>
    rw [List.foldlM_cons]
    by_cases hname : header.1 = Header.contentLength
    · rw [declaredLengths_cons_of_eq hname]
      simp [declare, hname, bind, Except.bind]
    · rw [declaredLengths_cons_of_ne hname, ← ih]
      simp [declare, hname, bind, Except.bind]

/-- The length that a list of headers declares, if they declare one. -/
theorem foldlM_declare_none {limit : Nat} {headers : List (String × String)}
    {declared : Option Nat} :
    headers.foldlM (declare limit) none = .ok declared ↔
      (declaredLengths headers = [] ∧ declared = none) ∨
        ∃ value length, declaredLengths headers = [value] ∧
          readLength limit value = .ok length ∧ declared = some length := by
  induction headers with
  | nil => simp [declaredLengths, pure, Except.pure, eq_comm]
  | cons header headers ih =>
    rw [List.foldlM_cons]
    by_cases hname : header.1 = Header.contentLength
    · rw [declaredLengths_cons_of_eq hname]
      cases hread : readLength limit header.2 with
      | error cause => simp [declare, hname, hread, Except.map, bind, Except.bind]
      | ok length =>
        have hdeclare : declare limit none header = .ok (some length) := by
          simp [declare, hname, hread, Except.map]
        rw [hdeclare]
        change headers.foldlM (declare limit) (some length) = .ok declared ↔ _
        rw [foldlM_declare_some]
        constructor
        · rintro ⟨hnone, rfl⟩
          exact .inr ⟨header.2, length, by rw [hnone], hread, rfl⟩
        · rintro (⟨hcons, -⟩ | ⟨value, other, hcons, hother, rfl⟩)
          · cases hcons
          · simp only [List.cons.injEq] at hcons
            rw [← hcons.1, hread] at hother
            cases hother
            exact ⟨hcons.2, rfl⟩
    · rw [declaredLengths_cons_of_ne hname, ← ih]
      simp [declare, hname, bind, Except.bind]

/-! ### The header block -/

theorem readHeaders_of_blank {escaped : Bool} {limit : Nat} {read : List (String × String)}
    {declared : Option Nat} {buffer rest : Bytes} (h : line? buffer = some ([], rest)) :
    readHeaders escaped limit read declared buffer =
      .ok (some ⟨read.reverse, declared, rest⟩) := by
  rw [readHeaders]
  split <;> simp_all

/-- One step over a line that is not empty. -/
theorem readHeaders_of_line {escaped : Bool} {limit : Nat} {read : List (String × String)}
    {declared : Option Nat} {buffer content rest : Bytes}
    (h : line? buffer = some (content, rest)) (hcontent : content ≠ []) :
    readHeaders escaped limit read declared buffer =
      match readHeader escaped content with
      | .error cause => .error cause
      | .ok header =>
        match declare limit declared header with
        | .error cause => .error cause
        | .ok declared => readHeaders escaped limit (header :: read) declared rest := by
  rw [readHeaders]
  split
  · simp_all
  · simp_all
  · rename_i octet line tail found
    rw [h] at found
    cases found
    rfl

/-- A header block is read line by line, up to the empty line. -/
theorem readHeaders_of_headerLines {escaped : Bool} {limit : Nat} {block blank : Bytes}
    {headers : List (String × String)} (hblock : HeaderLines escaped block headers)
    (hblank : Line blank []) {read : List (String × String)} {declared final : Option Nat}
    (hdeclared : headers.foldlM (declare limit) declared = .ok final) (rest : Bytes) :
    readHeaders escaped limit read declared (block ++ (blank ++ 0x0A :: rest)) =
      .ok (some ⟨read.reverse ++ headers, final, rest⟩) := by
  induction hblock generalizing read declared with
  | nil =>
    cases hdeclared
    rw [List.nil_append, readHeaders_of_blank (line?_of_line hblank rest), List.append_nil]
  | @cons line content block header headers hline hheader _ ih =>
    rw [List.foldlM_cons] at hdeclared
    rw [List.append_assoc, List.cons_append,
      readHeaders_of_line (line?_of_line hline _) hheader.ne_nil, readHeader_eq_ok_iff.mpr hheader]
    cases hstep : declare limit declared header with
    | error cause =>
      rw [hstep] at hdeclared
      cases hdeclared
    | ok next =>
      rw [hstep] at hdeclared
      simp only
      rw [hstep]
      simp only
      rw [ih hdeclared]
      simp

/-- What is read as a header block is one, and the headers have declared what was found. -/
theorem headerLines_of_readHeaders {escaped : Bool} {limit : Nat} {read : List (String × String)}
    {declared : Option Nat} {buffer : Bytes} {result : HeaderBlock}
    (h : readHeaders escaped limit read declared buffer = .ok (some result)) :
    ∃ block blank headers, HeaderLines escaped block headers ∧ Line blank [] ∧
      headers.foldlM (declare limit) declared = .ok result.declared ∧
      result.headers = read.reverse ++ headers ∧
      buffer = block ++ (blank ++ 0x0A :: result.rest) := by
  fun_induction readHeaders escaped limit read declared buffer with
  | case1 read declared buffer hnone => cases h
  | case2 read declared buffer rest hfound =>
    cases h
    obtain ⟨blank, hblank, rfl⟩ := exists_line_of_line? hfound
    exact ⟨[], blank, [], .nil, hblank, rfl, by simp, by simp⟩
  | case3 read declared buffer octet line rest hfound cause hread => cases h
  | case4 read declared buffer octet line rest hfound header hread cause hdeclare => cases h
  | case5 read declared buffer octet line rest hfound header hread next hdeclare ih =>
    obtain ⟨block, blank, headers, hblock, hblank, hfold, hheaders, hrest⟩ := ih h
    obtain ⟨wire, hwire, rfl⟩ := exists_line_of_line? hfound
    refine ⟨wire ++ 0x0A :: block, blank, header :: headers,
      .cons hwire (readHeader_eq_ok_iff.mp hread) hblock, hblank, ?_, ?_, ?_⟩
    · rw [List.foldlM_cons, hdeclare]
      exact hfold
    · rw [hheaders]
      simp
    · rw [hrest]
      simp

/-! ### The body -/

/-- How a declared length, or its absence, ends a body. -/
def BodyEnds (declared : Option Nat) (body : Bytes) : Prop :=
  match declared with
  | some length => body.length = length
  | none => 0x00 ∉ body

theorem delimited_iff {limit : Nat} {frame : Frame} :
    Delimited limit frame ↔
      ∃ declared, frame.headers.foldlM (declare limit) none = .ok declared ∧
        BodyEnds declared frame.body := by
  constructor
  · rintro (⟨hlengths, hparse, hle⟩ | ⟨hlengths, hbody⟩)
    · refine ⟨some frame.body.length, foldlM_declare_none.mpr (.inr ?_), rfl⟩
      exact ⟨_, _, hlengths, readLength_eq_ok_iff.mpr ⟨hparse, hle⟩, rfl⟩
    · exact ⟨none, foldlM_declare_none.mpr (.inl ⟨hlengths, rfl⟩), hbody⟩
  · rintro ⟨declared, hfold, hbody⟩
    rcases foldlM_declare_none.mp hfold with ⟨hlengths, rfl⟩ | ⟨value, length, hlengths, hread, rfl⟩
    · exact .terminated hlengths hbody
    · obtain ⟨hparse, hle⟩ := readLength_eq_ok_iff.mp hread
      have hlength : frame.body.length = length := hbody
      exact .counted hlengths (hlength ▸ hparse) (hlength ▸ hle)

theorem readBody_eq_complete_iff {limit total : Nat} {command : Command} {block : HeaderBlock}
    {frame : Frame} {rest : Bytes} :
    readBody limit total command block = .ok (.complete frame rest) ↔
      frame.command = command ∧ frame.headers = block.headers ∧
        block.rest = frame.body ++ 0x00 :: rest ∧ BodyEnds block.declared frame.body ∧
        (block.declared.isSome →
          total - block.rest.length + frame.body.length ≤ maxUnsigned64) := by
  obtain ⟨headers, declared, after⟩ := block
  obtain ⟨verb, fields, body⟩ := frame
  unfold readBody BodyEnds
  cases declared with
  | some length =>
    simp only [Option.isSome_some, true_implies]
    constructor
    · intro h
      split at h
      · cases h
      · rename_i hfits
        split at h
        · cases h
        · rename_i octet tail hdrop
          split at h
          · rename_i hzero
            cases h
            have hparts := List.take_append_drop length after
            rw [hdrop, hzero] at hparts
            have hlength : (after.take length).length = length := by
              have hnonempty := congrArg List.length hdrop
              rw [List.length_drop, List.length_cons] at hnonempty
              rw [List.length_take]
              omega
            exact ⟨rfl, rfl, hparts.symm, hlength, by rw [hlength]; omega⟩
          · cases h
    · rintro ⟨rfl, rfl, rfl, hlength, hfits⟩
      rw [if_neg (by omega), ← hlength, List.drop_left, List.take_left]
      simp
  | none =>
    simp only [Option.isSome_none, Bool.false_eq_true, false_implies, and_true]
    have hnul : (0x00 : UInt8) ∉ after.takeWhile (· != 0x00) := by
      intro hmem
      simpa using List.all_eq_true.mp List.all_takeWhile _ hmem
    constructor
    · intro h
      have hparts := List.takeWhile_append_dropWhile (p := (· != (0x00 : UInt8))) (l := after)
      split at h
      · cases h
      · rename_i octet tail hdrop
        cases h
        have hoctet : octet = 0x00 := by
          have hhead := List.head?_dropWhile_not (p := (· != (0x00 : UInt8))) after
          simpa [hdrop] using hhead
        rw [hdrop, hoctet] at hparts
        exact ⟨rfl, rfl, hparts.symm, hnul⟩
    · rintro ⟨rfl, rfl, rfl, hbody⟩
      have hall : ∀ octet ∈ body, (octet != 0x00) = true := by
        intro octet hmem
        simp only [bne_iff_ne, ne_eq]
        rintro rfl
        exact hbody hmem
      rw [List.dropWhile_append_of_pos hall, List.takeWhile_append_of_pos hall]
      simp

/-! ### The whole frame -/

theorem readFrame_of_none {codec : Codec} {input : Bytes} (h : line? input = none) :
    readFrame codec input = .ok (.atLeast input.length) := by
  unfold readFrame
  rw [h]

/-- The stages after the command line. -/
theorem readFrame_of_line {codec : Codec} {input content rest : Bytes}
    (h : line? input = some (content, rest)) :
    readFrame codec input =
      match readCommand content with
      | .error cause => .error cause
      | .ok command =>
        match readHeaders (escapes codec.version command) codec.maxFrameBytes [] none rest with
        | .error cause => .error cause
        | .ok none => .ok (.atLeast input.length)
        | .ok (some block) => readBody codec.maxFrameBytes input.length command block := by
  unfold readFrame
  rw [h]
  simp only
  cases readCommand content with
  | error cause => rfl
  | ok command =>
    simp only [bind, Except.bind]
    cases readHeaders (escapes codec.version command) codec.maxFrameBytes [] none rest with
    | error cause => rfl
    | ok found => cases found <;> rfl

/-- A frame is read where the grammar has one, unless its length was declared and lies beyond the
largest length there is. -/
theorem readFrame_eq_complete_iff {codec : Codec} {input rest : Bytes} {frame : Frame} :
    readFrame codec input = .ok (.complete frame rest) ↔
      Spelled codec input frame rest ∧
        (declaredLengths frame.headers ≠ [] → input.length - rest.length ≤ maxUnsigned64 + 1) := by
  constructor
  · intro h
    cases hline : line? input with
    | none =>
      rw [readFrame_of_none hline] at h
      cases h
    | some parts =>
      obtain ⟨content, afterCommand⟩ := parts
      obtain ⟨first, hfirst, rfl⟩ := exists_line_of_line? hline
      rw [readFrame_of_line hline] at h
      split at h
      · cases h
      · rename_i command hcommand
        split at h
        · cases h
        · cases h
        · rename_i block hheaders
          obtain ⟨lines, blank, headers, hlines, hblank, hfold, hblock, rfl⟩ :=
            headerLines_of_readHeaders hheaders
          obtain ⟨rfl, hfields, hrest, hends, hfits⟩ := readBody_eq_complete_iff.mp h
          rw [hblock, List.reverse_nil, List.nil_append] at hfields
          subst hfields
          rw [readCommand_eq_ok_iff.mp hcommand] at hfirst
          refine ⟨⟨first, lines, blank, ⟨hfirst, hlines, hblank, ?_⟩, by rw [hrest]⟩, ?_⟩
          · exact delimited_iff.mpr ⟨_, hfold, hends⟩
          · intro hdeclared
            have hsome : block.declared.isSome := by
              rcases foldlM_declare_none.mp hfold with ⟨hnil, -⟩ | ⟨_, _, -, -, heq⟩
              · exact absurd hnil hdeclared
              · rw [heq]
                rfl
            have hlast := hfits hsome
            rw [hrest] at hlast ⊢
            simp only [List.length_append, List.length_cons] at hlast ⊢
            omega
  · rintro ⟨⟨first, lines, blank, hspelling, rfl⟩, hfits⟩
    obtain ⟨declared, hfold, hends⟩ := delimited_iff.mp hspelling.body
    rw [readFrame_of_line (line?_of_line hspelling.command _), readCommand_eq_ok_iff.mpr rfl]
    simp only
    rw [readHeaders_of_headerLines hspelling.headers hspelling.blank hfold]
    simp only
    refine readBody_eq_complete_iff.mpr ⟨rfl, rfl, rfl, hends, ?_⟩
    intro hsome
    have hdeclared : declaredLengths frame.headers ≠ [] := by
      rcases foldlM_declare_none.mp hfold with ⟨-, rfl⟩ | ⟨_, _, heq, -, -⟩
      · cases hsome
      · rw [heq]
        simp
    have hlast := hfits hdeclared
    simp only [List.length_append, List.length_cons] at hlast ⊢
    omega

/-! ### Decoding -/

/-- A complete frame within the limit is taken off the buffer. -/
theorem decode_eq_frame_iff {codec : Codec} {buffer rest : Bytes} {frame : Frame} :
    codec.decode buffer = .frame frame rest ↔
      readFrame codec (skipLineEnds buffer) = .ok (.complete frame rest) ∧
        (skipLineEnds buffer).length - rest.length ≤ codec.maxFrameBytes := by
  unfold decode
  simp only
  constructor
  · intro h
    split at h
    · cases h
    · split at h
      · cases h
      · split at h <;> cases h
      · rename_i found after hread
        split at h
        · cases h
        · rename_i hfits
          cases h
          exact ⟨hread, by omega⟩
  · rintro ⟨hread, hfits⟩
    have hnonempty : ¬(skipLineEnds buffer).isEmpty = true := by
      intro hempty
      rw [List.isEmpty_iff.mp hempty, readFrame_of_none rfl] at hread
      cases hread
    rw [if_neg hnonempty, hread]
    simp only
    rw [if_neg (by omega)]

/-- Below the largest length, a declared length cannot lie beyond it. -/
theorem decode_eq_frame_iff_of_le {codec : Codec} (h : codec.maxFrameBytes ≤ maxUnsigned64)
    {buffer rest : Bytes} {frame : Frame} :
    codec.decode buffer = .frame frame rest ↔
      Spelled codec (skipLineEnds buffer) frame rest ∧
        (skipLineEnds buffer).length - rest.length ≤ codec.maxFrameBytes := by
  rw [decode_eq_frame_iff, readFrame_eq_complete_iff, and_assoc]
  refine and_congr_right fun _ ↦ ?_
  constructor
  · exact fun hboth ↦ hboth.2
  · exact fun hfits ↦ ⟨fun _ ↦ by omega, hfits⟩

/-- What was taken off a buffer for a frame is one of its spellings. -/
theorem exists_spelling_of_decode_eq_frame {codec : Codec} {buffer rest : Bytes} {frame : Frame}
    (h : codec.decode buffer = .frame frame rest) :
    ∃ ends first block blank taken, Spelling codec frame first block blank ∧
      taken = first ++ 0x0A :: (block ++ (blank ++ 0x0A :: (frame.body ++ [0x00]))) ∧
        Stripped buffer ends (taken ++ rest) ∧ taken.length ≤ codec.maxFrameBytes := by
  obtain ⟨hread, hsize⟩ := decode_eq_frame_iff.mp h
  obtain ⟨⟨first, block, blank, hspelling, hsplit⟩, -⟩ := readFrame_eq_complete_iff.mp hread
  have htaken : skipLineEnds buffer =
      first ++ 0x0A :: (block ++ (blank ++ 0x0A :: (frame.body ++ [0x00]))) ++ rest := by
    rw [hsplit]
    simp
  obtain ⟨ends, hstripped⟩ := stripped_iff.mpr htaken.symm
  rw [htaken, List.length_append, Nat.add_sub_cancel] at hsize
  exact ⟨ends, first, block, blank, _, hspelling, rfl, hstripped, hsize⟩

theorem toNat_le_maxUnsigned64 (max : UInt64) : max.toNat ≤ maxUnsigned64 := by
  have hlt := max.toNat_lt
  simp only [maxUnsigned64]
  omega

/-- The decoder takes a frame off a buffer exactly if the grammar has this frame at the front, after
as many line ends as there are, and the frame does not exceed the limit. -/
theorem decode_eq_frame_iff_spelled (version : Version) (max : UInt64) (buffer : Bytes)
    (frame : Frame) (rest : Bytes) :
    decode ⟨version, max.toNat⟩ buffer = .frame frame rest ↔
      ∃ ends input, Stripped buffer ends input ∧ Spelled ⟨version, max.toNat⟩ input frame rest ∧
        input.length - rest.length ≤ max.toNat := by
  rw [decode_eq_frame_iff_of_le (toNat_le_maxUnsigned64 max)]
  constructor
  · rintro ⟨hspelled, hfits⟩
    obtain ⟨ends, hstripped⟩ := stripped_iff.mpr rfl
    exact ⟨ends, _, hstripped, hspelled, hfits⟩
  · rintro ⟨ends, input, hstripped, hspelled, hfits⟩
    obtain rfl := stripped_iff.mp ⟨ends, hstripped⟩
    exact ⟨hspelled, hfits⟩

end Codec

end StompBroker
