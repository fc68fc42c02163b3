import StompBroker.Frame.Cursor
import StompBroker.Proofs.Frame.Grammar

/-!
# Positions stay inside the buffer

Whatever the octets of a buffer are, `Codec.scan` runs into no `Fault` and answers what
`Codec.decode` answers (`scan_eq_decode`). Every position that it comes to divides the buffer into
the octets that it has read and those that it has not, so each stage is followed on a buffer
`front ++ rest` that it enters at `front.length`: line ends (`skipFrom_append`), one line
(`lineAt_append`), the headers (`scanHeaders_append`) and the body (`scanBody_append_of_some`,
`scanBody_append_of_none`). Sums are then at most the length of the buffer. The exception is the end
of a body whose length was declared, and that sum is the one whose overflow has an answer.
-/

set_option autoImplicit false

namespace StompBroker

/-! ### One position -/

namespace Cursor

variable {front middle rest : Bytes} {octet : UInt8} {first second : Nat}

theorem add_of_le (h : first + second ≤ maxUnsigned64) :
    add first second = .ok (first + second) := by
  rw [add, if_neg (Nat.not_lt.mpr h)]

theorem distance_add : distance first (first + second) = .ok second := by
  rw [distance, if_neg (by omega), Nat.add_sub_cancel_left]

theorem suffix_append : suffix (front ++ rest) front.length = .ok rest := by
  rw [suffix_eq_ok_iff, List.drop_left, List.length_append]
  exact ⟨Nat.le_add_right _ _, rfl⟩

theorem slice_append :
    slice (front ++ (middle ++ rest)) front.length (middle.length + front.length) = .ok middle := by
  have hfits : ¬(middle.length + front.length < front.length ∨
      (front ++ (middle ++ rest)).length < middle.length + front.length) := by
    simp only [List.length_append]
    omega
  rw [slice, if_neg hfits, Nat.add_comm, List.take_length_add_append, List.take_left,
    List.drop_left]

theorem slice_zero : slice (front ++ rest) 0 front.length = .ok front := by
  have hslice := @slice_append [] front rest
  simpa using hslice

theorem split_append : split (front ++ rest) front.length = .ok (front, rest) := by
  have hfits : ¬(front ++ rest).length < front.length := by
    rw [List.length_append]
    omega
  rw [split, if_neg hfits, List.splitAt_eq, List.take_left, List.drop_left]

theorem octet_append :
    Cursor.octet (front ++ (middle ++ octet :: rest)) (front.length + middle.length) =
      .ok octet := by
  rw [← List.append_assoc, ← List.length_append, Cursor.octet,
    List.getElem?_append_right (Nat.le_refl _), Nat.sub_self, List.getElem?_cons_zero]

/-- The first occurrence of an octet stands behind what does not hold it. -/
theorem findIdx?_append_cons (h : octet ∉ front) :
    (front ++ octet :: rest).findIdx? (· == octet) = some front.length := by
  rw [List.findIdx?_append, List.findIdx?_eq_none_iff.mpr fun other hmem ↦ ?_, Option.none_or,
    List.findIdx?_cons, if_pos (beq_self_eq_true octet), Option.map_some, Nat.zero_add]
  rw [beq_eq_false_iff_ne]
  rintro rfl
  exact h hmem

theorem findIdx?_of_not_mem (h : octet ∉ rest) : rest.findIdx? (· == octet) = none := by
  refine List.findIdx?_eq_none_iff.mpr fun other hmem ↦ ?_
  rw [beq_eq_false_iff_ne]
  rintro rfl
  exact h hmem

end Cursor

namespace Codec

variable {codec : Codec} {front line content rest buffer : Bytes}

/-! ### Line ends and lines -/

theorem skipFrom_of_feed {skip next : Nat}
    (hsuffix : Cursor.suffix buffer skip = .ok (0x0A :: rest))
    (hadd : Cursor.add skip 1 = .ok next) : skipFrom buffer skip = skipFrom buffer next := by
  rw [skipFrom]
  split
  · simp_all
  · split <;> simp_all
  · simp_all
  · simp_all

theorem skipFrom_of_returnFeed {skip next : Nat}
    (hsuffix : Cursor.suffix buffer skip = .ok (0x0D :: 0x0A :: rest))
    (hadd : Cursor.add skip 2 = .ok next) : skipFrom buffer skip = skipFrom buffer next := by
  rw [skipFrom]
  split
  · simp_all
  · simp_all
  · split <;> simp_all
  · simp_all

/-- All line ends from a position on are skipped. -/
theorem skipFrom_append (front rest : Bytes) (h : (front ++ rest).length ≤ maxUnsigned64) :
    skipFrom (front ++ rest) front.length =
      .ok ((front ++ rest).length - (skipLineEnds rest).length) := by
  fun_induction skipLineEnds rest generalizing front with
  | case1 rest ih =>
    have hnext := ih (front ++ [0x0A])
    simp only [List.append_assoc, List.singleton_append, List.length_append, List.length_cons,
      List.length_nil] at h hnext
    rw [skipFrom_of_feed Cursor.suffix_append (Cursor.add_of_le (by omega)), hnext (by omega)]
    simp only [List.length_append, List.length_cons]
  | case2 rest ih =>
    have hnext := ih (front ++ [0x0D, 0x0A])
    simp only [List.append_assoc, List.cons_append, List.nil_append, List.length_append,
      List.length_cons, List.length_nil] at h hnext
    rw [skipFrom_of_returnFeed Cursor.suffix_append (Cursor.add_of_le (by omega)),
      hnext (by omega)]
    simp only [List.length_append, List.length_cons]
  | case3 rest hfeed hreturn =>
    rw [List.length_append, Nat.add_sub_cancel, skipFrom]
    split
    · rename_i hsuffix
      rw [Cursor.suffix_append] at hsuffix
      cases hsuffix
    · rename_i hsuffix
      rw [Cursor.suffix_append] at hsuffix
      exact absurd (Except.ok.inj hsuffix) (hfeed _)
    · rename_i hsuffix
      rw [Cursor.suffix_append] at hsuffix
      exact absurd (Except.ok.inj hsuffix) (hreturn _)
    · rfl

/-- A line is found where it stands, and the next one behind its LF. -/
theorem lineAt_append (hline : Line line content)
    (h : (front ++ (line ++ 0x0A :: rest)).length ≤ maxUnsigned64) :
    lineAt (front ++ (line ++ 0x0A :: rest)) front.length =
      .ok (some (content, (front ++ (line ++ [0x0A])).length)) := by
  simp only [List.length_append, List.length_cons] at h
  rw [lineAt, Cursor.suffix_append]
  simp only [bind, Except.bind, Cursor.findIdx?_append_cons hline.not_mem]
  rw [Cursor.add_of_le (by omega)]
  simp only [Cursor.slice_append]
  rw [Cursor.add_of_le (by omega), hline.dropReturn_eq]
  simp only [pure, Except.pure, List.length_append, List.length_singleton]
  rw [Nat.add_comm line.length, Nat.add_assoc]

theorem lineAt_of_none (front : Bytes) (h : line? rest = none) :
    lineAt (front ++ rest) front.length = .ok none := by
  rw [lineAt, Cursor.suffix_append]
  simp only [bind, Except.bind, Cursor.findIdx?_of_not_mem (line?_eq_none_iff.mp h)]
  rfl

/-! ### The header block -/

/-- The headers of a block and the position of its body in a buffer of so many octets. -/
def HeaderBlock.span (total : Nat) (block : HeaderBlock) : HeaderSpan :=
  ⟨block.headers, block.declared, total - block.rest.length⟩

section HeaderLoop

variable {escaped : Bool} {limit start next : Nat} {read : List (String × String)}
  {declared : Option Nat}

theorem scanHeaders_of_none (h : lineAt buffer start = .ok none) :
    scanHeaders escaped limit buffer read declared start = .ok (.ok none) := by
  rw [scanHeaders]
  split <;> simp_all

theorem scanHeaders_of_blank (h : lineAt buffer start = .ok (some ([], next))) :
    scanHeaders escaped limit buffer read declared start =
      .ok (.ok (some ⟨read.reverse, declared, next⟩)) := by
  rw [scanHeaders]
  split <;> simp_all

/-- One step over a line that is not empty. -/
theorem scanHeaders_of_line (h : lineAt buffer start = .ok (some (content, next)))
    (hcontent : content ≠ []) :
    scanHeaders escaped limit buffer read declared start =
      match readHeader escaped content with
      | .error cause => .ok (.error cause)
      | .ok header =>
        match declare limit declared header with
        | .error cause => .ok (.error cause)
        | .ok declared => scanHeaders escaped limit buffer (header :: read) declared next := by
  rw [scanHeaders]
  split
  · simp_all
  · simp_all
  · simp_all
  · rename_i hfound
    rw [h] at hfound
    cases hfound
    rfl

/-- A header block is read from wherever it starts. -/
theorem scanHeaders_append (front rest : Bytes) (h : (front ++ rest).length ≤ maxUnsigned64) :
    scanHeaders escaped limit (front ++ rest) read declared front.length =
      .ok ((readHeaders escaped limit read declared rest).map
        (Option.map (HeaderBlock.span (front ++ rest).length))) := by
  fun_induction readHeaders escaped limit read declared rest generalizing front with
  | case1 read declared rest hnone => exact scanHeaders_of_none (lineAt_of_none front hnone)
  | case2 read declared rest after hfound =>
    obtain ⟨line, hline, rfl⟩ := exists_line_of_line? hfound
    have hspan : (front ++ (line ++ 0x0A :: after)).length - after.length =
        (front ++ (line ++ [0x0A])).length := by
      simp only [List.length_append, List.length_cons, List.length_nil]
      omega
    rw [scanHeaders_of_blank (lineAt_append hline h)]
    simp only [Except.map, Option.map_some, HeaderBlock.span, hspan]
  | case3 read declared rest octet line after hfound cause hread =>
    obtain ⟨line, hline, rfl⟩ := exists_line_of_line? hfound
    rw [scanHeaders_of_line (lineAt_append hline h) (List.cons_ne_nil _ _), hread]
    rfl
  | case4 read declared rest octet line after hfound header hread cause hdeclare =>
    obtain ⟨line, hline, rfl⟩ := exists_line_of_line? hfound
    rw [scanHeaders_of_line (lineAt_append hline h) (List.cons_ne_nil _ _), hread]
    simp only [hdeclare]
    rfl
  | case5 read declared rest octet line after hfound header hread next hdeclare ih =>
    obtain ⟨line, hline, rfl⟩ := exists_line_of_line? hfound
    have hwhole : ∀ line : Bytes, front ++ (line ++ 0x0A :: after) =
        front ++ (line ++ [0x0A]) ++ after := by simp
    rw [scanHeaders_of_line (lineAt_append hline h) (List.cons_ne_nil _ _), hread]
    simp only [hdeclare]
    rw [hwhole] at h ⊢
    exact ih _ h

end HeaderLoop

/-! ### The body -/

/-- What the octets of a buffer come to. -/
def settle (codec : Codec) (buffer : Bytes) : Except CodecError Need → Decoded
  | .error cause => .invalid cause buffer
  | .ok (.atLeast octets) => wait codec buffer octets
  | .ok (.complete frame rest) =>
    if codec.maxFrameBytes < buffer.length - rest.length then
      .invalid (.tooLarge codec.maxFrameBytes) buffer
    else .frame frame rest

theorem settle_complete (codec : Codec) (buffer : Bytes) (frame : Frame) (rest : Bytes) :
    settle codec buffer (.ok (.complete frame rest)) =
      if codec.maxFrameBytes < buffer.length - rest.length then
        .invalid (.tooLarge codec.maxFrameBytes) buffer
      else .frame frame rest :=
  rfl

theorem decode_eq_settle (codec : Codec) (buffer : Bytes) :
    codec.decode buffer =
      if (skipLineEnds buffer).isEmpty then .more (skipLineEnds buffer)
      else settle codec (skipLineEnds buffer) (readFrame codec (skipLineEnds buffer)) := by
  unfold decode settle wait
  rfl

/-- A frame is cut off the buffer with its NUL. -/
theorem cut_append {command : Command} {headers : List (String × String)} {declared : Option Nat}
    {body : Bytes} (h : (front ++ (body ++ 0x00 :: rest)).length ≤ maxUnsigned64) :
    cut codec (front ++ (body ++ 0x00 :: rest)) command ⟨headers, declared, front.length⟩
        (front.length + body.length) =
      .ok (settle codec (front ++ (body ++ 0x00 :: rest))
        (.ok (.complete ⟨command, headers, body⟩ rest))) := by
  have hsplit : front ++ (body ++ 0x00 :: rest) = front ++ (body ++ [0x00]) ++ rest := by simp
  have hstop : front.length + body.length + 1 = (front ++ (body ++ [0x00])).length := by
    simp only [List.length_append, List.length_singleton]
    omega
  have htaken : (front ++ (body ++ 0x00 :: rest)).length - rest.length =
      (front ++ (body ++ [0x00])).length := by
    rw [hsplit, List.length_append]
    omega
  have hfits : (front ++ (body ++ [0x00])).length ≤ maxUnsigned64 := by
    omega
  rw [settle_complete, htaken, cut, Cursor.add_of_le (hstop ▸ hfits), hstop]
  simp only [bind, Except.bind]
  split
  · rfl
  · rw [hsplit, Cursor.split_append]
    simp only [Cursor.split_append]
    rw [Cursor.distance_add]
    simp only [Cursor.slice_zero]
    rfl

/-- A body whose length was declared is found behind the headers in front of it. -/
theorem scanBody_append_of_some {command : Command} {headers : List (String × String)}
    {length : Nat} (front after : Bytes) (h : (front ++ after).length ≤ maxUnsigned64) :
    scanBody codec (front ++ after) command ⟨headers, some length, front.length⟩ =
      .ok (settle codec (front ++ after)
        (readBody codec.maxFrameBytes (front ++ after).length command
          ⟨headers, some length, after⟩)) := by
  have hstart : (front ++ after).length - after.length = front.length := by
    rw [List.length_append]
    omega
  rw [scanBody, readBody]
  simp only [hstart]
  by_cases hlarge : maxUnsigned64 < front.length + length
  · rw [if_pos hlarge, Cursor.add, if_pos hlarge]
    rfl
  · rw [if_neg hlarge, Cursor.add_of_le (Nat.le_of_not_lt hlarge)]
    cases hdrop : after.drop length with
    | nil =>
      have hunfinished : (front ++ after).length ≤ front.length + length := by
        rw [List.length_append]
        have hle := List.drop_eq_nil_iff.mp hdrop
        omega
      simp only [if_pos hunfinished]
      rfl
    | cons octet rest =>
      have hlength : (after.take length).length = length := by
        have hrest := congrArg List.length hdrop
        rw [List.length_drop, List.length_cons] at hrest
        rw [List.length_take]
        omega
      obtain ⟨body, rfl, rfl⟩ : ∃ body : Bytes, body.length = length ∧
          after = body ++ octet :: rest :=
        ⟨after.take length, hlength, by rw [← hdrop, List.take_append_drop]⟩
      have hfinished : ¬(front ++ (body ++ octet :: rest)).length ≤ front.length + body.length := by
        simp only [List.length_append, List.length_cons]
        omega
      simp only [if_neg hfinished, Cursor.octet_append, bind, Except.bind, List.take_left]
      by_cases hnul : octet = 0x00
      · subst hnul
        rw [if_neg (by decide), if_pos rfl, cut_append h]
      · rw [if_pos (bne_iff_ne.mpr hnul), if_neg hnul]
        rfl

/-- A body that ends at its first NUL is found behind the headers in front of it. -/
theorem scanBody_append_of_none {command : Command} {headers : List (String × String)}
    (front after : Bytes) (h : (front ++ after).length ≤ maxUnsigned64) :
    scanBody codec (front ++ after) command ⟨headers, none, front.length⟩ =
      .ok (settle codec (front ++ after)
        (readBody codec.maxFrameBytes (front ++ after).length command
          ⟨headers, none, after⟩)) := by
  rw [scanBody]
  simp only [Cursor.suffix_append, bind, Except.bind]
  by_cases hnul : 0x00 ∈ after
  · obtain ⟨body, rest, rfl, hbody⟩ := List.eq_append_cons_of_mem hnul
    have hread : readBody codec.maxFrameBytes (front ++ (body ++ 0x00 :: rest)).length command
        ⟨headers, none, body ++ 0x00 :: rest⟩ = .ok (.complete ⟨command, headers, body⟩ rest) :=
      readBody_eq_complete_iff.mpr ⟨rfl, rfl, rfl, hbody, fun hsome ↦ by cases hsome⟩
    have hfits : front.length + body.length ≤ maxUnsigned64 := by
      simp only [List.length_append] at h
      omega
    rw [hread, Cursor.findIdx?_append_cons hbody]
    simp only
    rw [Cursor.add_of_le hfits]
    exact cut_append h
  · have hdrop : after.dropWhile (· != 0x00) = [] := by
      refine List.dropWhile_eq_nil_iff.mpr fun octet hmem ↦ bne_iff_ne.mpr ?_
      rintro rfl
      exact hnul hmem
    rw [Cursor.findIdx?_of_not_mem hnul, readBody]
    simp only [hdrop]
    rfl

/-! ### The whole frame -/

/-- A frame is found from its command line on. -/
theorem scanFrame_eq (h : buffer.length ≤ maxUnsigned64) :
    scanFrame codec buffer = .ok (settle codec buffer (readFrame codec buffer)) := by
  rw [scanFrame]
  cases hline : line? buffer with
  | none =>
    have hfound := lineAt_of_none [] hline
    rw [List.nil_append, List.length_nil] at hfound
    rw [hfound, readFrame_of_none hline]
    rfl
  | some parts =>
    obtain ⟨content, rest⟩ := parts
    obtain ⟨first, hfirst, rfl⟩ := exists_line_of_line? hline
    have hfound := @lineAt_append [] first content rest hfirst h
    have hsplit : first ++ 0x0A :: rest = first ++ [0x0A] ++ rest := by simp
    rw [List.nil_append, List.length_nil, List.nil_append] at hfound
    rw [hfound, readFrame_of_line hline]
    simp only [bind, Except.bind]
    cases readCommand content with
    | error cause => rfl
    | ok command =>
      simp only
      rw [hsplit] at h ⊢
      rw [scanHeaders_append _ _ h]
      cases hheaders : readHeaders (escapes codec.version command) codec.maxFrameBytes [] none
        rest with
      | error cause => rfl
      | ok found =>
        cases found with
        | none => rfl
        | some block =>
          obtain ⟨headers, declared, after⟩ := block
          obtain ⟨lines, blank, -, -, -, -, -, rfl⟩ := headerLines_of_readHeaders hheaders
          have hwhole : first ++ [0x0A] ++ (lines ++ (blank ++ 0x0A :: after)) =
              first ++ [0x0A] ++ (lines ++ (blank ++ [0x0A])) ++ after := by simp
          have hspan : (first ++ [0x0A] ++ (lines ++ (blank ++ 0x0A :: after))).length -
              after.length = (first ++ [0x0A] ++ (lines ++ (blank ++ [0x0A]))).length := by
            rw [hwhole, List.length_append]
            omega
          simp only [Except.map, Option.map_some, HeaderBlock.span, hspan]
          rw [hwhole] at h ⊢
          cases declared with
          | some length => exact scanBody_append_of_some _ _ h
          | none => exact scanBody_append_of_none _ _ h

/-- Reading by position never faults, and finds what decoding finds. -/
theorem scan_eq_decode (codec : Codec) {buffer : Bytes} (h : buffer.length ≤ maxUnsigned64) :
    codec.scan buffer = .ok (codec.decode buffer) := by
  obtain ⟨ends, -, hsplit⟩ := exists_lineEnds_append buffer
  have hskip : buffer.length - (skipLineEnds buffer).length = ends.length := by
    have hlength := congrArg List.length hsplit
    rw [List.length_append] at hlength
    omega
  have hcut : Cursor.split buffer ends.length = .ok (ends, skipLineEnds buffer) := by
    conv => lhs; rw [hsplit]
    exact Cursor.split_append
  have hfrom := skipFrom_append [] buffer h
  rw [List.nil_append, List.length_nil, hskip] at hfrom
  rw [scan, hfrom, decode_eq_settle]
  simp only [bind, Except.bind, hcut]
  split
  · rfl
  · exact scanFrame_eq (Nat.le_trans (length_skipLineEnds_le buffer) h)

end Codec

end StompBroker
