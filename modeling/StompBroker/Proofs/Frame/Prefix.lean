import StompBroker.Proofs.Frame.Grammar

/-!
# Frames and octets that arrive later

A buffer may hold only the front of what its sender wrote. What `Codec.decode` finds there stays
found when `more` octets arrive: a frame is the same frame (`decode_append_of_frame`), a buffer that
waits is decoded later as what was left of it (`decode_append_of_more`), and an invalid buffer
stays invalid (`decode_append_of_invalid`). The reason may then be another one, but only if the
front was refused for its size. A front of one CR has to fit into the limit for that, since the CR
may turn out to belong to a line end.

The size at which a buffer is refused is the `Need.extent` of what it holds, and it never shrinks
(`extent_le_of_readFrame_append`).
-/

set_option autoImplicit false

namespace StompBroker.Codec

/-! ### Line ends at the front -/

/-- Octets that arrive after something else than line ends are not skipped. -/
theorem skipLineEnds_append_of_ne {buffer : Bytes} (hempty : skipLineEnds buffer ≠ [])
    (hreturn : skipLineEnds buffer ≠ [0x0D]) (more : Bytes) :
    skipLineEnds (buffer ++ more) = skipLineEnds buffer ++ more := by
  fun_induction skipLineEnds buffer with
  | case1 rest ih =>
    rw [List.cons_append, skipLineEnds]
    exact ih hempty hreturn
  | case2 rest ih =>
    rw [List.cons_append, List.cons_append, skipLineEnds]
    exact ih hempty hreturn
  | case3 buffer hfeed hreturnFeed =>
    rcases buffer with _ | ⟨octet, _ | ⟨next, rest⟩⟩
    · exact absurd rfl hempty
    · refine skipLineEnds_cons_of_ne ?_ ?_
      · rintro rfl
        exact hfeed [] rfl
      · rintro rfl
        exact hreturn rfl
    · rw [List.cons_append, List.cons_append, skipLineEnds]
      · rintro tail ⟨⟩
        exact hfeed _ rfl
      · rintro tail ⟨⟩
        exact hreturnFeed _ rfl

/-- The line ends at the front of a buffer have no part in what it is decoded as. -/
theorem decode_congr {codec : Codec} {left right : Bytes}
    (h : skipLineEnds left = skipLineEnds right) : codec.decode left = codec.decode right := by
  unfold decode
  rw [h]

/-! ### What a buffer is known to need -/

/-- The octets that a frame takes, as far as they are known. -/
def Need.extent (total : Nat) : Need → Nat
  | .complete _ rest => total - rest.length
  | .atLeast octets => octets

theorem decode_eq_more_iff {codec : Codec} {buffer left : Bytes} :
    codec.decode buffer = .more left ↔
      left = skipLineEnds buffer ∧
        ∃ octets, readFrame codec left = .ok (.atLeast octets) ∧ octets ≤ codec.maxFrameBytes := by
  unfold decode
  simp only
  constructor
  · intro h
    split at h
    · rename_i hempty
      cases h
      refine ⟨rfl, 0, ?_, Nat.zero_le _⟩
      rw [List.isEmpty_iff.mp hempty, readFrame_of_none rfl]
      rfl
    · split at h
      · cases h
      · rename_i octets hread
        split at h
        · cases h
        · rename_i hfits
          cases h
          exact ⟨rfl, octets, hread, by omega⟩
      · split at h <;> cases h
  · rintro ⟨rfl, octets, hread, hfits⟩
    split
    · rfl
    · rw [hread]
      simp only
      rw [if_neg (by omega)]

theorem decode_eq_invalid_iff {codec : Codec} {buffer left : Bytes} {cause : CodecError} :
    codec.decode buffer = .invalid cause left ↔
      left = skipLineEnds buffer ∧
        (readFrame codec left = .error cause ∨
          cause = .tooLarge codec.maxFrameBytes ∧
            ∃ need, readFrame codec left = .ok need ∧
              codec.maxFrameBytes < need.extent left.length) := by
  unfold decode
  simp only
  constructor
  · intro h
    split at h
    · cases h
    · split at h
      · rename_i hread
        cases h
        exact ⟨rfl, .inl hread⟩
      · rename_i octets hread
        split at h
        · rename_i hlarge
          cases h
          exact ⟨rfl, .inr ⟨rfl, _, hread, hlarge⟩⟩
        · cases h
      · rename_i frame rest hread
        split at h
        · rename_i hlarge
          cases h
          exact ⟨rfl, .inr ⟨rfl, _, hread, hlarge⟩⟩
        · cases h
  · rintro ⟨rfl, hread⟩
    split
    · rename_i hempty
      rw [List.isEmpty_iff.mp hempty, readFrame_of_none rfl] at hread
      rcases hread with hread | ⟨-, need, hread, hlarge⟩
      · cases hread
      · cases hread
        simp [Need.extent] at hlarge
    · rcases hread with hread | ⟨rfl, need, hread, hlarge⟩
      · rw [hread]
      · rw [hread]
        cases need with
        | complete frame rest =>
          simp only [Need.extent] at hlarge
          simp only [hlarge, if_true]
        | atLeast octets =>
          simp only [Need.extent] at hlarge
          simp only [hlarge, if_true]

/-- What a frame is followed by does not matter to its grammar. -/
theorem Spelled.append {codec : Codec} {input rest : Bytes} {frame : Frame}
    (h : Spelled codec input frame rest) (more : Bytes) :
    Spelled codec (input ++ more) frame (rest ++ more) := by
  obtain ⟨first, block, blank, hspelling, rfl⟩ := h
  exact ⟨first, block, blank, hspelling, by simp⟩

/-- A frame takes some octets. -/
theorem Spelled.length_lt {codec : Codec} {input rest : Bytes} {frame : Frame}
    (h : Spelled codec input frame rest) : rest.length < input.length := by
  obtain ⟨first, block, blank, -, rfl⟩ := h
  simp only [List.length_append, List.length_cons]
  omega

/-! ### The stages of the reader -/

theorem readHeaders_append_of_error {escaped : Bool} {limit : Nat} {read : List (String × String)}
    {declared : Option Nat} {buffer : Bytes} {cause : CodecError}
    (h : readHeaders escaped limit read declared buffer = .error cause) (more : Bytes) :
    readHeaders escaped limit read declared (buffer ++ more) = .error cause := by
  fun_induction readHeaders escaped limit read declared buffer with
  | case1 read declared buffer hnone => cases h
  | case2 read declared buffer rest hfound => cases h
  | case3 read declared buffer octet line rest hfound other hread =>
    rw [readHeaders_of_line (line?_append hfound more) (by simp), hread]
    exact h
  | case4 read declared buffer octet line rest hfound header hread other hdeclare =>
    rw [readHeaders_of_line (line?_append hfound more) (by simp), hread]
    simp only [hdeclare]
    exact h
  | case5 read declared buffer octet line rest hfound header hread next hdeclare ih =>
    rw [readHeaders_of_line (line?_append hfound more) (by simp), hread]
    simp only [hdeclare]
    exact ih h

theorem readHeaders_append_of_some {escaped : Bool} {limit : Nat} {read : List (String × String)}
    {declared : Option Nat} {buffer : Bytes} {block : HeaderBlock}
    (h : readHeaders escaped limit read declared buffer = .ok (some block)) (more : Bytes) :
    readHeaders escaped limit read declared (buffer ++ more) =
      .ok (some { block with rest := block.rest ++ more }) := by
  obtain ⟨lines, blank, headers, hlines, hblank, hfold, hheaders, rfl⟩ :=
    headerLines_of_readHeaders h
  rw [List.append_assoc, List.append_assoc, List.cons_append,
    readHeaders_of_headerLines hlines hblank hfold, hheaders]

/-- The body of a refused frame stays refused. -/
theorem readBody_append_of_error {limit total : Nat} {command : Command} {block : HeaderBlock}
    {cause : CodecError} (h : readBody limit total command block = .error cause) (more : Bytes) :
    readBody limit (total + more.length) command { block with rest := block.rest ++ more } =
      .error cause := by
  obtain ⟨headers, declared, rest⟩ := block
  have htotal : total + more.length - (rest ++ more).length = total - rest.length := by
    rw [List.length_append]
    omega
  unfold readBody at *
  cases declared with
  | none =>
    simp only at h
    split at h <;> cases h
  | some length =>
    simp only [htotal] at h ⊢
    split at h
    · rename_i hlarge
      rw [if_pos hlarge]
      exact h
    · rename_i hfits
      rw [if_neg hfits]
      split at h
      · cases h
      · rename_i octet tail hdrop
        have hlength : length ≤ rest.length := by
          have hnonempty := congrArg List.length hdrop
          rw [List.length_drop, List.length_cons] at hnonempty
          omega
        rw [List.drop_append_of_le_length hlength, hdrop]
        split at h
        · cases h
        · rename_i hzero
          simp only [List.cons_append, if_neg hzero]
          exact h

/-- A body that waits for its declared length keeps on needing as much as it did. -/
theorem extent_le_of_readBody_append {limit total length : Nat} {command : Command}
    {block : HeaderBlock} {need : Need} {more : Bytes} (hdeclared : block.declared = some length)
    (h : readBody limit (total + more.length) command
      { block with rest := block.rest ++ more } = .ok need) (htotal : block.rest.length ≤ total) :
    min (total - block.rest.length + length + 1) maxUnsigned64 ≤
      need.extent (total + more.length) := by
  obtain ⟨headers, declared, rest⟩ := block
  subst hdeclared
  cases need with
  | atLeast octets =>
    unfold readBody at h
    simp only [List.length_append] at h htotal ⊢
    split at h
    · cases h
    · split at h
      · cases h
        simp only [Need.extent]
        omega
      · split at h <;> cases h
  | complete frame after =>
    obtain ⟨-, -, hrest, hlength, -⟩ := readBody_eq_complete_iff.mp h
    have hparts := congrArg List.length hrest
    have hbody : frame.body.length = length := hlength
    simp only [Need.extent, List.length_append, List.length_cons] at hparts htotal ⊢
    omega

/-- A body that waits has all of the buffer to itself, and may need more. -/
theorem le_of_readBody_eq_atLeast {limit total octets : Nat} {command : Command}
    {block : HeaderBlock} (h : readBody limit total command block = .ok (.atLeast octets))
    (htotal : block.rest.length ≤ total) :
    total ≤ octets ∧ (octets = total ∨ ∃ length, block.declared = some length ∧
      octets = min (total - block.rest.length + length + 1) maxUnsigned64) := by
  obtain ⟨headers, declared, rest⟩ := block
  unfold readBody at h
  simp only at h htotal ⊢
  cases declared with
  | none =>
    simp only at h
    split at h
    · cases h
      exact ⟨Nat.le_refl _, .inl rfl⟩
    · cases h
  | some length =>
    simp only at h
    split at h
    · cases h
    · split at h
      · rename_i hdrop
        cases h
        have hlength := List.drop_eq_nil_iff.mp hdrop
        exact ⟨by omega, .inr ⟨length, rfl, rfl⟩⟩
      · split at h <;> cases h

/-! ### One frame -/

/-- The octets of a frame that is refused, whatever follows them, are refused. -/
theorem readFrame_append_of_error {codec : Codec} {buffer : Bytes} {cause : CodecError}
    (h : readFrame codec buffer = .error cause) (more : Bytes) :
    readFrame codec (buffer ++ more) = .error cause := by
  cases hline : line? buffer with
  | none =>
    rw [readFrame_of_none hline] at h
    cases h
  | some parts =>
    obtain ⟨content, rest⟩ := parts
    rw [readFrame_of_line hline] at h
    rw [readFrame_of_line (line?_append hline more)]
    cases hcommand : readCommand content with
    | error other =>
      rw [hcommand] at h
      exact h
    | ok command =>
      rw [hcommand] at h
      simp only at h ⊢
      split at h
      · rename_i hheaders
        rw [readHeaders_append_of_error hheaders more]
        exact h
      · cases h
      · rename_i block hheaders
        rw [readHeaders_append_of_some hheaders more]
        simp only
        rw [List.length_append]
        exact readBody_append_of_error h more

theorem readFrame_append_of_complete {codec : Codec} {buffer rest : Bytes} {frame : Frame}
    (h : readFrame codec buffer = .ok (.complete frame rest)) (more : Bytes) :
    readFrame codec (buffer ++ more) = .ok (.complete frame (rest ++ more)) := by
  obtain ⟨hspelled, hfits⟩ := readFrame_eq_complete_iff.mp h
  refine readFrame_eq_complete_iff.mpr ⟨hspelled.append more, fun hdeclared ↦ ?_⟩
  have hlast := hfits hdeclared
  simp only [List.length_append]
  omega

/-- A frame that is not complete yet takes more than all that has arrived. -/
theorem length_lt_of_readFrame_append {codec : Codec} {buffer more rest : Bytes} {frame : Frame}
    {octets : Nat} (h : readFrame codec buffer = .ok (.atLeast octets))
    (hmore : readFrame codec (buffer ++ more) = .ok (.complete frame rest)) :
    buffer.length < (buffer ++ more).length - rest.length := by
  obtain ⟨⟨first, block, blank, hspelling, hsplit⟩, hfits⟩ := readFrame_eq_complete_iff.mp hmore
  by_contra hshort
  -- otherwise the frame ends inside of the buffer, which would then be complete
  have htail : ∃ tail, rest = tail ++ more := by
    have hle : more.length ≤ rest.length := by
      rw [List.length_append] at hshort
      omega
    have hsuffix : more <:+ rest := by
      refine List.suffix_of_suffix_length_le (List.suffix_append buffer more) ?_ hle
      rw [hsplit]
      exact ⟨first ++ 0x0A :: (block ++ (blank ++ 0x0A :: (frame.body ++ [0x00]))), by simp⟩
    obtain ⟨tail, htail⟩ := hsuffix
    exact ⟨tail, htail.symm⟩
  obtain ⟨tail, rfl⟩ := htail
  have hbuffer : buffer =
      first ++ 0x0A :: (block ++ (blank ++ 0x0A :: (frame.body ++ 0x00 :: tail))) := by
    have hjoined : buffer ++ more =
        (first ++ 0x0A :: (block ++ (blank ++ 0x0A :: (frame.body ++ 0x00 :: tail)))) ++ more := by
      rw [hsplit]
      simp
    exact List.append_cancel_right hjoined
  have hcomplete : readFrame codec buffer = .ok (.complete frame tail) := by
    refine readFrame_eq_complete_iff.mpr ⟨⟨first, block, blank, hspelling, hbuffer⟩, ?_⟩
    intro hdeclared
    have hlast := hfits hdeclared
    simp only [List.length_append] at hlast
    omega
  rw [hcomplete] at h
  cases h

/-- What is read of the headers is part of the buffer. -/
theorem length_rest_le_of_readHeaders {escaped : Bool} {limit : Nat} {buffer : Bytes}
    {block : HeaderBlock} (h : readHeaders escaped limit [] none buffer = .ok (some block)) :
    block.rest.length ≤ buffer.length := by
  obtain ⟨lines, blank, headers, -, -, -, -, rfl⟩ := headerLines_of_readHeaders h
  simp only [List.length_append, List.length_cons]
  omega

/-- What waits is never longer than what it waits for. -/
theorem length_le_of_readFrame_eq_atLeast {codec : Codec} {buffer : Bytes} {octets : Nat}
    (h : readFrame codec buffer = .ok (.atLeast octets)) : buffer.length ≤ octets := by
  cases hline : line? buffer with
  | none =>
    rw [readFrame_of_none hline] at h
    cases h
    exact Nat.le_refl _
  | some parts =>
    obtain ⟨content, rest⟩ := parts
    rw [readFrame_of_line hline] at h
    split at h
    · cases h
    · split at h
      · cases h
      · cases h
        exact Nat.le_refl _
      · rename_i block hheaders
        have htotal : block.rest.length ≤ buffer.length :=
          Nat.le_trans (length_rest_le_of_readHeaders hheaders)
            (Nat.le_of_lt (length_lt_of_line? hline))
        exact (le_of_readBody_eq_atLeast h htotal).1

theorem length_le_extent {codec : Codec} {buffer more : Bytes} {octets : Nat} {later : Need}
    (h : readFrame codec buffer = .ok (.atLeast octets))
    (hlater : readFrame codec (buffer ++ more) = .ok later) :
    buffer.length ≤ later.extent (buffer ++ more).length := by
  cases later with
  | complete frame rest => exact Nat.le_of_lt (length_lt_of_readFrame_append h hlater)
  | atLeast needed =>
    have hle := length_le_of_readFrame_eq_atLeast hlater
    rw [List.length_append] at hle
    simp only [Need.extent]
    omega

/-- A frame never turns out to take less than it was known to take. -/
theorem extent_le_of_readFrame_append {codec : Codec} {buffer more : Bytes} {need later : Need}
    (h : readFrame codec buffer = .ok need)
    (hlater : readFrame codec (buffer ++ more) = .ok later) :
    need.extent buffer.length ≤ later.extent (buffer ++ more).length := by
  cases need with
  | complete frame rest =>
    rw [readFrame_append_of_complete h more] at hlater
    cases hlater
    simp only [Need.extent, List.length_append]
    omega
  | atLeast octets =>
    -- either everything that arrived is needed, or a declared length says what is
    suffices hneed : octets = buffer.length ∨ octets ≤ later.extent (buffer ++ more).length by
      rcases hneed with rfl | hneed
      · exact length_le_extent h hlater
      · exact hneed
    cases hline : line? buffer with
    | none =>
      rw [readFrame_of_none hline] at h
      cases h
      exact .inl rfl
    | some parts =>
      obtain ⟨content, rest⟩ := parts
      rw [readFrame_of_line hline] at h
      rw [readFrame_of_line (line?_append hline more)] at hlater
      cases hcommand : readCommand content with
      | error cause =>
        rw [hcommand] at h
        cases h
      | ok command =>
        rw [hcommand] at h hlater
        simp only at h hlater
        split at h
        · cases h
        · cases h
          exact .inl rfl
        · rename_i block hheaders
          rw [readHeaders_append_of_some hheaders more] at hlater
          simp only [List.length_append] at hlater
          have htotal : block.rest.length ≤ buffer.length :=
            Nat.le_trans (length_rest_le_of_readHeaders hheaders)
            (Nat.le_of_lt (length_lt_of_line? hline))
          obtain ⟨-, hall | ⟨length, hdeclared, rfl⟩⟩ := le_of_readBody_eq_atLeast h htotal
          · exact .inl hall
          · rw [List.length_append]
            exact .inr (extent_le_of_readBody_append hdeclared hlater htotal)

/-! ### Decoding -/

/-- A frame at the front of a buffer is still there when more arrives. -/
theorem decode_append_of_frame {codec : Codec} {buffer rest : Bytes} {frame : Frame}
    (h : codec.decode buffer = .frame frame rest) (more : Bytes) :
    codec.decode (buffer ++ more) = .frame frame (rest ++ more) := by
  obtain ⟨hread, hfits⟩ := decode_eq_frame_iff.mp h
  have hskip : skipLineEnds (buffer ++ more) = skipLineEnds buffer ++ more := by
    refine skipLineEnds_append_of_ne (fun hempty ↦ ?_) (fun hreturn ↦ ?_) more
    · rw [hempty, readFrame_of_none rfl] at hread
      cases hread
    · rw [hreturn, readFrame_of_none rfl] at hread
      cases hread
  refine decode_eq_frame_iff.mpr ⟨?_, ?_⟩
  · rw [hskip]
    exact readFrame_append_of_complete hread more
  · rw [hskip]
    simp only [List.length_append]
    omega

/-- What waits in a buffer is decoded later as if it had been there all along. -/
theorem decode_append_of_more {codec : Codec} {buffer left : Bytes}
    (h : codec.decode buffer = .more left) (more : Bytes) :
    codec.decode (buffer ++ more) = codec.decode (left ++ more) := by
  obtain ⟨rfl, -⟩ := decode_eq_more_iff.mp h
  exact decode_congr (skipLineEnds_append buffer more)

/-- An invalid buffer stays invalid, for the same reason unless it was refused for its size. -/
theorem decode_append_of_invalid {codec : Codec} (hlimit : 1 ≤ codec.maxFrameBytes)
    {buffer left : Bytes} {cause : CodecError} (h : codec.decode buffer = .invalid cause left)
    (more : Bytes) :
    ∃ other, codec.decode (buffer ++ more) = .invalid other (left ++ more) ∧
      (cause = other ∨ cause = .tooLarge codec.maxFrameBytes) := by
  obtain ⟨rfl, hread⟩ := decode_eq_invalid_iff.mp h
  have hskip : skipLineEnds (buffer ++ more) = skipLineEnds buffer ++ more := by
    refine skipLineEnds_append_of_ne (fun hempty ↦ ?_) (fun hreturn ↦ ?_) more
    · rw [hempty, readFrame_of_none rfl] at hread
      rcases hread with hread | ⟨-, need, hread, hlarge⟩
      · cases hread
      · cases hread
        simp only [Need.extent, List.length_nil] at hlarge
        omega
    · rw [hreturn, readFrame_of_none rfl] at hread
      rcases hread with hread | ⟨-, need, hread, hlarge⟩
      · cases hread
      · cases hread
        simp only [Need.extent, List.length_singleton] at hlarge
        omega
  rcases hread with herror | ⟨rfl, need, hneed, hlarge⟩
  · exact ⟨cause, decode_eq_invalid_iff.mpr
      ⟨hskip.symm, .inl (readFrame_append_of_error herror more)⟩, .inl rfl⟩
  · cases hlater : readFrame codec (skipLineEnds buffer ++ more) with
    | error other =>
      exact ⟨other, decode_eq_invalid_iff.mpr ⟨hskip.symm, .inl hlater⟩, .inr rfl⟩
    | ok later =>
      have hextent := extent_le_of_readFrame_append hneed hlater
      exact ⟨_, decode_eq_invalid_iff.mpr
        ⟨hskip.symm, .inr ⟨rfl, later, hlater, by omega⟩⟩, .inr rfl⟩

end StompBroker.Codec
