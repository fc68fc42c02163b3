import StompBroker.Proofs.Text.Lossy
import StompBroker.Text.Boundary
import StompBroker.Text.Fitting

/-!
# Where texts are cut off

The octets of a character are one that continues nothing and then only such as continue it
(`exists_lead`). So the test on a single octet tells the positions between characters from those
inside of one, and these are the positions at which a text comes apart into two texts
(`isBoundary_encode_iff`).

The first position is one of them. Stepping back from a limit therefore ends, at the last of them
that is not behind the limit (`exists_boundaryFrom`), and what is cut off there is a text, the
longest front that fits (`exists_kept`). The character behind it does not fit, which is why no more
than three octets of the limit are lost (`Kept.limit_le`). `exists_truncation` says this of both
ways to cut, which never take a misstep.
-/

set_option autoImplicit false

namespace StompBroker

/-! ### Octets of characters -/

namespace Utf8

theorem length_encode (text : String) : (encode text).length = text.utf8ByteSize :=
  rfl

theorem isTail_of_mem_followers {lead : UInt8} {ranges : List (UInt8 → Bool)}
    (h : followers lead = some ranges) :
    ∀ range ∈ ranges, ∀ octet, range octet = true → isTail octet = true := by
  have hthree : ∀ octet, secondOfThree lead octet = true → isTail octet = true :=
    fun octet hoctet ↦ isTail_iff.mpr (secondOfThree_iff.mp hoctet).1
  have hfour : ∀ octet, secondOfFour lead octet = true → isTail octet = true :=
    fun octet hoctet ↦ isTail_iff.mpr (secondOfFour_iff.mp hoctet).1
  unfold followers at h
  split_ifs at h <;> cases h
  · simp
  · simp
  · simpa using hthree
  · simpa using hfour

theorem Fits.forall_mem {ranges : List (UInt8 → Bool)} {octets : Bytes} (h : Fits ranges octets)
    {property : UInt8 → Prop}
    (hranges : ∀ range ∈ ranges, ∀ octet, range octet = true → property octet) :
    ∀ octet ∈ octets, property octet := by
  induction h with
  | nil => exact fun _ hoctet ↦ absurd hoctet List.not_mem_nil
  | cons hrange _ ih =>
    obtain ⟨hfirst, hrest⟩ := List.forall_mem_cons.mp hranges
    exact List.forall_mem_cons.mpr ⟨hfirst _ hrange, ih hrest⟩

theorem isTail_eq_false_of_followers {lead : UInt8} {ranges : List (UInt8 → Bool)}
    (h : followers lead = some ranges) : isTail lead = false := by
  rw [Bool.eq_false_iff]
  intro htail
  obtain ⟨hleast, hmost⟩ := isTail_iff.mp htail
  have hone : ¬lead < 0x80 := UInt8.not_lt.mpr (UInt8.le_iff_toNat_le.mpr hleast)
  have hnone : lead < 0xC2 := UInt8.lt_iff_toNat_lt.mpr (Nat.lt_of_le_of_lt hmost (by decide))
  rw [followers, if_neg hone, if_pos hnone] at h
  cases h

/-- The first octet of a character continues nothing, and the others continue the character. -/
theorem exists_lead (c : Char) :
    ∃ lead tail, String.utf8EncodeChar c = lead :: tail ∧ isTail lead = false ∧
      ∀ octet ∈ tail, isTail octet = true := by
  obtain ⟨lead, tail, hoctets⟩ := List.exists_cons_of_ne_nil (String.utf8EncodeChar_ne_nil (c := c))
  obtain ⟨ranges, hranges, hfits, -⟩ := followers_of_utf8EncodeChar hoctets
  exact ⟨lead, tail, hoctets, isTail_eq_false_of_followers hranges,
    hfits.forall_mem (isTail_of_mem_followers hranges)⟩

theorem isTail_head?_flatMap (chars : List Char) :
    ∀ octet ∈ (chars.flatMap String.utf8EncodeChar).head?, isTail octet = false := by
  cases chars with
  | nil => simp
  | cons c chars =>
    obtain ⟨lead, tail, hoctets, hlead, -⟩ := exists_lead c
    rw [List.flatMap_cons, hoctets, List.cons_append, List.head?_cons]
    rintro octet ⟨⟩
    exact hlead

end Utf8

namespace Text

variable {left right : Bytes} {text kept : String} {limit position : Nat}

/-! ### Boundaries -/

theorem isBoundary_zero (octets : Bytes) : isBoundary octets 0 = true :=
  rfl

/-- Octets in front only move the boundaries. -/
theorem isBoundary_append (hleft : left ≠ [])
    (hright : ∀ octet ∈ right.head?, Utf8.isTail octet = false) (position : Nat) :
    isBoundary (left ++ right) (left.length + position) = isBoundary right position := by
  have hpositive : left.length + position ≠ 0 := by
    have := List.length_pos_iff.mpr hleft
    omega
  rw [isBoundary, if_neg hpositive, List.getElem?_append_right (Nat.le_add_right _ _),
    Nat.add_sub_cancel_left, List.length_append]
  by_cases hstart : position = 0
  · subst hstart
    rw [isBoundary_zero]
    cases right with
    | nil => simp
    | cons octet right => simp [hright octet rfl]
  · rw [isBoundary, if_neg hstart]
    cases right[position]? with
    | none => simp
    | some octet => rfl

theorem isBoundary_inside {lead : UInt8} {tail : Bytes}
    (htail : ∀ octet ∈ tail, Utf8.isTail octet = true) (h : position < tail.length)
    (right : Bytes) : isBoundary (lead :: tail ++ right) (position + 1) = false := by
  have hoctet : (lead :: tail ++ right)[position + 1]? = some tail[position] := by
    rw [List.cons_append, List.getElem?_cons_succ, List.getElem?_append_left h,
      List.getElem?_eq_getElem h]
  rw [isBoundary, if_neg (Nat.succ_ne_zero position), hoctet]
  simp only [htail _ (List.getElem_mem h), Bool.not_true]

theorem isBoundary_nil_iff : isBoundary [] position = true ↔ position = 0 := by
  rw [isBoundary, List.getElem?_nil]
  split_ifs with hstart
  · exact iff_of_true rfl hstart
  · exact beq_iff_eq

/-- Inside of the first character there is no boundary. -/
theorem isBoundary_cons_iff {c : Char} {chars : List Char} :
    isBoundary ((c :: chars).flatMap String.utf8EncodeChar) position = true ↔
      position = 0 ∨ ∃ rest, position = (String.utf8EncodeChar c).length + rest ∧
        isBoundary (chars.flatMap String.utf8EncodeChar) rest = true := by
  have hmoves (rest : Nat) :
      isBoundary (String.utf8EncodeChar c ++ chars.flatMap String.utf8EncodeChar)
          ((String.utf8EncodeChar c).length + rest) =
        isBoundary (chars.flatMap String.utf8EncodeChar) rest :=
    isBoundary_append String.utf8EncodeChar_ne_nil (Utf8.isTail_head?_flatMap chars) rest
  rw [List.flatMap_cons]
  constructor
  · intro h
    rcases Nat.lt_or_ge position (String.utf8EncodeChar c).length with hinside | hbehind
    · obtain ⟨lead, tail, hoctets, -, htail⟩ := Utf8.exists_lead c
      rw [hoctets] at h hinside
      cases position with
      | zero => exact .inl rfl
      | succ inner =>
        rw [isBoundary_inside htail (Nat.lt_of_succ_lt_succ hinside)] at h
        cases h
    · obtain ⟨rest, rfl⟩ := Nat.exists_eq_add_of_le hbehind
      exact .inr ⟨rest, rfl, hmoves rest ▸ h⟩
  · rintro (rfl | ⟨rest, rfl, h⟩)
    · exact isBoundary_zero _
    · rw [hmoves, h]

/-- The position between two parts of the characters. -/
def Between (chars : List Char) (position : Nat) : Prop :=
  ∃ before after, chars = before ++ after ∧
    (before.flatMap String.utf8EncodeChar).length = position

theorem between_nil_iff : Between [] position ↔ position = 0 := by
  constructor
  · rintro ⟨before, after, hchars, rfl⟩
    rw [(List.append_eq_nil_iff.mp hchars.symm).1]
    rfl
  · rintro rfl
    exact ⟨[], [], rfl, rfl⟩

theorem between_cons_iff {c : Char} {chars : List Char} :
    Between (c :: chars) position ↔
      position = 0 ∨ ∃ rest, position = (String.utf8EncodeChar c).length + rest ∧
        Between chars rest := by
  constructor
  · rintro ⟨before, after, hchars, rfl⟩
    cases before with
    | nil => exact .inl rfl
    | cons first before =>
      obtain ⟨rfl, rfl⟩ := List.cons.inj hchars
      exact .inr ⟨_, by rw [List.flatMap_cons, List.length_append], before, after, rfl, rfl⟩
  · rintro (rfl | ⟨rest, rfl, before, after, rfl, rfl⟩)
    · exact ⟨[], c :: chars, rfl, rfl⟩
    · exact ⟨c :: before, after, rfl, by rw [List.flatMap_cons, List.length_append]⟩

theorem isBoundary_flatMap_iff {chars : List Char} :
    isBoundary (chars.flatMap String.utf8EncodeChar) position = true ↔
      Between chars position := by
  induction chars generalizing position with
  | nil => exact isBoundary_nil_iff.trans between_nil_iff.symm
  | cons c chars ih => simp only [isBoundary_cons_iff, between_cons_iff, ih]

/-- A text comes apart exactly at its boundaries. -/
theorem isBoundary_encode_iff :
    isBoundary (Utf8.encode text) position = true ↔
      ∃ before after, text = before ++ after ∧ before.utf8ByteSize = position := by
  rw [Utf8.encode_eq_flatMap, isBoundary_flatMap_iff]
  constructor
  · rintro ⟨before, after, hchars, hlength⟩
    refine ⟨String.ofList before, String.ofList after, ?_, ?_⟩
    · rw [← String.toList_inj, hchars]
      simp
    · rw [← Utf8.length_encode, Utf8.encode_eq_flatMap, String.toList_ofList, hlength]
  · rintro ⟨before, after, rfl, rfl⟩
    refine ⟨before.toList, after.toList, String.toList_append, ?_⟩
    rw [← Utf8.encode_eq_flatMap, Utf8.length_encode]

/-! ### The last boundary up to a limit -/

/-- Stepping back ends at the last boundary that is not behind the limit. -/
theorem exists_boundaryFrom (octets : Bytes) (limit : Nat) :
    ∃ position, boundaryFrom octets limit = .ok position ∧ position ≤ limit ∧
      isBoundary octets position = true ∧
      ∀ other ≤ limit, isBoundary octets other = true → other ≤ position := by
  induction limit with
  | zero => exact ⟨0, rfl, Nat.le_refl 0, rfl, fun other hother _ ↦ hother⟩
  | succ limit ih =>
    rw [boundaryFrom]
    by_cases hlimit : isBoundary octets (limit + 1) = true
    · rw [if_pos hlimit]
      exact ⟨limit + 1, rfl, Nat.le_refl _, hlimit, fun other hother _ ↦ hother⟩
    · rw [if_neg hlimit]
      obtain ⟨position, hposition, hle, hboundary, hlast⟩ := ih
      refine ⟨position, hposition, Nat.le_succ_of_le hle, hboundary, fun other hother h ↦ ?_⟩
      rcases Nat.le_succ_iff.mp hother with hsmall | rfl
      · exact hlast other hsmall h
      · exact absurd h hlimit

theorem front_encode_append (kept rest : String) :
    front (Utf8.encode (kept ++ rest)) kept.utf8ByteSize = .ok kept := by
  have hboundary := isBoundary_encode_iff.mpr ⟨kept, rest, rfl, rfl⟩
  have hoctets : (Utf8.encode (kept ++ rest)).take kept.utf8ByteSize = Utf8.encode kept := by
    rw [Utf8.encode_append, ← Utf8.length_encode, List.take_left]
  rw [front, if_pos hboundary, hoctets, Utf8.decode?_encode]

/-- The longest front of a text that fits into so many octets. -/
structure Kept (limit : Nat) (text kept : String) : Prop where
  front : ∃ rest, text = kept ++ rest
  fits : kept.utf8ByteSize ≤ limit
  longest : ∀ before after, text = before ++ after → before.utf8ByteSize ≤ limit →
    before.utf8ByteSize ≤ kept.utf8ByteSize

/-- What is kept ends where stepping back from the limit does. -/
theorem exists_kept (limit : Nat) (text : String) :
    ∃ kept, Kept limit text kept ∧
      boundaryFrom (Utf8.encode text) limit = .ok kept.utf8ByteSize ∧
      Text.front (Utf8.encode text) kept.utf8ByteSize = .ok kept := by
  obtain ⟨position, hposition, hle, hboundary, hlast⟩ :=
    exists_boundaryFrom (Utf8.encode text) limit
  obtain ⟨kept, rest, rfl, rfl⟩ := isBoundary_encode_iff.mp hboundary
  refine ⟨kept, ⟨⟨rest, rfl⟩, hle, fun before after htext hfits ↦ ?_⟩, hposition,
    front_encode_append kept rest⟩
  exact hlast _ hfits (isBoundary_encode_iff.mpr ⟨before, after, htext, rfl⟩)

namespace Kept

/-- A text that fits is kept whole. -/
theorem eq_of_le (h : Kept limit text kept) (hfits : text.utf8ByteSize ≤ limit) : kept = text := by
  obtain ⟨rest, rfl⟩ := h.front
  have hlongest := h.longest (kept ++ rest) "" String.append_empty.symm hfits
  rw [String.utf8ByteSize_append] at hlongest
  have hrest : rest = "" := String.utf8ByteSize_eq_zero_iff.mp (by omega)
  rw [hrest, String.append_empty]

/-- The character behind what is kept does not fit any more. -/
theorem lt_of_mem_head? {rest : String} {c : Char} (h : Kept limit (kept ++ rest) kept)
    (hnext : c ∈ rest.toList.head?) : limit < kept.utf8ByteSize + c.utf8Size := by
  obtain ⟨after, hrest⟩ := List.head?_eq_some_iff.mp hnext
  have htext : kept ++ rest = (kept ++ String.singleton c) ++ String.ofList after := by
    rw [← String.toList_inj]
    simp [hrest]
  have hlonger := h.longest _ _ htext
  rw [String.utf8ByteSize_append, String.utf8ByteSize_singleton] at hlonger
  have hpositive := Char.utf8Size_pos c
  omega

/-- No character has more than four octets. -/
theorem limit_le (h : Kept limit text kept) (hlong : limit < text.utf8ByteSize) :
    limit ≤ kept.utf8ByteSize + 3 := by
  obtain ⟨rest, rfl⟩ := h.front
  have hfits := h.fits
  have hrest : rest.toList ≠ [] := by
    intro hnil
    rw [String.toList_eq_nil_iff.mp hnil, String.append_empty] at hlong
    omega
  have hnext := h.lt_of_mem_head? (List.head_mem_head? hrest)
  have hfour := Char.utf8Size_le_four (rest.toList.head hrest)
  omega

end Kept

/-! ### Character by character -/

theorem length_flatMap_utf8EncodeChar (chars : List Char) :
    (chars.flatMap String.utf8EncodeChar).length = sizeOf chars := by
  induction chars with
  | nil => rfl
  | cons c chars ih =>
    rw [List.flatMap_cons, List.length_append, ih, String.length_utf8EncodeChar]
    rfl

theorem sizeOf_toList (text : String) : sizeOf text.toList = text.utf8ByteSize := by
  rw [← length_flatMap_utf8EncodeChar, ← Utf8.encode_eq_flatMap, Utf8.length_encode]

theorem fittingChars_append {before after : List Char} (hfits : sizeOf before ≤ limit)
    (hnext : ∀ c ∈ after.head?, limit < sizeOf before + c.utf8Size) :
    fittingChars limit (before ++ after) = before := by
  induction before generalizing limit with
  | nil =>
    cases after with
    | nil => rfl
    | cons c after =>
      have hlong : limit < 0 + c.utf8Size := hnext c rfl
      rw [List.nil_append, fittingChars, if_neg (by omega)]
  | cons first before ih =>
    have hsize : sizeOf (first :: before) = first.utf8Size + sizeOf before := rfl
    rw [hsize] at hfits hnext
    rw [List.cons_append, fittingChars, if_pos (by omega), ih (by omega)]
    intro c hc
    have hlong := hnext c hc
    omega

/-- Taking characters as long as they fit comes to the same. -/
theorem Kept.eq_fitting (h : Kept limit text kept) : kept = fitting limit text := by
  obtain ⟨rest, rfl⟩ := h.front
  have hsize : sizeOf kept.toList ≤ limit := by
    rw [sizeOf_toList]
    exact h.fits
  rw [fitting, String.toList_append, fittingChars_append hsize, String.ofList_toList]
  intro c hc
  rw [sizeOf_toList]
  exact h.lt_of_mem_head? hc

/-! ### Both ways to cut -/

/-- What is kept of a text at a limit, how much is lost, and what both ways to cut make of it. -/
structure Truncation (limit : Nat) (text kept : String) (lost : Nat) : Prop extends
    Kept limit text kept where
  whole : text.utf8ByteSize ≤ limit → kept = text
  /-- A cut costs no more than three octets. -/
  near : limit < text.utf8ByteSize → limit ≤ kept.utf8ByteSize + 3
  adds : kept.utf8ByteSize + lost = text.utf8ByteSize
  cutOff : cutOff limit text = .ok kept
  cutShort : cutShort limit text = .ok
    (if text.utf8ByteSize ≤ limit then text
      else kept ++ "[truncated " ++ toString lost ++ " bytes]")
  /-- Texts that are cut character by character are the same. -/
  agrees : Text.cutOff limit text = .ok (fitting limit text) ∧
    Text.cutShort limit text = .ok (shortened limit text)

/-- Every text can be cut at every limit. -/
theorem exists_truncation (limit : Nat) (text : String) :
    ∃ kept lost, Truncation limit text kept lost := by
  obtain ⟨kept, hkept, hsearch, hfront⟩ := exists_kept limit text
  obtain ⟨rest, hrest⟩ := hkept.front
  have hsize : text.utf8ByteSize = kept.utf8ByteSize + rest.utf8ByteSize := by
    rw [hrest, String.utf8ByteSize_append]
  have hoff : cutOff limit text = .ok kept := by
    rw [cutOff, Utf8.length_encode]
    split_ifs with hlong
    · rw [hsearch]
      exact hfront
    · rw [hkept.eq_of_le (Nat.le_of_not_lt hlong)]
      rfl
  have hshort : cutShort limit text = .ok
      (if text.utf8ByteSize ≤ limit then text
        else kept ++ "[truncated " ++ toString rest.utf8ByteSize ++ " bytes]") := by
    rw [cutShort, Utf8.length_encode]
    split_ifs with hfits
    · rfl
    · have hbehind : behind (Utf8.encode text) kept.utf8ByteSize = .ok rest.utf8ByteSize := by
        rw [behind, Utf8.length_encode, hsize, if_neg (by omega), Nat.add_sub_cancel_left]
      simp only [hsearch, hfront, hbehind, bind, Except.bind]
      rfl
  refine ⟨kept, rest.utf8ByteSize, hkept, hkept.eq_of_le, hkept.limit_le, hsize.symm, hoff, hshort,
    hkept.eq_fitting ▸ hoff, ?_⟩
  have hlost : text.utf8ByteSize - kept.utf8ByteSize = rest.utf8ByteSize := by omega
  rw [hshort, shortened, ← hkept.eq_fitting]
  simp only [hlost]

/-- At a limit inside of the first character nothing is left, and no step is taken before it. -/
example : cutOff 0 "éa" = .ok "" ∧ cutOff 1 "éa" = .ok "" ∧ cutOff 2 "éa" = .ok "é" ∧
    cutShort 1 "éa" = .ok "[truncated 3 bytes]" := by
  decide

end Text

end StompBroker
