import Mathlib.Data.List.Basic
import StompBroker.Proofs.Text.Utf8

/-!
# Octets that may be no text

A sequence of octets is mended from its front: a character stands for its octets, and a broken part
for one replacement character (`Mended`). A part is broken if its one octet starts no character, or
if it is the beginning of a character whose next octet is missing (`Broken`). Both notions speak of
the octets of characters alone.

The octets behind the first of a character lie in ranges that the first one decides (`followers`),
and what lies in them is how a character goes on (`opens_iff`). `Utf8.leadingChar` takes as many
octets as lie in their ranges (`taken_of_followers`), so it takes a character or a broken part
(`front_leadingChar`). At most one of both is at the front of a sequence (`Front.unique`). Hence
`Utf8.decodeLossy` is the only way to mend a sequence (`mended_iff`), and it leaves the octets of a
text as they are (`decodeLossy_encode`).
-/

set_option autoImplicit false

namespace StompBroker.Utf8

/-! ### What is broken -/

/-- There is a character that starts with these octets. -/
def Opens (octets : Bytes) : Prop := ∃ c, octets <+: String.utf8EncodeChar c

/-- The octets of `part` are no character, and those of `rest` make them none. -/
inductive Broken : Bytes → Bytes → Prop
  | start {octet : UInt8} {rest : Bytes} (hstart : ¬Opens [octet]) : Broken [octet] rest
  | cut {part rest : Bytes} (hne : part ≠ []) (hopens : Opens part)
    (hincomplete : ∀ c, String.utf8EncodeChar c ≠ part)
    (hend : ∀ octet ∈ rest.head?, ¬Opens (part ++ [octet])) : Broken part rest

/-- The octets of `part`, in front of those of `rest`, are read as one character. -/
inductive Front : Bytes → Bytes → Char → Prop
  | char (c : Char) (rest : Bytes) : Front (String.utf8EncodeChar c) rest c
  | broken {part rest : Bytes} (hbroken : Broken part rest) : Front part rest replacement

/-- The characters of a sequence, with replacement characters for what is broken. -/
inductive Mended : Bytes → List Char → Prop
  | nil : Mended [] []
  | cons {part rest : Bytes} {c : Char} {chars : List Char} (hfront : Front part rest c)
    (hrest : Mended rest chars) : Mended (part ++ rest) (c :: chars)

/-! ### How characters go on -/

/-- The ranges of the octets behind the first octet of a character, if it is one. -/
def followers (lead : UInt8) : Option (List (UInt8 → Bool)) :=
  if lead < 0x80 then some []
  else if lead < 0xC2 then none
  else if lead < 0xE0 then some [isTail]
  else if lead < 0xF0 then some [secondOfThree lead, isTail]
  else if lead < 0xF5 then some [secondOfFour lead, isTail, isTail]
  else none

/-- The octets lie in the first of the ranges, one after the other. -/
inductive Fits : List (UInt8 → Bool) → Bytes → Prop
  | nil (ranges : List (UInt8 → Bool)) : Fits ranges []
  | cons {range : UInt8 → Bool} {ranges : List (UInt8 → Bool)} {octet : UInt8} {octets : Bytes}
    (hrange : range octet = true) (hrest : Fits ranges octets) :
    Fits (range :: ranges) (octet :: octets)

/-- How many octets lie in the first of the ranges. -/
def matched : List (UInt8 → Bool) → Bytes → Nat
  | range :: ranges, octet :: octets => if range octet then matched ranges octets + 1 else 0
  | _, _ => 0

theorem fits_take_matched (ranges : List (UInt8 → Bool)) (octets : Bytes) :
    Fits ranges (octets.take (matched ranges octets)) := by
  fun_induction matched ranges octets with
  | case1 range ranges octet octets hrange ih => exact .cons hrange ih
  | case2 => exact .nil _
  | case3 => exact .nil _

theorem matched_of_fits {ranges : List (UInt8 → Bool)} {octets : Bytes} (h : Fits ranges octets) :
    matched ranges octets = octets.length := by
  induction h with
  | nil ranges => cases ranges <;> rfl
  | cons hrange _ ih => rw [matched, if_pos hrange, ih, List.length_cons]

/-- The octet behind those that lie in their ranges does not. -/
theorem not_fits_matched {ranges : List (UInt8 → Bool)} {octets : Bytes} {octet : UInt8}
    (hnext : octet ∈ (octets.drop (matched ranges octets)).head?) :
    ¬Fits ranges (octets.take (matched ranges octets) ++ [octet]) := by
  fun_induction matched ranges octets with
  | case1 range ranges first octets hrange ih =>
    rintro (_ | ⟨-, hrest⟩)
    exact ih hnext hrest
  | case2 range ranges first octets hrange =>
    obtain rfl := Option.some.inj hnext
    rintro (_ | ⟨hfirst, -⟩)
    exact hrange hfirst
  | case3 ranges octets hshape =>
    cases octets with
    | nil => cases hnext
    | cons first octets =>
      cases ranges with
      | nil => rintro ⟨⟩
      | cons range ranges => exact absurd rfl (hshape range ranges first octets rfl)

theorem Fits.of_append {ranges : List (UInt8 → Bool)} {front back : Bytes}
    (h : Fits ranges (front ++ back)) : Fits ranges front := by
  induction front generalizing ranges with
  | nil => exact .nil ranges
  | cons octet front ih =>
    cases h with
    | cons hrange hrest => exact .cons hrange (ih hrest)

/-- Where every range has an octet, octets that lie in the first ranges go on to the last. -/
theorem Fits.exists_append {ranges : List (UInt8 → Bool)} {octets : Bytes} (h : Fits ranges octets)
    (hranges : ∀ range ∈ ranges, ∃ octet, range octet = true) :
    ∃ more, Fits ranges (octets ++ more) ∧ (octets ++ more).length = ranges.length := by
  induction h with
  | nil ranges =>
    induction ranges with
    | nil => exact ⟨[], .nil [], rfl⟩
    | cons range ranges ih =>
      obtain ⟨⟨octet, hoctet⟩, hrest⟩ := List.forall_mem_cons.mp hranges
      obtain ⟨more, hmore, hlength⟩ := ih hrest
      exact ⟨octet :: more, .cons hoctet hmore, congrArg Nat.succ hlength⟩
  | cons hrange _ ih =>
    obtain ⟨more, hmore, hlength⟩ := ih (List.forall_mem_cons.mp hranges).2
    exact ⟨more, .cons hrange hmore, congrArg Nat.succ hlength⟩

theorem exists_of_mem_followers {lead : UInt8} {ranges : List (UInt8 → Bool)}
    (h : followers lead = some ranges) : ∀ range ∈ ranges, ∃ octet, range octet = true := by
  have htail : ∃ octet, isTail octet = true := ⟨0x80, rfl⟩
  have hthree : ∃ octet, secondOfThree lead octet = true := by
    unfold secondOfThree
    split_ifs
    · exact ⟨0xA0, rfl⟩
    · exact ⟨0x80, rfl⟩
    · exact htail
  have hfour : ∃ octet, secondOfFour lead octet = true := by
    unfold secondOfFour
    split_ifs
    · exact ⟨0x90, rfl⟩
    · exact ⟨0x80, rfl⟩
    · exact htail
  unfold followers at h
  split_ifs at h <;> cases h <;> simp [htail, hthree, hfour]

theorem isTail_iff {octet : UInt8} :
    isTail octet = true ↔ 0x80 ≤ octet.toNat ∧ octet.toNat ≤ 0xBF := by
  simp [isTail, UInt8.le_iff_toNat_le]

theorem secondOfThree_iff {lead octet : UInt8} :
    secondOfThree lead octet = true ↔ (0x80 ≤ octet.toNat ∧ octet.toNat ≤ 0xBF) ∧
      (lead.toNat = 0xE0 → 0xA0 ≤ octet.toNat) ∧ (lead.toNat = 0xED → octet.toNat ≤ 0x9F) := by
  unfold secondOfThree
  simp only [beq_iff_eq, ← UInt8.toNat_inj]
  split_ifs with hfirst hlast
  · simp [UInt8.le_iff_toNat_le] at hfirst ⊢
    omega
  · simp [UInt8.le_iff_toNat_le] at hlast ⊢
    omega
  · simp [isTail_iff] at hfirst hlast ⊢
    omega

theorem secondOfFour_iff {lead octet : UInt8} :
    secondOfFour lead octet = true ↔ (0x80 ≤ octet.toNat ∧ octet.toNat ≤ 0xBF) ∧
      (lead.toNat = 0xF0 → 0x90 ≤ octet.toNat) ∧ (lead.toNat = 0xF4 → octet.toNat ≤ 0x8F) := by
  unfold secondOfFour
  simp only [beq_iff_eq, ← UInt8.toNat_inj]
  split_ifs with hfirst hlast
  · simp [UInt8.le_iff_toNat_le] at hfirst ⊢
    omega
  · simp [UInt8.le_iff_toNat_le] at hlast ⊢
    omega
  · simp [isTail_iff] at hfirst hlast ⊢
    omega

/-- The octets of a character of several octets begin with one that has followers, and these are the
rest. -/
theorem followers_of_utf8EncodeChar {c : Char} {lead : UInt8} {tail : Bytes}
    (h : String.utf8EncodeChar c = lead :: tail) :
    ∃ ranges, followers lead = some ranges ∧ Fits ranges tail ∧ tail.length = ranges.length := by
  have hvalid : c.val.toNat < 0xD800 ∨ 0xDFFF < c.val.toNat ∧ c.val.toNat < 0x110000 := c.valid
  unfold String.utf8EncodeChar at h
  unfold followers
  simp only [UInt8.lt_iff_toNat_lt]
  generalize c.val.toNat = point at h hvalid
  dsimp only at h
  split_ifs at h with hone htwo hthree
  · cases h
    rw [if_pos (by simp; omega)]
    exact ⟨[], rfl, .nil _, rfl⟩
  · cases h
    rw [if_neg (by simp; omega), if_neg (by simp; omega), if_pos (by simp; omega)]
    refine ⟨_, rfl, .cons (isTail_iff.mpr (by simp; omega)) (.nil _), rfl⟩
  · cases h
    rw [if_neg (by simp; omega), if_neg (by simp; omega), if_neg (by simp; omega),
      if_pos (by simp; omega)]
    refine ⟨_, rfl, .cons (secondOfThree_iff.mpr (by simp; omega))
      (.cons (isTail_iff.mpr (by simp; omega)) (.nil _)), rfl⟩
  · cases h
    rw [if_neg (by simp; omega), if_neg (by simp; omega), if_neg (by simp; omega),
      if_neg (by simp; omega), if_pos (by simp; omega)]
    refine ⟨_, rfl, .cons (secondOfFour_iff.mpr (by simp; omega))
      (.cons (isTail_iff.mpr (by simp; omega)) (.cons (isTail_iff.mpr (by simp; omega))
      (.nil _))), rfl⟩

theorem toNat_val_ofNat {point : Nat} (h : point.isValidChar) :
    (Char.ofNat point).val.toNat = point := by
  rw [Char.ofNat, dif_pos h]
  rfl

theorem utf8EncodeChar_of_one {lead : UInt8} (h : lead.toNat < 0x80) :
    String.utf8EncodeChar (Char.ofNat lead.toNat) = [lead] := by
  have hpoint : (Char.ofNat lead.toNat).val.toNat = lead.toNat :=
    toNat_val_ofNat (by unfold Nat.isValidChar; omega)
  have hsmall : (Char.ofNat lead.toNat).toNat < 128 := by
    rw [Char.toNat, hpoint]
    exact h
  rw [utf8EncodeChar_of_ascii hsmall, Char.toNat, hpoint, UInt8.ofNat_toNat]

theorem utf8EncodeChar_of_two {lead second : UInt8} (hlow : 0xC2 ≤ lead.toNat)
    (hhigh : lead.toNat < 0xE0) (hsecond : isTail second = true) :
    String.utf8EncodeChar (Char.ofNat (lead.toNat % 32 * 64 + tailBits second)) =
      [lead, second] := by
  rw [isTail_iff] at hsecond
  have hvalid : (lead.toNat % 32 * 64 + tailBits second).isValidChar := by
    unfold Nat.isValidChar tailBits
    omega
  unfold String.utf8EncodeChar
  rw [toNat_val_ofNat hvalid]
  unfold tailBits
  rw [if_neg (by omega), if_pos (by omega)]
  simp only [List.cons.injEq, ← UInt8.toNat_inj, UInt8.toNat_ofNat', and_true]
  omega

theorem utf8EncodeChar_of_three {lead second third : UInt8} (hlow : 0xE0 ≤ lead.toNat)
    (hhigh : lead.toNat < 0xF0) (hsecond : secondOfThree lead second = true)
    (hthird : isTail third = true) :
    String.utf8EncodeChar
        (Char.ofNat (lead.toNat % 16 * 4096 + tailBits second * 64 + tailBits third)) =
      [lead, second, third] := by
  rw [secondOfThree_iff] at hsecond
  rw [isTail_iff] at hthird
  have hvalid : (lead.toNat % 16 * 4096 + tailBits second * 64 + tailBits third).isValidChar := by
    unfold Nat.isValidChar tailBits
    omega
  unfold String.utf8EncodeChar
  rw [toNat_val_ofNat hvalid]
  unfold tailBits
  rw [if_neg (by omega), if_neg (by omega), if_pos (by omega)]
  simp only [List.cons.injEq, ← UInt8.toNat_inj, UInt8.toNat_ofNat', and_true]
  omega

theorem utf8EncodeChar_of_four {lead second third fourth : UInt8} (hlow : 0xF0 ≤ lead.toNat)
    (hhigh : lead.toNat < 0xF5) (hsecond : secondOfFour lead second = true)
    (hthird : isTail third = true) (hfourth : isTail fourth = true) :
    String.utf8EncodeChar (Char.ofNat (lead.toNat % 8 * 262144 + tailBits second * 4096 +
        tailBits third * 64 + tailBits fourth)) = [lead, second, third, fourth] := by
  rw [secondOfFour_iff] at hsecond
  rw [isTail_iff] at hthird hfourth
  have hvalid : (lead.toNat % 8 * 262144 + tailBits second * 4096 + tailBits third * 64 +
      tailBits fourth).isValidChar := by
    unfold Nat.isValidChar tailBits
    omega
  unfold String.utf8EncodeChar
  rw [toNat_val_ofNat hvalid]
  unfold tailBits
  rw [if_neg (by omega), if_neg (by omega), if_neg (by omega)]
  simp only [List.cons.injEq, ← UInt8.toNat_inj, UInt8.toNat_ofNat', and_true]
  omega

/-- What is taken off the front are the octets that lie in their ranges, as a character if there is
one in each range. -/
structure Taken (lead : UInt8) (ranges : List (UInt8 → Bool)) (rest : Bytes) (read : Char × Nat) :
    Prop where
  width : read.2 = matched ranges rest
  char : String.utf8EncodeChar read.1 = lead :: rest.take (matched ranges rest) ∨
    matched ranges rest < ranges.length ∧ read.1 = replacement

section Lengths

variable {lead : UInt8} (hone : ¬lead < 0x80) (hnone : ¬lead < 0xC2)

include hone hnone

theorem taken_of_two (hhigh : lead < 0xE0) (rest : Bytes) :
    Taken lead [isTail] rest (leadingChar lead rest) := by
  have hleast : 0xC2 ≤ lead.toNat := UInt8.le_iff_toNat_le.mp (UInt8.not_lt.mp hnone)
  have hmost : lead.toNat < 0xE0 := UInt8.lt_iff_toNat_lt.mp hhigh
  unfold leadingChar
  rw [if_neg hone, if_neg hnone, if_pos hhigh]
  rcases rest with _ | ⟨second, rest⟩
  · constructor <;> simp [matched]
  · cases hsecond : isTail second with
    | false => constructor <;> simp [matched, hsecond]
    | true =>
      have hchar := utf8EncodeChar_of_two hleast hmost hsecond
      constructor <;> simp [matched, hsecond, hchar]

theorem taken_of_three (hlow : ¬lead < 0xE0) (hhigh : lead < 0xF0) (rest : Bytes) :
    Taken lead [secondOfThree lead, isTail] rest (leadingChar lead rest) := by
  have hleast : 0xE0 ≤ lead.toNat := UInt8.le_iff_toNat_le.mp (UInt8.not_lt.mp hlow)
  have hmost : lead.toNat < 0xF0 := UInt8.lt_iff_toNat_lt.mp hhigh
  unfold leadingChar
  rw [if_neg hone, if_neg hnone, if_neg hlow, if_pos hhigh]
  rcases rest with _ | ⟨second, _ | ⟨third, rest⟩⟩
  · constructor <;> simp [matched]
  · cases hsecond : secondOfThree lead second <;> constructor <;> simp [matched, hsecond]
  · cases hsecond : secondOfThree lead second with
    | false => constructor <;> simp [matched, hsecond]
    | true =>
      cases hthird : isTail third with
      | false => constructor <;> simp [matched, hsecond, hthird]
      | true =>
        have hchar := utf8EncodeChar_of_three hleast hmost hsecond hthird
        constructor <;> simp [matched, hsecond, hthird, hchar]

theorem taken_of_four (htwo : ¬lead < 0xE0) (hlow : ¬lead < 0xF0) (hhigh : lead < 0xF5)
    (rest : Bytes) :
    Taken lead [secondOfFour lead, isTail, isTail] rest (leadingChar lead rest) := by
  have hleast : 0xF0 ≤ lead.toNat := UInt8.le_iff_toNat_le.mp (UInt8.not_lt.mp hlow)
  have hmost : lead.toNat < 0xF5 := UInt8.lt_iff_toNat_lt.mp hhigh
  unfold leadingChar
  rw [if_neg hone, if_neg hnone, if_neg htwo, if_neg hlow, if_pos hhigh]
  rcases rest with _ | ⟨second, _ | ⟨third, _ | ⟨fourth, rest⟩⟩⟩
  · constructor <;> simp [matched]
  · cases hsecond : secondOfFour lead second <;> constructor <;> simp [matched, hsecond]
  · cases hsecond : secondOfFour lead second with
    | false => constructor <;> simp [matched, hsecond]
    | true => cases hthird : isTail third <;> constructor <;> simp [matched, hsecond, hthird]
  · cases hsecond : secondOfFour lead second with
    | false => constructor <;> simp [matched, hsecond]
    | true =>
      cases hthird : isTail third with
      | false => constructor <;> simp [matched, hsecond, hthird]
      | true =>
        cases hfourth : isTail fourth with
        | false => constructor <;> simp [matched, hsecond, hthird, hfourth]
        | true =>
          have hchar := utf8EncodeChar_of_four hleast hmost hsecond hthird hfourth
          constructor <;> simp [matched, hsecond, hthird, hfourth, hchar]

end Lengths

/-- The reader takes as many octets as lie in the ranges that the first one decides. -/
theorem taken_of_followers {lead : UInt8} {ranges : List (UInt8 → Bool)}
    (h : followers lead = some ranges) (rest : Bytes) :
    Taken lead ranges rest (leadingChar lead rest) := by
  unfold followers at h
  split_ifs at h with hone hnone htwo hthree hfour <;> cases h
  · unfold leadingChar
    rw [if_pos hone]
    exact ⟨rfl, .inl (utf8EncodeChar_of_one (UInt8.lt_iff_toNat_lt.mp hone))⟩
  · exact taken_of_two hone hnone htwo rest
  · exact taken_of_three hone hnone htwo hthree rest
  · exact taken_of_four hone hnone htwo hthree hfour rest

theorem leadingChar_of_none {lead : UInt8} (h : followers lead = none) (rest : Bytes) :
    leadingChar lead rest = (replacement, 0) := by
  unfold followers at h
  unfold leadingChar
  split_ifs at h with hone hnone htwo hthree hfour
  · rw [if_neg hone, if_pos hnone]
  · rw [if_neg hone, if_neg hnone, if_neg htwo, if_neg hthree, if_neg hfour]

/-- A character starts with octets exactly if those behind the first lie in their ranges. -/
theorem opens_iff {lead : UInt8} {tail : Bytes} :
    Opens (lead :: tail) ↔ ∃ ranges, followers lead = some ranges ∧ Fits ranges tail := by
  constructor
  · rintro ⟨c, more, hmore⟩
    obtain ⟨ranges, hranges, hfits, -⟩ := followers_of_utf8EncodeChar hmore.symm
    exact ⟨ranges, hranges, hfits.of_append⟩
  · rintro ⟨ranges, hranges, hfits⟩
    obtain ⟨more, hmore, hlength⟩ := hfits.exists_append (exists_of_mem_followers hranges)
    have hmatched := matched_of_fits hmore
    rcases (taken_of_followers hranges (tail ++ more)).char with hchar | ⟨hshort, -⟩
    · rw [hmatched, List.take_length] at hchar
      exact ⟨_, more, hchar.symm⟩
    · omega

/-! ### One step of the reader -/

/-- The reader takes a character or a broken part off the front. -/
theorem front_leadingChar (lead : UInt8) (rest : Bytes) :
    Front (lead :: rest.take (leadingChar lead rest).2) (rest.drop (leadingChar lead rest).2)
      (leadingChar lead rest).1 := by
  cases hranges : followers lead with
  | none =>
    rw [leadingChar_of_none hranges]
    refine .broken (.start fun hopens ↦ ?_)
    obtain ⟨ranges, hsome, -⟩ := opens_iff.mp hopens
    rw [hranges] at hsome
    cases hsome
  | some ranges =>
    obtain ⟨hwidth, hchar | ⟨hshort, hchar⟩⟩ := taken_of_followers hranges rest
    · rw [hwidth, ← hchar]
      exact .char _ _
    · rw [hwidth, hchar]
      have hfits := fits_take_matched ranges rest
      refine .broken (.cut (List.cons_ne_nil _ _) (opens_iff.mpr ⟨ranges, hranges, hfits⟩) ?_ ?_)
      · intro c hc
        obtain ⟨others, hothers, -, hlength⟩ := followers_of_utf8EncodeChar hc
        rw [hranges] at hothers
        cases hothers
        rw [List.length_take] at hlength
        omega
      · intro octet hoctet hopens
        obtain ⟨others, hothers, hmore⟩ := opens_iff.mp hopens
        rw [hranges] at hothers
        cases hothers
        exact not_fits_matched hoctet hmore

theorem utf8EncodeChar_injective {c d : Char}
    (h : String.utf8EncodeChar c = String.utf8EncodeChar d) : c = d := by
  have hencode : encode (String.singleton c) = encode (String.singleton d) := by
    simpa [encode_eq_flatMap] using h
  exact String.singleton_inj.mp (encode_injective hencode)

/-- No character starts with the octets of another. -/
theorem eq_of_isPrefix_utf8EncodeChar {c d : Char}
    (h : String.utf8EncodeChar c <+: String.utf8EncodeChar d) : c = d := by
  obtain ⟨more, hmore⟩ := h
  cases hc : String.utf8EncodeChar c with
  | nil => exact absurd hc String.utf8EncodeChar_ne_nil
  | cons lead tail =>
    rw [hc, List.cons_append] at hmore
    obtain ⟨ranges, hranges, -, hlength⟩ := followers_of_utf8EncodeChar hc
    obtain ⟨others, hothers, -, hlengths⟩ := followers_of_utf8EncodeChar hmore.symm
    rw [hranges] at hothers
    cases hothers
    rw [List.length_append] at hlengths
    obtain rfl := List.eq_nil_of_length_eq_zero (by omega : more.length = 0)
    rw [List.append_nil] at hmore
    exact utf8EncodeChar_injective (hc.trans hmore)

theorem Front.ne_nil {part rest : Bytes} {c : Char} (h : Front part rest c) : part ≠ [] := by
  cases h with
  | char => exact String.utf8EncodeChar_ne_nil
  | broken hbroken =>
    cases hbroken with
    | start => exact List.cons_ne_nil _ _
    | cut hne => exact hne

theorem Front.singleton_or_opens {part rest : Bytes} {c : Char} (h : Front part rest c) :
    (∃ octet, part = [octet]) ∨ Opens part := by
  cases h with
  | char => exact .inr ⟨c, List.prefix_rfl⟩
  | broken hbroken =>
    cases hbroken with
    | @start octet => exact .inl ⟨octet, rfl⟩
    | cut _ hopens => exact .inr hopens

theorem Opens.of_isPrefix {front octets : Bytes} (h : Opens octets) (hfront : front <+: octets) :
    Opens front := by
  obtain ⟨c, hc⟩ := h
  exact ⟨c, hfront.trans hc⟩

/-- What is read as one character cannot be longer: with the next octet it starts no character. -/
theorem Front.not_opens {part rest : Bytes} {c : Char} {octet : UInt8}
    (h : Front part (octet :: rest) c) : ¬Opens (part ++ [octet]) := by
  intro hopens
  cases h with
  | char =>
    obtain ⟨d, hd⟩ := hopens
    obtain rfl := eq_of_isPrefix_utf8EncodeChar ((List.prefix_append _ _).trans hd)
    have hlength := hd.length_le
    rw [List.length_append, List.length_singleton] at hlength
    omega
  | broken hbroken =>
    cases hbroken with
    | start hstart => exact hstart (hopens.of_isPrefix (List.prefix_append _ _))
    | cut _ _ _ hend => exact hend octet rfl hopens

theorem Front.eq_of_isPrefix {part rest part' rest' : Bytes} {c c' : Char}
    (h : Front part rest c) (h' : Front part' rest' c') (heq : part ++ rest = part' ++ rest')
    (hstart : part <+: part') : part = part' := by
  obtain ⟨more, rfl⟩ := hstart
  cases more with
  | nil => exact (List.append_nil part).symm
  | cons octet more =>
    rw [List.append_assoc, List.append_cancel_left_eq, List.cons_append] at heq
    rw [heq] at h
    rcases h'.singleton_or_opens with ⟨single, hsingle⟩ | hopens
    · have hpart := List.length_pos_of_ne_nil h.ne_nil
      have hlength := congrArg List.length hsingle
      simp only [List.length_append, List.length_cons, List.length_nil] at hlength
      omega
    · refine absurd (hopens.of_isPrefix ?_) h.not_opens
      exact (List.prefix_append_right_inj part).mpr (List.prefix_append [octet] more)

theorem Front.char_eq {part rest : Bytes} {c c' : Char} (h : Front part rest c)
    (h' : Front part rest c') : c = c' := by
  have hwhole {d : Char} (hbroken : Broken (String.utf8EncodeChar d) rest) : False := by
    generalize hpart : String.utf8EncodeChar d = part at hbroken
    cases hbroken with
    | start hstart => exact hstart ⟨d, hpart ▸ List.prefix_rfl⟩
    | cut _ _ hincomplete => exact hincomplete d hpart
  generalize hpart : part = octets at h'
  cases h with
  | char =>
    cases h' with
    | char => exact utf8EncodeChar_injective hpart
    | broken hbroken => exact (hwhole (hpart ▸ hbroken)).elim
  | broken hbroken =>
    cases h' with
    | char => exact (hwhole (hpart ▸ hbroken)).elim
    | broken => rfl

/-- There is one way to read the front of a sequence. -/
theorem Front.unique {part rest part' rest' : Bytes} {c c' : Char} (h : Front part rest c)
    (h' : Front part' rest' c') (heq : part ++ rest = part' ++ rest') :
    part = part' ∧ rest = rest' ∧ c = c' := by
  have hpart : part = part' := by
    have hstart : part' <+: part ++ rest := heq ▸ List.prefix_append part' rest'
    rcases List.prefix_or_prefix_of_prefix (List.prefix_append part rest) hstart with hle | hle
    · exact h.eq_of_isPrefix h' heq hle
    · exact (h'.eq_of_isPrefix h heq.symm hle).symm
  subst hpart
  obtain rfl := List.append_cancel_left heq
  exact ⟨rfl, rfl, h.char_eq h'⟩

/-! ### The whole sequence -/

theorem exists_mended_lossyInto (read : List Char) (octets : Bytes) :
    ∃ chars, Mended octets chars ∧ lossyInto read octets = chars.reverse ++ read := by
  fun_induction lossyInto read octets with
  | case1 read => exact ⟨[], .nil, rfl⟩
  | case2 read lead rest next width hstep ih =>
    obtain ⟨chars, hmended, hread⟩ := ih
    have hfront := front_leadingChar lead rest
    rw [hstep] at hfront
    refine ⟨next :: chars, ?_, ?_⟩
    · have hcons := Mended.cons hfront hmended
      rwa [List.cons_append, List.take_append_drop] at hcons
    · rw [hread, List.reverse_cons, List.append_assoc, List.singleton_append]

theorem mended_decodeLossy (octets : Bytes) : Mended octets (decodeLossy octets).toList := by
  obtain ⟨chars, hmended, hread⟩ := exists_mended_lossyInto [] octets
  rwa [decodeLossy, String.toList_ofList, hread, List.append_nil, List.reverse_reverse]

theorem Mended.unique {octets : Bytes} {chars chars' : List Char} (h : Mended octets chars)
    (h' : Mended octets chars') : chars = chars' := by
  induction h generalizing chars' with
  | nil =>
    generalize hnil : ([] : Bytes) = octets at h'
    cases h' with
    | nil => rfl
    | cons hfront => exact absurd (List.append_eq_nil_iff.mp hnil.symm).1 hfront.ne_nil
  | @cons part rest c chars hfront _ ih =>
    generalize heq : part ++ rest = octets at h'
    cases h' with
    | nil => exact absurd (List.append_eq_nil_iff.mp heq).1 hfront.ne_nil
    | cons hother hrest =>
      obtain ⟨-, rfl, rfl⟩ := hfront.unique hother heq
      rw [ih hrest]

/-- A sequence is mended in one way. -/
theorem mended_iff {octets : Bytes} {chars : List Char} :
    Mended octets chars ↔ (decodeLossy octets).toList = chars := by
  constructor
  · exact (mended_decodeLossy octets).unique
  · rintro rfl
    exact mended_decodeLossy octets

/-- Where nothing is broken, nothing changes. -/
theorem decodeLossy_encode (text : String) : decodeLossy (encode text) = text := by
  have hmended (chars : List Char) : Mended (chars.flatMap String.utf8EncodeChar) chars := by
    induction chars with
    | nil => exact .nil
    | cons c chars ih =>
      rw [List.flatMap_cons]
      exact .cons (.char c _) ih
  rw [encode_eq_flatMap, ← String.toList_inj, mended_iff.mp (hmended text.toList)]

/-- An octet that starts no character, and the beginning of a character without its end. -/
example : decodeLossy [0x61, 0xFF, 0xE2, 0x82, 0x62] = "a\uFFFD\uFFFDb" := by decide +kernel

end StompBroker.Utf8
