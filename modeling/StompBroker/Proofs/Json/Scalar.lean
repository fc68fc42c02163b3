import Mathlib.Tactic.SplitIfs
import StompBroker.Json.Shape
import StompBroker.Json.Writer
import StompBroker.Proofs.Text.Utf8

/-!
# Texts and whole numbers that are written and read

A text is written octet by octet, and so it is read: what `escapeOctet` writes is one step of
`readOctets` and of `skipString`. Hence a quoted text is read back (`readString_quote`).

A whole number is its digits. Its last digit is the remainder of a division by ten and those before
it are the quotient's, so the readers are followed digit by digit by induction on the number: as
long as it fits, they arrive at the number itself (`readNumber_toString`). Nothing but what `Stops`
a number may follow it.

The documents that are one text or one whole number are the `Scalar` ones. Whoever reads or passes
over them ends behind them (`readValue_scalar`, `skipValue_scalar`).
-/

set_option autoImplicit false

namespace StompBroker.Json

/-! ### Quoted texts -/

theorem hexDigit?_hexDigit {value : Nat} (h : value < 16) :
    hexDigit? (hexDigit value) = some value :=
  (by decide : ∀ value < 16, hexDigit? (hexDigit value) = some value) value h

/-- A control character is written as the number of its code point. -/
theorem readHex_hexDigit {octet : UInt8} (h : octet < 0x20) (rest : Bytes) :
    readHex (0x30 :: 0x30 :: hexDigit (octet.toNat / 16) :: hexDigit (octet.toNat % 16) :: rest) =
      .ok (octet.toNat, rest) := by
  have hsmall : octet.toNat < 32 := UInt8.lt_iff_toNat_lt.mp h
  have hzero : hexDigit? 0x30 = some 0 := by decide
  have hvalue : ((0 * 16 + 0) * 16 + octet.toNat / 16) * 16 + octet.toNat % 16 = octet.toNat := by
    omega
  rw [readHex, hzero, hexDigit?_hexDigit (by omega), hexDigit?_hexDigit (by omega)]
  simp only [hvalue]

theorem codePoint_toNat {octet : UInt8} (h : octet < 0x20) : codePoint octet.toNat = [octet] := by
  have hpoint : ∀ value < 32, codePoint value = [UInt8.ofNat value] := by decide
  rw [hpoint octet.toNat (UInt8.lt_iff_toNat_lt.mp h), UInt8.ofNat_toNat]

theorem readEscape_control {octet : UInt8} (h : octet < 0x20) (rest : Bytes) :
    readEscape (0x75 :: 0x30 :: 0x30 :: hexDigit (octet.toNat / 16) ::
      hexDigit (octet.toNat % 16) :: rest) = .ok ([octet], rest) := by
  have hsmall : octet.toNat < 32 := UInt8.lt_iff_toNat_lt.mp h
  have hplain : plainEscape? 0x75 = none := by decide
  rw [readEscape, hplain]
  simp only [ne_eq, not_true_eq_false, if_false, readHex_hexDigit h]
  rw [if_neg (by omega), if_neg (by omega), codePoint_toNat h]

/-- What is written for an octet is read as the octet. -/
theorem readOctets_escapeOctet (read : Bytes) (fuel : Nat) (octet : UInt8) (rest : Bytes) :
    readOctets read (fuel + 1) (escapeOctet octet ++ rest) =
      readOctets (octet :: read) fuel rest := by
  unfold escapeOctet
  split_ifs with hquote hslash hback htab hfeed hform hreturn hcontrol
  · subst hquote; rfl
  · subst hslash; rfl
  · subst hback; rfl
  · subst htab; rfl
  · subst hfeed; rfl
  · subst hform; rfl
  · subst hreturn; rfl
  · simp only [List.cons_append, List.nil_append]
    rw [readOctets, if_neg (by decide), if_pos rfl, readEscape_control hcontrol]
    rfl
  · rw [List.singleton_append, readOctets, if_neg hquote, if_neg hslash, if_neg hcontrol]

/-- What is written for an octet is passed over as one octet. -/
theorem skipString_escapeOctet (fuel : Nat) (octet : UInt8) (rest : Bytes) :
    skipString (fuel + 1) (escapeOctet octet ++ rest) = skipString fuel rest := by
  unfold escapeOctet
  split_ifs with hquote hslash hback htab hfeed hform hreturn hcontrol
  · rfl
  · rfl
  · rfl
  · rfl
  · rfl
  · rfl
  · rfl
  · have hplain : plainEscape? 0x75 = none := by decide
    simp only [List.cons_append, List.nil_append]
    rw [skipString, if_neg (by decide), if_pos rfl]
    simp only [hplain, Option.isSome_none, Bool.false_eq_true, if_false, if_true,
      readHex_hexDigit hcontrol]
  · rw [List.singleton_append, skipString.eq_def]
    simp only [if_neg hquote, if_neg hslash, if_neg hcontrol]

theorem readOctets_flatMap_escapeOctet {octets : Bytes} {fuel : Nat} (h : octets.length < fuel)
    (read rest : Bytes) :
    readOctets read fuel (octets.flatMap escapeOctet ++ 0x22 :: rest) =
      .ok (read.reverse ++ octets, rest) := by
  induction octets generalizing fuel read with
  | nil =>
    obtain ⟨fuel, rfl⟩ := Nat.exists_eq_add_of_lt h
    simp only [List.length_nil, Nat.zero_add, List.flatMap_nil, List.nil_append]
    rw [readOctets, if_pos rfl, List.append_nil]
  | cons octet octets ih =>
    obtain ⟨fuel, rfl⟩ := Nat.exists_eq_add_of_lt h
    rw [List.flatMap_cons, List.append_assoc, readOctets_escapeOctet,
      ih (by simp only [List.length_cons]; omega), List.reverse_cons, List.append_assoc,
      List.singleton_append]

theorem skipString_flatMap_escapeOctet {octets : Bytes} {fuel : Nat} (h : octets.length < fuel)
    (rest : Bytes) :
    skipString fuel (octets.flatMap escapeOctet ++ 0x22 :: rest) = .ok rest := by
  induction octets generalizing fuel with
  | nil =>
    obtain ⟨fuel, rfl⟩ := Nat.exists_eq_add_of_lt h
    simp only [List.length_nil, Nat.zero_add, List.flatMap_nil, List.nil_append]
    rw [skipString.eq_def]
    rfl
  | cons octet octets ih =>
    obtain ⟨fuel, rfl⟩ := Nat.exists_eq_add_of_lt h
    rw [List.flatMap_cons, List.append_assoc, skipString_escapeOctet,
      ih (by simp only [List.length_cons]; omega)]

theorem length_le_flatMap_escapeOctet (octets : Bytes) :
    octets.length ≤ (octets.flatMap escapeOctet).length := by
  induction octets with
  | nil => exact Nat.le_refl _
  | cons octet octets ih =>
    have hwritten : 1 ≤ (escapeOctet octet).length := by
      unfold escapeOctet
      split_ifs <;> simp
    rw [List.flatMap_cons, List.length_append, List.length_cons]
    omega

theorem quote_append (text : String) (rest : Bytes) :
    quote text ++ rest = 0x22 :: ((Utf8.encode text).flatMap escapeOctet ++ 0x22 :: rest) := by
  simp [quote]

/-- The octets behind a quote suffice as fuel for the text up to the next one. -/
theorem length_lt_fuel (octets rest : Bytes) :
    octets.length < (octets.flatMap escapeOctet ++ 0x22 :: rest).length + 1 := by
  have hlength := length_le_flatMap_escapeOctet octets
  rw [List.length_append]
  omega

/-- A quoted text is read back behind its quote. -/
theorem readString_quote (text : String) (rest : Bytes) :
    readString ((Utf8.encode text).flatMap escapeOctet ++ 0x22 :: rest) = .ok (text, rest) := by
  rw [readString, readOctets_flatMap_escapeOctet (length_lt_fuel _ _)]
  simp only [List.reverse_nil, List.nil_append, Utf8.decode?_encode]

/-! ### Whole numbers -/

/-- The octet of a digit. -/
def digitOctet (digit : Nat) : UInt8 := UInt8.ofNat (0x30 + digit)

theorem digit?_digitOctet {digit : Nat} (h : digit < 10) : digit? (digitOctet digit) = some digit :=
  (by decide : ∀ digit < 10, digit? (digitOctet digit) = some digit) digit h

theorem utf8EncodeChar_digitChar {digit : Nat} (h : digit < 10) :
    String.utf8EncodeChar digit.digitChar = [digitOctet digit] :=
  (by decide : ∀ digit < 10, String.utf8EncodeChar (Nat.digitChar digit) = [digitOctet digit])
    digit h

theorem encode_toString_of_lt {value : Nat} (h : value < 10) :
    Utf8.encode (toString value) = [digitOctet value] := by
  rw [Utf8.encode_eq_flatMap, Nat.toString_eq_ofList_toDigits, String.toList_ofList,
    Nat.toDigits_of_lt_base h, List.flatMap_singleton, utf8EncodeChar_digitChar h]

/-- The last digit is the remainder by ten, and those before it are the quotient's. -/
theorem encode_toString_of_le {value : Nat} (h : 10 ≤ value) :
    Utf8.encode (toString value) =
      Utf8.encode (toString (value / 10)) ++ [digitOctet (value % 10)] := by
  rw [Utf8.encode_eq_flatMap, Utf8.encode_eq_flatMap, Nat.toString_eq_ofList_toDigits,
    Nat.toString_eq_ofList_toDigits, String.toList_ofList, String.toList_ofList,
    Nat.toDigits_of_base_le (by decide) h, List.flatMap_append, List.flatMap_singleton,
    utf8EncodeChar_digitChar (Nat.mod_lt _ (by decide))]

/-- What may follow a number inside of a document: nothing, a comma or a closing bracket. -/
def Stops (rest : Bytes) : Prop := ∀ octet ∈ rest.head?, octet = 0x2C ∨ octet = 0x5D ∨ octet = 0x7D

/-- The number of these digits, as far as it fits in 64 bits. -/
def wholeNumber (isPositive : Bool) (value : Nat) : Number :=
  if isPositive then .natural value else .negative value

/-- The magnitudes of the numbers of a sign that are read exactly. -/
def Fits (isPositive : Bool) (value : Nat) : Prop :=
  if isPositive then value ≤ maxUnsigned64 else 0 < value ∧ value ≤ maxSigned64 + 1

theorem Fits.le {isPositive : Bool} {value : Nat} (h : Fits isPositive value) :
    value ≤ maxUnsigned64 := by
  cases isPositive with
  | true => exact h
  | false => exact Nat.le_trans h.2 (by decide)

theorem readAfterDigits_of_stops {isPositive : Bool} {value : Nat} {rest : Bytes}
    (hfits : Fits isPositive value) (hstops : Stops rest) :
    readAfterDigits isPositive value rest = .ok (wholeNumber isPositive value, rest) := by
  have hsigned : ∀ rest, (if isPositive then Except.ok (Number.natural value, rest)
      else if value = 0 ∨ maxSigned64 + 1 < value then
        Except.ok (.real (-value.toUInt64.toFloat), rest)
      else Except.ok (.negative value, rest) : Reading Number) =
        .ok (wholeNumber isPositive value, rest) := by
    intro rest
    cases isPositive with
    | true => rfl
    | false =>
      have hbounds : 0 < value ∧ value ≤ maxSigned64 + 1 := hfits
      rw [if_neg Bool.false_ne_true, if_neg (by omega)]
      rfl
  cases rest with
  | nil => exact hsigned []
  | cons octet rest =>
    rcases hstops octet rfl with rfl | rfl | rfl
    · exact hsigned _
    · exact hsigned _
    · exact hsigned _

theorem digit?_of_stops {octet : UInt8} {rest : Bytes} (h : Stops (octet :: rest)) :
    digit? octet = none := by
  rcases h octet rfl with rfl | rfl | rfl <;> decide

theorem readMoreDigits_of_stops {isPositive : Bool} {value : Nat} {rest : Bytes}
    (hfits : Fits isPositive value) (hstops : Stops rest) :
    readMoreDigits isPositive value rest = .ok (wholeNumber isPositive value, rest) := by
  cases rest with
  | nil => exact readAfterDigits_of_stops hfits hstops
  | cons octet rest =>
    rw [readMoreDigits, digit?_of_stops hstops]
    exact readAfterDigits_of_stops hfits hstops

theorem readNumber_digitOctet (isPositive : Bool) {digit : Nat} (hpos : 0 < digit)
    (hdigit : digit < 10) (rest : Bytes) :
    readNumber isPositive (digitOctet digit :: rest) = readMoreDigits isPositive digit rest := by
  obtain ⟨previous, rfl⟩ := Nat.exists_eq_add_one_of_ne_zero (Nat.ne_of_gt hpos)
  rw [readNumber.eq_def]
  simp only [digit?_digitOctet hdigit]

/-- The digits of a positive number are read up to the number. -/
theorem readNumber_of_pos {isPositive : Bool} {value : Nat} (hpos : 0 < value)
    (hbound : value ≤ maxUnsigned64) (rest : Bytes) :
    readNumber isPositive (Utf8.encode (toString value) ++ rest) =
      readMoreDigits isPositive value rest := by
  induction value using Nat.strongRecOn generalizing rest with
  | ind value ih =>
    rcases Nat.lt_or_ge value 10 with hlt | hge
    · rw [encode_toString_of_lt hlt, List.singleton_append, readNumber_digitOctet _ hpos hlt]
    · have hvalue : value / 10 * 10 + value % 10 = value := by omega
      rw [encode_toString_of_le hge, List.append_assoc, List.singleton_append,
        ih (value / 10) (by omega) (by omega) (by omega), readMoreDigits,
        digit?_digitOctet (Nat.mod_lt _ (by decide))]
      simp only [hvalue]
      rw [if_neg (by omega)]

theorem readNumber_toString {isPositive : Bool} {value : Nat} {rest : Bytes}
    (hfits : Fits isPositive value) (hstops : Stops rest) :
    readNumber isPositive (Utf8.encode (toString value) ++ rest) =
      .ok (wholeNumber isPositive value, rest) := by
  rcases Nat.eq_zero_or_pos value with rfl | hpos
  · rw [encode_toString_of_lt (by decide), List.singleton_append, readNumber.eq_def]
    simp only [digit?_digitOctet (by decide : 0 < 10)]
    cases rest with
    | nil => exact readAfterDigits_of_stops hfits hstops
    | cons octet rest =>
      simp only [digit?_of_stops hstops, Option.isSome_none, Bool.false_eq_true, if_false]
      exact readAfterDigits_of_stops hfits hstops
  · rw [readNumber_of_pos hpos hfits.le, readMoreDigits_of_stops hfits hstops]

theorem skipAfterDigits_of_stops {rest : Bytes} (h : Stops rest) :
    skipAfterDigits rest = .ok rest := by
  cases rest with
  | nil => rfl
  | cons octet rest => rcases h octet rfl with rfl | rfl | rfl <;> rfl

theorem skipDigits_of_stops {rest : Bytes} (h : Stops rest) : skipDigits rest = rest := by
  cases rest with
  | nil => rfl
  | cons octet rest =>
    rw [skipDigits, List.dropWhile_cons_of_neg (by simp [digit?_of_stops h])]

theorem skipNumber_of_pos {value : Nat} (hpos : 0 < value) (rest : Bytes) :
    skipNumber (Utf8.encode (toString value) ++ rest) = skipAfterDigits (skipDigits rest) := by
  induction value using Nat.strongRecOn generalizing rest with
  | ind value ih =>
    rcases Nat.lt_or_ge value 10 with hlt | hge
    · obtain ⟨previous, rfl⟩ := Nat.exists_eq_add_one_of_ne_zero (Nat.ne_of_gt hpos)
      rw [encode_toString_of_lt hlt, List.singleton_append, skipNumber.eq_def]
      simp only [digit?_digitOctet hlt]
    · have hdigit := digit?_digitOctet (Nat.mod_lt value (by decide : 0 < 10))
      rw [encode_toString_of_le hge, List.append_assoc, List.singleton_append,
        ih (value / 10) (by omega) (by omega), skipDigits,
        List.dropWhile_cons_of_pos (by simp [hdigit])]
      rfl

theorem skipNumber_toString {rest : Bytes} (value : Nat) (h : Stops rest) :
    skipNumber (Utf8.encode (toString value) ++ rest) = .ok rest := by
  rcases Nat.eq_zero_or_pos value with rfl | hpos
  · rw [encode_toString_of_lt (by decide), List.singleton_append, skipNumber.eq_def]
    simp only [digit?_digitOctet (by decide : 0 < 10)]
    cases rest with
    | nil => rfl
    | cons octet rest =>
      simp only [digit?_of_stops h, Option.isSome_none, Bool.false_eq_true, if_false]
      exact skipAfterDigits_of_stops h
  · rw [skipNumber_of_pos hpos, skipDigits_of_stops h, skipAfterDigits_of_stops h]

/-! ### Documents of one text or one whole number -/

/-- A text, or a whole number that is read exactly. -/
inductive Scalar : Json → Prop
  | text (value : String) : Scalar (.string value)
  | number {isPositive : Bool} {value : Nat} :
    Fits isPositive value → Scalar (.number (wholeNumber isPositive value))

theorem skipSpace_cons {octet : UInt8} (h : isSpace octet = false) (rest : Bytes) :
    skipSpace (octet :: rest) = octet :: rest := by
  rw [skipSpace, List.dropWhile_cons_of_neg (by simp [h])]

theorem isSpace_digitOctet {digit : Nat} (h : digit < 10) : isSpace (digitOctet digit) = false :=
  (by decide : ∀ digit < 10, isSpace (digitOctet digit) = false) digit h

/-- A number starts with a digit. -/
theorem exists_digitOctet (value : Nat) :
    ∃ digit < 10, ∃ octets, Utf8.encode (toString value) = digitOctet digit :: octets := by
  induction value using Nat.strongRecOn with
  | ind value ih =>
    rcases Nat.lt_or_ge value 10 with hlt | hge
    · exact ⟨value, hlt, [], encode_toString_of_lt hlt⟩
    · obtain ⟨digit, hdigit, octets, hoctets⟩ := ih (value / 10) (by omega)
      exact ⟨digit, hdigit, octets ++ [digitOctet (value % 10)], by
        rw [encode_toString_of_le hge, hoctets, List.cons_append]⟩

theorem writeBefore_natural (value : Nat) (rest : Bytes) :
    writeBefore rest (.number (.natural value)) = Utf8.encode (toString value) ++ rest := by
  rw [writeBefore, Number.text]

theorem writeBefore_negative (value : Nat) (rest : Bytes) :
    writeBefore rest (.number (.negative value)) =
      0x2D :: (Utf8.encode (toString value) ++ rest) := by
  have hsign : Utf8.encode "-" = [0x2D] := by decide
  rw [writeBefore, Number.text, Utf8.encode_append, hsign, List.singleton_append, List.cons_append]

theorem writeBefore_string (text : String) (rest : Bytes) :
    writeBefore rest (.string text) =
      0x22 :: ((Utf8.encode text).flatMap escapeOctet ++ 0x22 :: rest) := by
  rw [writeBefore, quote_append]

/-- A digit starts neither a word nor a negative number. -/
theorem digitOctet_ne {digit : Nat} (h : digit < 10) :
    digitOctet digit ≠ 0x6E ∧ digitOctet digit ≠ 0x74 ∧ digitOctet digit ≠ 0x66 ∧
      digitOctet digit ≠ 0x2D :=
  (by decide : ∀ digit < 10, digitOctet digit ≠ 0x6E ∧ digitOctet digit ≠ 0x74 ∧
    digitOctet digit ≠ 0x66 ∧ digitOctet digit ≠ 0x2D) digit h

theorem readValue_digitOctet {digit : Nat} (h : digit < 10) (fuel depth : Nat) (rest : Bytes) :
    readValue (fuel + 1) depth (digitOctet digit :: rest) =
      (readNumber true (digitOctet digit :: rest)).map fun read ↦ (.number read.1, read.2) := by
  obtain ⟨hnull, htrue, hfalse, hsign⟩ := digitOctet_ne h
  rw [readValue, skipSpace_cons (isSpace_digitOctet h)]
  simp only [if_neg hnull, if_neg htrue, if_neg hfalse, if_neg hsign, digit?_digitOctet h,
    Option.isSome_some, if_true]

/-- A text or a whole number is read up to its end. -/
theorem readValue_scalar {document : Json} (hscalar : Scalar document) {rest : Bytes}
    (hstops : Stops rest) (fuel depth : Nat) :
    readValue (fuel + 1) depth (writeBefore rest document) = .ok (document, rest) := by
  cases hscalar with
  | text value =>
    rw [writeBefore_string, readValue, skipSpace_cons (by decide)]
    simp only [readString_quote]
    rfl
  | @number isPositive value hfits =>
    cases isPositive with
    | true =>
      obtain ⟨digit, hdigit, octets, hoctets⟩ := exists_digitOctet value
      have hnumber := readNumber_toString hfits hstops
      rw [hoctets, List.cons_append] at hnumber
      rw [wholeNumber, if_pos rfl, writeBefore_natural, hoctets, List.cons_append,
        readValue_digitOctet hdigit, hnumber]
      rfl
    | false =>
      rw [wholeNumber, if_neg Bool.false_ne_true, writeBefore_negative, readValue,
        skipSpace_cons (by decide)]
      simp only [readNumber_toString hfits hstops]
      rfl

/-- A text or a whole number is passed over up to its end. -/
theorem skipStart_scalar {document : Json} (hscalar : Scalar document) {rest : Bytes}
    (hstops : Stops rest) :
    skipStart [] (writeBefore rest document) = .ok (true, [], rest) := by
  cases hscalar with
  | text value =>
    rw [writeBefore_string, skipStart, skipSpace_cons (by decide)]
    simp only [skipString_flatMap_escapeOctet (length_lt_fuel _ _)]
    rfl
  | @number isPositive value hfits =>
    cases isPositive with
    | true =>
      obtain ⟨digit, hdigit, octets, hoctets⟩ := exists_digitOctet value
      have hnumber := skipNumber_toString value hstops
      obtain ⟨hnull, htrue, hfalse, hsign⟩ := digitOctet_ne hdigit
      rw [hoctets, List.cons_append] at hnumber
      rw [wholeNumber, if_pos rfl, writeBefore_natural, hoctets, List.cons_append, skipStart,
        skipSpace_cons (isSpace_digitOctet hdigit)]
      simp only [if_neg hnull, if_neg htrue, if_neg hfalse, if_neg hsign, digit?_digitOctet hdigit,
        Option.isSome_some, if_true, hnumber]
      rfl
    | false =>
      rw [wholeNumber, if_neg Bool.false_ne_true, writeBefore_negative, skipStart,
        skipSpace_cons (by decide)]
      simp only [skipNumber_toString value hstops]
      rfl

theorem skipValue_scalar {document : Json} (hscalar : Scalar document) {rest : Bytes}
    (hstops : Stops rest) : skipValue (writeBefore rest document) = .ok rest := by
  rw [skipValue, skipFrom, skipStart_scalar hscalar hstops]
  rfl

end StompBroker.Json
