import StompBroker.Text.Utf8

/-!
# The octets of a text

`Utf8.encode` writes a text character by character (`encode_eq_flatMap`), so the octets of joined
texts are the joined octets (`encode_append`), and no two texts have the same octets
(`encode_injective`). `Utf8.decode?` reads exactly what `Utf8.encode` writes
(`decode?_eq_some_iff`).

A character of ASCII is one octet, and the octets of every other character lie above ASCII. A
separator of the protocol therefore occurs in the octets of a text exactly where the text has its
character (`mem_encode_iff`), and it ends the octets exactly if it ends the text
(`getLast?_encode_iff`).
-/

set_option autoImplicit false

namespace StompBroker.Utf8

theorem encode_eq_flatMap (text : String) :
    encode text = text.toList.flatMap String.utf8EncodeChar := by
  simp only [encode, String.toUTF8_eq_toByteArray]
  rw [← String.utf8Encode_toList, List.utf8Encode, List.toList_data_toByteArray]

@[simp] theorem encode_empty : encode "" = [] := by
  simp [encode_eq_flatMap]

@[simp] theorem encode_append (left right : String) :
    encode (left ++ right) = encode left ++ encode right := by
  simp only [encode_eq_flatMap, String.toList_append, List.flatMap_append]

theorem encode_injective {left right : String} (h : encode left = encode right) :
    left = right := by
  refine String.toByteArray_inj.mp (ByteArray.ext ?_)
  exact Array.toList_inj.mp h

/-- The strict reader is the inverse of the writer. -/
theorem decode?_eq_some_iff {octets : Bytes} {text : String} :
    decode? octets = some text ↔ encode text = octets := by
  unfold decode? String.fromUTF8?
  constructor
  · intro h
    split at h
    · simp only [Option.some.injEq] at h
      subst h
      simp [encode, String.fromUTF8]
    · simp at h
  · intro h
    have hbytes : octets.toByteArray = text.toByteArray := by
      apply ByteArray.ext
      apply Array.toList_inj.mp
      rw [List.toList_data_toByteArray]
      exact h.symm
    rw [dif_pos (hbytes ▸ text.isValidUTF8)]
    simp only [Option.some.injEq, ← String.toByteArray_inj]
    exact hbytes

@[simp] theorem decode?_encode (text : String) : decode? (encode text) = some text :=
  decode?_eq_some_iff.mpr rfl

/-! ### Separators -/

theorem utf8EncodeChar_of_ascii {c : Char} (h : c.toNat < 128) :
    String.utf8EncodeChar c = [UInt8.ofNat c.toNat] := by
  unfold String.utf8EncodeChar
  have hsmall : c.val.toNat ≤ 0x7f := by
    have : c.val.toNat < 128 := h
    omega
  simp only [hsmall, if_true]
  rfl

/-- The octets of a character outside ASCII are themselves outside ASCII. -/
theorem le_of_mem_utf8EncodeChar {c : Char} {octet : UInt8} (h : 128 ≤ c.toNat)
    (hmem : octet ∈ String.utf8EncodeChar c) : 128 ≤ octet.toNat := by
  have hlarge : ¬ c.val.toNat ≤ 0x7f := by
    have : 128 ≤ c.val.toNat := h
    omega
  unfold String.utf8EncodeChar at hmem
  simp only [hlarge, if_false] at hmem
  split at hmem
  · simp only [List.mem_cons, List.not_mem_nil, or_false] at hmem
    rcases hmem with rfl | rfl <;> simp only [UInt8.toNat_ofNat'] <;> omega
  · split at hmem
    · simp only [List.mem_cons, List.not_mem_nil, or_false] at hmem
      rcases hmem with rfl | rfl | rfl <;> simp only [UInt8.toNat_ofNat'] <;> omega
    · simp only [List.mem_cons, List.not_mem_nil, or_false] at hmem
      rcases hmem with rfl | rfl | rfl | rfl <;> simp only [UInt8.toNat_ofNat'] <;> omega

/-- A separator lies in the octets of a character only if it is that character. -/
theorem mem_utf8EncodeChar_iff {c separator : Char} (h : separator.toNat < 128) :
    UInt8.ofNat separator.toNat ∈ String.utf8EncodeChar c ↔ c = separator := by
  rcases Nat.lt_or_ge c.toNat 128 with hc | hc
  · rw [utf8EncodeChar_of_ascii hc, List.mem_singleton]
    constructor
    · intro heq
      have hnat := congrArg UInt8.toNat heq
      simp only [UInt8.toNat_ofNat'] at hnat
      exact Char.toNat_inj.mp (by omega)
    · rintro rfl
      rfl
  · constructor
    · intro hmem
      have hlarge := le_of_mem_utf8EncodeChar hc hmem
      simp only [UInt8.toNat_ofNat'] at hlarge
      omega
    · rintro rfl
      omega

theorem mem_encode_iff {text : String} {separator : Char} (h : separator.toNat < 128) :
    UInt8.ofNat separator.toNat ∈ encode text ↔ separator ∈ text.toList := by
  rw [encode_eq_flatMap, List.mem_flatMap]
  constructor
  · rintro ⟨c, hc, hmem⟩
    exact (mem_utf8EncodeChar_iff h).mp hmem ▸ hc
  · intro hmem
    exact ⟨separator, hmem, (mem_utf8EncodeChar_iff h).mpr rfl⟩

theorem getLast?_encode_iff {text : String} {separator : Char} (h : separator.toNat < 128) :
    (encode text).getLast? = some (UInt8.ofNat separator.toNat) ↔
      text.toList.getLast? = some separator := by
  rw [encode_eq_flatMap]
  rcases List.eq_nil_or_concat text.toList with hnil | ⟨front, c, hconcat⟩
  · simp [hnil]
  · rw [hconcat, List.concat_eq_append, List.flatMap_append, List.getLast?_concat]
    simp only [List.flatMap_cons, List.flatMap_nil, List.append_nil, Option.some.injEq]
    have hlast : (front.flatMap String.utf8EncodeChar ++ String.utf8EncodeChar c).getLast? =
        (String.utf8EncodeChar c).getLast? := by
      rw [List.getLast?_append, List.getLast?_eq_some_getLast String.utf8EncodeChar_ne_nil,
        Option.some_or]
    rw [hlast]
    rcases Nat.lt_or_ge c.toNat 128 with hc | hc
    · rw [← mem_utf8EncodeChar_iff h, utf8EncodeChar_of_ascii hc]
      simp [eq_comm]
    · constructor
      · intro hlast
        have hlarge := le_of_mem_utf8EncodeChar hc (List.mem_of_getLast? hlast)
        simp only [UInt8.toNat_ofNat'] at hlarge
        omega
      · rintro rfl
        omega

theorem feed_mem_encode_iff {text : String} : 0x0A ∈ encode text ↔ '\n' ∈ text.toList :=
  @mem_encode_iff text '\n' (by decide)

theorem return_mem_encode_iff {text : String} : 0x0D ∈ encode text ↔ '\r' ∈ text.toList :=
  @mem_encode_iff text '\r' (by decide)

theorem colon_mem_encode_iff {text : String} : 0x3A ∈ encode text ↔ ':' ∈ text.toList :=
  @mem_encode_iff text ':' (by decide)

theorem getLast?_encode_eq_return_iff {text : String} :
    (encode text).getLast? = some 0x0D ↔ text.toList.getLast? = some '\r' :=
  @getLast?_encode_iff text '\r' (by decide)

end StompBroker.Utf8
