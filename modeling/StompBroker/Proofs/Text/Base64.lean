import StompBroker.Text.Base64

/-!
# Octets that are written in Base64 and read back

In both alphabets the character of six bits is read as these six bits (`Alphabet.Reads`), so reading
the characters of octets gives their groups of six bits (`sextets`), and the groups join to the
octets again (`joinBits_sextets`). Hence `decode?` reads whatever `encode` writes
(`decode?_encode`).
-/

set_option autoImplicit false

namespace StompBroker.Base64

/-- The groups of six bits that the characters of octets stand for. -/
def sextets : Bytes → List Nat
  | [] => []
  | [first] => [first.toNat / 4, first.toNat % 4 * 16]
  | [first, second] =>
    [first.toNat / 4, first.toNat % 4 * 16 + second.toNat / 16, second.toNat % 16 * 4]
  | first :: second :: third :: rest =>
    first.toNat / 4 :: (first.toNat % 4 * 16 + second.toNat / 16) ::
      (second.toNat % 16 * 4 + third.toNat / 64) :: third.toNat % 64 :: sextets rest

/-- Every character of the alphabet is read as what it stands for. -/
def Alphabet.Reads (alphabet : Alphabet) : Prop :=
  ∀ value < 64, alphabet.value? (alphabet.char value) = some value

theorem urlSafe_reads : urlSafe.Reads := by
  unfold Alphabet.Reads
  decide

theorem standard_reads : standard.Reads := by
  unfold Alphabet.Reads
  decide

theorem encodeChars_eq_map (alphabet : Alphabet) (octets : Bytes) :
    encodeChars alphabet octets = (sextets octets).map alphabet.char := by
  fun_induction encodeChars alphabet octets with
  | case1 => rfl
  | case2 first => rfl
  | case3 first second => rfl
  | case4 first second third rest ih => simp only [sextets, List.map_cons, ih]

theorem lt_of_mem_sextets {octets : Bytes} {value : Nat} (h : value ∈ sextets octets) :
    value < 64 := by
  fun_induction sextets octets with
  | case1 => cases h
  | case2 first =>
    have hfirst := first.toNat_lt
    simp only [List.mem_cons, List.not_mem_nil, or_false] at h
    omega
  | case3 first second =>
    have hfirst := first.toNat_lt
    have hsecond := second.toNat_lt
    simp only [List.mem_cons, List.not_mem_nil, or_false] at h
    omega
  | case4 first second third rest ih =>
    have hfirst := first.toNat_lt
    have hsecond := second.toNat_lt
    have hthird := third.toNat_lt
    simp only [List.mem_cons] at h
    rcases h with rfl | rfl | rfl | rfl | h
    · omega
    · omega
    · omega
    · omega
    · exact ih h

theorem mapM_value?_map_char {alphabet : Alphabet} (hreads : alphabet.Reads) {values : List Nat}
    (h : ∀ value ∈ values, value < 64) :
    (values.map alphabet.char).mapM alphabet.value? = some values := by
  induction values with
  | nil => rfl
  | cons value values ih =>
    rw [List.map_cons, List.mapM_cons, hreads value (h value List.mem_cons_self),
      ih fun other hmem ↦ h other (List.mem_cons_of_mem _ hmem)]
    rfl

theorem joinBits_sextets (octets : Bytes) : joinBits (sextets octets) = some octets := by
  fun_induction sextets octets with
  | case1 => rfl
  | case2 first =>
    have hfirst : first.toNat / 4 * 4 + first.toNat % 4 * 16 / 16 = first.toNat := by omega
    rw [joinBits, if_pos (by omega), hfirst, UInt8.ofNat_toNat]
  | case3 first second =>
    have hbound := second.toNat_lt
    have hfirst : first.toNat / 4 * 4 + (first.toNat % 4 * 16 + second.toNat / 16) / 16 =
        first.toNat := by omega
    have hsecond : (first.toNat % 4 * 16 + second.toNat / 16) % 16 * 16 +
        second.toNat % 16 * 4 / 4 = second.toNat := by omega
    rw [joinBits, if_pos (by omega), hfirst, hsecond, UInt8.ofNat_toNat, UInt8.ofNat_toNat]
  | case4 first second third rest ih =>
    have hbound := second.toNat_lt
    have hlast := third.toNat_lt
    have hfirst : first.toNat / 4 * 4 + (first.toNat % 4 * 16 + second.toNat / 16) / 16 =
        first.toNat := by omega
    have hsecond : (first.toNat % 4 * 16 + second.toNat / 16) % 16 * 16 +
        (second.toNat % 16 * 4 + third.toNat / 64) / 4 = second.toNat := by omega
    have hthird : (second.toNat % 16 * 4 + third.toNat / 64) % 4 * 64 + third.toNat % 64 =
        third.toNat := by omega
    rw [joinBits, ih, Option.map_some, hfirst, hsecond, hthird, UInt8.ofNat_toNat,
      UInt8.ofNat_toNat, UInt8.ofNat_toNat]

theorem decode?_encode {alphabet : Alphabet} (hreads : alphabet.Reads) (octets : Bytes) :
    decode? alphabet (encode alphabet octets) = some octets := by
  rw [decode?, encode, String.toList_ofList, encodeChars_eq_map,
    mapM_value?_map_char hreads fun _ ↦ lt_of_mem_sextets, Option.bind_some, joinBits_sextets]

theorem length_encode (alphabet : Alphabet) (octets : Bytes) :
    (encode alphabet octets).length = (4 * octets.length + 2) / 3 := by
  rw [encode, String.length_ofList]
  fun_induction encodeChars alphabet octets with
  | case1 => rfl
  | case2 first => simp
  | case3 first second => simp
  | case4 first second third rest ih =>
    simp only [List.length_cons, ih]
    omega

/-- Whatever holds of every character of the alphabet holds of every character of a text. -/
theorem all_encode {alphabet : Alphabet} (property : Char → Prop)
    (h : ∀ value < 64, property (alphabet.char value)) (octets : Bytes) :
    ∀ c ∈ (encode alphabet octets).toList, property c := by
  intro c hmem
  rw [encode, String.toList_ofList, encodeChars_eq_map, List.mem_map] at hmem
  obtain ⟨value, hvalue, rfl⟩ := hmem
  exact h value (lt_of_mem_sextets hvalue)

end StompBroker.Base64
