import StompBroker.Proofs.Text.Split
import StompBroker.Token.Web

/-!
# Tokens that are signed and verified

The parts of a token are written in the characters of URL-safe Base64, so the points between them
are its only ones (`splitLast?_append_writePart`) and its signature is found again. A token under
one's own signature is therefore judged by its claims alone (`verify_sign`).
-/

set_option autoImplicit false

namespace StompBroker

namespace Base64

/-- The characters of an alphabet. -/
def Alphabet.chars (alphabet : Alphabet) : List Char :=
  (List.range 64).map alphabet.char

theorem Alphabet.char_mem (alphabet : Alphabet) (value : Nat) :
    alphabet.char value ∈ alphabet.chars := by
  unfold chars
  by_cases hvalue : value < 64
  · exact List.mem_map_of_mem (List.mem_range.mpr hvalue)
  · have hlast : alphabet.char value = alphabet.char 63 := by
      unfold char
      rw [if_neg (by omega), if_neg (by omega), if_neg (by omega), if_neg (by omega)]
      rfl
    rw [hlast]
    exact List.mem_map_of_mem (List.mem_range.mpr (by decide))

theorem mem_chars_of_mem_encodeChars {alphabet : Alphabet} {octets : Bytes} {c : Char}
    (h : c ∈ encodeChars alphabet octets) : c ∈ alphabet.chars := by
  fun_induction encodeChars alphabet octets with
  | case1 => cases h
  | case2 first =>
    simp only [List.mem_cons, List.not_mem_nil, or_false] at h
    rcases h with rfl | rfl <;> exact alphabet.char_mem _
  | case3 first second =>
    simp only [List.mem_cons, List.not_mem_nil, or_false] at h
    rcases h with rfl | rfl | rfl <;> exact alphabet.char_mem _
  | case4 first second third rest ih =>
    simp only [List.mem_cons] at h
    rcases h with rfl | rfl | rfl | rfl | h
    · exact alphabet.char_mem _
    · exact alphabet.char_mem _
    · exact alphabet.char_mem _
    · exact alphabet.char_mem _
    · exact ih h

end Base64

namespace WebToken

theorem mem_chars_of_mem_writePart {octets : Bytes} {c : Char} (h : c ∈ (writePart octets).toList) :
    c ∈ Base64.urlSafe.chars := by
  rw [writePart, Base64.encode, String.toList_ofList] at h
  exact Base64.mem_chars_of_mem_encodeChars h

/-- The last part of a token is the one behind its last point. -/
theorem splitLast?_append_writePart (front : String) (octets : Bytes) :
    splitLast? (front ++ "." ++ writePart octets) = some (front, writePart octets) := by
  have hpoint : '.' ∉ (writePart octets).toList := fun hmem ↦
    absurd (mem_chars_of_mem_writePart hmem) (by decide)
  have hsplit : Text.splitCharsOnce? '.' (front ++ "." ++ writePart octets).toList.reverse =
      some ((writePart octets).toList.reverse, front.toList.reverse) := by
    rw [Text.splitCharsOnce?_eq_some_iff]
    exact ⟨by simpa using hpoint, by simp⟩
  rw [splitLast?, hsplit, Option.map_some, List.reverse_reverse, List.reverse_reverse,
    String.ofList_toList, String.ofList_toList]

theorem mem_sign {key : Bytes} {document : Json} {c : Char} (h : c ∈ (sign key document).toList) :
    c ∈ Base64.urlSafe.chars ∨ c = '.' := by
  have hpoint : ∀ c ∈ ".".toList, c = '.' := by simp
  simp only [sign, signature, String.toList_append, List.mem_append] at h
  rcases h with (((h | h) | h) | h) | h
  · exact .inl (mem_chars_of_mem_writePart h)
  · exact .inr (hpoint c h)
  · exact .inl (mem_chars_of_mem_writePart h)
  · exact .inr (hpoint c h)
  · exact .inl (mem_chars_of_mem_writePart h)

theorem isEmpty_sign (key : Bytes) (document : Json) : (sign key document).isEmpty = false := by
  have hpoint : '.' ∈ (sign key document).toList := by
    simp [sign]
  rw [Bool.eq_false_iff, ne_eq, String.isEmpty_iff]
  intro hempty
  rw [hempty] at hpoint
  cases hpoint

/-- The claims that the middle part of a token carries, if nothing speaks against them. -/
def readClaims (issuer body : String) : Except TokenError Claims := do
  let document ← readPart Claims.shape body
  let others ← readPart registered body
  if !isPlain (others.member? "sub") then throw .malformed
  match Claims.ofJson? document with
  | none => throw .malformed
  | some claims =>
    if claims.issuer != issuer then throw .invalid
    if (others.member? "aud").any namesAudience then throw .invalid
    return claims

theorem readPart_header : readPart headerShape (writePart (Json.write header)) = .ok header := by
  with_unfolding_all rfl

/-- A signature under the same key holds. -/
theorem verify_sign (key : Bytes) (issuer : String) (document : Json) :
    verify key issuer (sign key document) =
      readClaims issuer (writePart (Json.write document)) := by
  have halgorithm : (header.member? "alg").bind Json.string? = some "HS512" := rfl
  have hknown : (!algorithms.contains "HS512" || !hasUsableKey header) = false := rfl
  unfold verify sign
  simp only
  rw [signature, splitLast?_append_writePart]
  simp only
  rw [splitLast?_append_writePart]
  simp only [readPart_header, bind, Except.bind, halgorithm, hknown, signature, bne_self_eq_false,
    Bool.false_eq_true, if_false]
  rfl

end WebToken

end StompBroker
