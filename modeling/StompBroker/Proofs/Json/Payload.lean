import StompBroker.Json.Payload
import StompBroker.Proofs.Json.Scalar
import StompBroker.Proofs.Text.Lossy

/-!
# What message bodies become

A body that the reader accepts is passed on as it is. Any other becomes a quoted text, and whoever
reads that has the characters of the body, mended where it was no text (`conveyed_payload`). The
writer and the reader agree on every text (`readFault_write_string`), so what is passed on is
accepted in any case, and passing it on once more changes nothing.
-/

set_option autoImplicit false

namespace StompBroker.Json

theorem accepts_iff {body : Bytes} :
    accepts body = true ↔ ∃ document, readFault body = .ok document := by
  unfold accepts
  cases readFault body with
  | error fault => simp [Except.toBool]
  | ok document => simp [Except.toBool]

/-- A text is read as it was written. -/
theorem readFault_write_string (text : String) :
    readFault (write (.string text)) = .ok (.string text) := by
  have hstops : Stops [] := fun octet hmem ↦ by cases hmem
  rw [readFault, write, readValue_scalar (.text text) hstops]
  rfl

theorem payload_of_ok {body : Bytes} {document : Json} (h : readFault body = .ok document) :
    payload body = body := by
  rw [payload, if_pos (accepts_iff.mpr ⟨document, h⟩)]

theorem payload_of_error {body : Bytes} {fault : Fault} (h : readFault body = .error fault) :
    payload body = write (.string (Utf8.decodeLossy body)) := by
  have hrefused : ¬accepts body = true := by
    rw [accepts_iff]
    rintro ⟨document, hdocument⟩
    rw [h] at hdocument
    cases hdocument
  rw [payload, if_neg hrefused, write, writeBefore, List.append_nil]

/-- What is passed on for a body. -/
structure Conveyed (body sent : Bytes) : Prop where
  /-- It is a document. -/
  accepted : ∃ document, readFault sent = .ok document
  /-- A document is passed on octet for octet. -/
  kept : ∀ document, readFault body = .ok document → sent = body
  /-- Anything else is a string that is read as the characters of the body, with replacement
  characters for what is broken. -/
  quoted : ∀ fault, readFault body = .error fault → ∃ text, sent = write (.string text) ∧
    readFault sent = .ok (.string text) ∧ ∀ chars, Utf8.Mended body chars ↔ text.toList = chars
  /-- A text that is no document is read as itself. -/
  plain : ∀ text fault, body = Utf8.encode text → readFault body = .error fault →
    readFault sent = .ok (.string text)
  /-- It would be passed on as it is. -/
  settled : payload sent = sent

theorem conveyed_payload (body : Bytes) : Conveyed body (payload body) := by
  cases hbody : readFault body with
  | ok document =>
    rw [payload_of_ok hbody]
    have hno (fault : Fault) : readFault body ≠ .error fault := by
      rw [hbody]
      rintro ⟨⟩
    exact {
      accepted := ⟨document, hbody⟩
      kept := fun _ _ ↦ rfl
      quoted := fun fault hfault ↦ absurd hfault (hno fault)
      plain := fun _ fault _ hfault ↦ absurd hfault (hno fault)
      settled := payload_of_ok hbody }
  | error fault =>
    rw [payload_of_error hbody]
    have hread := readFault_write_string (Utf8.decodeLossy body)
    refine {
      accepted := ⟨_, hread⟩
      kept := fun document hdocument ↦ ?_
      quoted := fun _ _ ↦ ⟨_, rfl, hread, fun chars ↦ Utf8.mended_iff⟩
      plain := fun text _ htext _ ↦ ?_
      settled := payload_of_ok hread }
    · rw [hbody] at hdocument
      cases hdocument
    · rw [hread, htext, Utf8.decodeLossy_encode]

/-- A body that is no document, with a quote in it. -/
example : payload [0x61, 0x22] = [0x22, 0x61, 0x5C, 0x22, 0x22] := by decide +kernel

end StompBroker.Json
