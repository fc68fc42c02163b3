import StompBroker.Proofs.Frame.RoundTrip
import StompBroker.Proofs.Text.Decimal

/-!
# Frames of the server

A `ServerFrame` comes from one of the constructors for what a server says. It declares the length of
its body if it has one, and its header names are plain, so only the values of its headers can keep
it from being read back: where nothing is escaped they have to be a `PlainValue`
(`decode_encode_iff_of_server`).

An unescaped frame that was itself read from the wire has no LF in its headers
(`newline_not_mem_of_decode`).
-/

set_option autoImplicit false

namespace StompBroker

/-- A text that can stand unescaped as the value of a header. -/
def PlainValue (text : String) : Prop :=
  '\n' ∉ text.toList ∧ text.toList.getLast? ≠ some '\r'

/-- A frame as the server builds it. -/
inductive ServerFrame : Frame → Prop
  | connected (version : Version) (session : String) : ServerFrame (.connected version session)
  | message (destination subscription messageId contentType : String) (body : Bytes) :
    ServerFrame (.message destination subscription messageId contentType body)
  | receipt (receiptId : String) : ServerFrame (.receipt receiptId)
  | error (message : String) (detail : Option String) : ServerFrame (.error message detail)

theorem Frame.mem_of_header? {frame : Frame} {name value : String}
    (h : frame.header? name = some value) : (name, value) ∈ frame.headers := by
  unfold Frame.header? at h
  obtain ⟨header, hfind, rfl⟩ := Option.map_eq_some_iff.mp h
  have hname := List.find?_some hfind
  obtain rfl : header.1 = name := by simpa using hname
  exact List.mem_of_find?_eq_some hfind

namespace ServerFrame

variable {frame : Frame}

/-- The names of the headers that a server writes. -/
def names : List String :=
  [Header.version, Header.session, Header.destination, Header.subscription, Header.messageId,
    Header.contentType, Header.contentLength, Header.receiptId, Header.message]

theorem name_mem (h : ServerFrame frame) {header : String × String}
    (hmem : header ∈ frame.headers) : header.1 ∈ names := by
  cases h with
  | connected version session =>
    simp only [Frame.connected, List.mem_cons, List.not_mem_nil, or_false] at hmem
    rcases hmem with rfl | rfl <;> simp [names]
  | message destination subscription messageId contentType body =>
    simp only [Frame.message, List.mem_cons, List.not_mem_nil, or_false] at hmem
    rcases hmem with rfl | rfl | rfl | rfl | rfl <;> simp [names]
  | receipt receiptId =>
    simp only [Frame.receipt, List.mem_cons, List.not_mem_nil, or_false] at hmem
    simp [names, hmem]
  | error message detail =>
    cases detail with
    | none =>
      simp only [Frame.error, List.mem_cons, List.not_mem_nil, or_false] at hmem
      simp [names, hmem]
    | some detail =>
      simp only [Frame.error, List.mem_cons, List.not_mem_nil, or_false] at hmem
      rcases hmem with rfl | rfl | rfl <;> simp [names]

/-- The names of a server's headers hold neither a colon nor a LF. -/
theorem plain_name (h : ServerFrame frame) {header : String × String}
    (hmem : header ∈ frame.headers) : ':' ∉ header.1.toList ∧ '\n' ∉ header.1.toList := by
  have hplain : ∀ name ∈ names, ':' ∉ name.toList ∧ '\n' ∉ name.toList := by decide
  exact hplain _ (h.name_mem hmem)

/-- The end of a server's frame can be told. -/
theorem delimited (h : ServerFrame frame) {limit : Nat} (hlimit : limit ≤ maxUnsigned64)
    (hbody : frame.body.length ≤ limit) : Codec.Delimited limit frame := by
  cases h with
  | connected version session => exact .terminated rfl (by simp [Frame.connected])
  | message destination subscription messageId contentType body =>
    have hle : body.length ≤ maxUnsigned64 := Nat.le_trans hbody hlimit
    exact .counted rfl (Text.natural?_trim_toString hle) hbody
  | receipt receiptId => exact .terminated rfl (by simp [Frame.receipt])
  | error message detail =>
    cases detail with
    | none => exact .terminated rfl (by simp [Frame.error])
    | some detail =>
      have hle : (Utf8.encode detail).length ≤ maxUnsigned64 := Nat.le_trans hbody hlimit
      exact .counted rfl (Text.natural?_trim_toString hle) hbody

end ServerFrame

namespace Codec

theorem length_body_le_length_encode (version : Version) (frame : Frame) :
    frame.body.length ≤ (encode version frame).length := by
  simp only [encode, List.length_append, List.length_cons]
  omega

/-- A server's frame is read back, alone and whole, exactly if it has a size at all and its values
are plain or escaped. -/
theorem decode_encode_iff_of_server {version : Version} {frame : Frame} (h : ServerFrame frame) :
    decode ⟨version, maxUnsigned64⟩ (encode version frame) = .frame frame [] ↔
      (encode version frame).length ≤ maxUnsigned64 ∧
        (escapes version frame.command = false →
          ∀ header ∈ frame.headers, PlainValue header.2) := by
  have hread := @decode_encode_append_iff ⟨version, maxUnsigned64⟩ (Nat.le_refl _) frame []
  rw [List.append_nil] at hread
  rw [hread]
  constructor
  · rintro ⟨-, hsize, hplain⟩
    refine ⟨hsize, fun hescaped header hmem ↦ ?_⟩
    exact ⟨(hplain hescaped header hmem).value_newline, (hplain hescaped header hmem).value_end⟩
  · rintro ⟨hsize, hplain⟩
    have hbody := Nat.le_trans (length_body_le_length_encode version frame) hsize
    refine ⟨h.delimited (Nat.le_refl _) hbody, hsize, fun hescaped header hmem ↦ ?_⟩
    obtain ⟨hcolon, hnewline⟩ := h.plain_name hmem
    obtain ⟨hvalue, hend⟩ := hplain hescaped header hmem
    exact ⟨hcolon, hnewline, hvalue, hend⟩

theorem newline_not_mem_of_headerLines {block : Bytes} {headers : List (String × String)}
    (h : HeaderLines false block headers) {header : String × String} (hmem : header ∈ headers) :
    '\n' ∉ header.1.toList ∧ '\n' ∉ header.2.toList := by
  induction h with
  | nil => cases hmem
  | @cons line content block first headers hline hfirst _ ih =>
    rcases List.mem_cons.mp hmem with rfl | hmem
    · obtain ⟨name, value, rfl, -, hname, hvalue⟩ := hfirst
      obtain rfl : name = header.1 := hname
      obtain rfl : value = header.2 := hvalue
      have hnewline : '\n' ∉ (header.1 ++ ":" ++ header.2).toList := fun hnewline ↦
        hline.not_mem_content (Utf8.feed_mem_encode_iff.mpr hnewline)
      simp only [String.toList_append, List.mem_append, not_or] at hnewline
      exact ⟨hnewline.1.1, hnewline.2⟩
    · exact ih hmem

/-- Where nothing is escaped, a line end cannot get into a header. -/
theorem newline_not_mem_of_decode {codec : Codec} {buffer rest : Bytes} {frame : Frame}
    (h : codec.decode buffer = .frame frame rest)
    (hescaped : escapes codec.version frame.command = false) {header : String × String}
    (hmem : header ∈ frame.headers) : '\n' ∉ header.1.toList ∧ '\n' ∉ header.2.toList := by
  obtain ⟨hread, -⟩ := decode_eq_frame_iff.mp h
  obtain ⟨⟨first, block, blank, hspelling, -⟩, -⟩ := readFrame_eq_complete_iff.mp hread
  have hheaders := hspelling.headers
  rw [hescaped] at hheaders
  exact newline_not_mem_of_headerLines hheaders hmem

end Codec

end StompBroker
