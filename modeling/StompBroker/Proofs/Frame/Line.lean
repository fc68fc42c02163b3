import Mathlib.Data.List.TakeWhile
import StompBroker.Frame.Codec

/-!
# Lines on the wire

`Line line content` relates a line, without the LF that ends it, to its content: one CR at the end
does not count. `line?` finds the first line of a buffer and what follows it (`line?_of_line`,
`exists_line_of_line?`), and octets that arrive later do not change that (`line?_append`).

`LineEnds` are octets that are line ends alone. `Stripped` takes as many of them off the front of a
buffer as there are; `skipLineEnds` computes what is left (`stripped_iff`).
-/

set_option autoImplicit false

namespace StompBroker.Codec

/-! ### Lines -/

/-- A line without its LF, and its content: what remains without a CR at its end. -/
inductive Line : Bytes → Bytes → Prop
  | bare {content : Bytes} :
    0x0A ∉ content → content.getLast? ≠ some 0x0D → Line content content
  | returned {content : Bytes} : 0x0A ∉ content → Line (content ++ [0x0D]) content

theorem Line.not_mem {line content : Bytes} (h : Line line content) : 0x0A ∉ line := by
  cases h with
  | bare hcontent _ => exact hcontent
  | returned hcontent => simpa using hcontent

theorem Line.not_mem_content {line content : Bytes} (h : Line line content) : 0x0A ∉ content := by
  cases h with
  | bare hcontent _ => exact hcontent
  | returned hcontent => exact hcontent

theorem Line.dropReturn_eq {line content : Bytes} (h : Line line content) :
    dropReturn line = content := by
  unfold dropReturn
  cases h with
  | bare _ hlast => rw [if_neg hlast]
  | returned _ => rw [if_pos List.getLast?_concat, List.dropLast_concat]

theorem line_dropReturn {line : Bytes} (h : 0x0A ∉ line) : Line line (dropReturn line) := by
  unfold dropReturn
  split
  · rename_i hlast
    obtain ⟨content, rfl⟩ := List.getLast?_eq_some_iff.mp hlast
    rw [List.dropLast_concat]
    exact .returned (fun hmem ↦ h (List.mem_append_left _ hmem))
  · rename_i hlast
    exact .bare h hlast

/-- A content is never longer than its line. -/
theorem Line.length_le {line content : Bytes} (h : Line line content) :
    content.length ≤ line.length := by
  cases h with
  | bare _ _ => exact Nat.le_refl _
  | returned _ => simp

/-- A line as long as its content has no CR at its end. -/
theorem Line.getLast?_ne {line content : Bytes} (h : Line line content)
    (hlength : line.length ≤ content.length) : content.getLast? ≠ some 0x0D := by
  cases h with
  | bare _ hlast => exact hlast
  | returned _ =>
    rw [List.length_append, List.length_singleton] at hlength
    omega

theorem line?_of_line {line content : Bytes} (h : Line line content) (rest : Bytes) :
    line? (line ++ 0x0A :: rest) = some (content, rest) := by
  have hall : ∀ octet ∈ line, (octet != 0x0A) = true := by
    intro octet hmem
    simp only [bne_iff_ne, ne_eq]
    rintro rfl
    exact h.not_mem hmem
  unfold line?
  rw [List.dropWhile_append_of_pos hall, List.takeWhile_append_of_pos hall]
  simp [h.dropReturn_eq]

theorem exists_line_of_line? {buffer content rest : Bytes}
    (h : line? buffer = some (content, rest)) :
    ∃ line, Line line content ∧ buffer = line ++ 0x0A :: rest := by
  have hparts := List.takeWhile_append_dropWhile (p := (· != (0x0A : UInt8))) (l := buffer)
  have hline : (0x0A : UInt8) ∉ buffer.takeWhile (· != 0x0A) := by
    intro hmem
    simpa using List.all_eq_true.mp List.all_takeWhile _ hmem
  unfold line? at h
  split at h
  · cases h
  · rename_i octet tail hdrop
    cases h
    have hoctet : octet = 0x0A := by
      have hhead := List.head?_dropWhile_not (p := (· != (0x0A : UInt8))) buffer
      simpa [hdrop] using hhead
    refine ⟨buffer.takeWhile (· != 0x0A), line_dropReturn hline, ?_⟩
    rw [hdrop, hoctet] at hparts
    exact hparts.symm

theorem line?_eq_none_iff {buffer : Bytes} : line? buffer = none ↔ 0x0A ∉ buffer := by
  constructor
  · intro h
    unfold line? at h
    split at h
    · rename_i hdrop
      intro hmem
      have hall := List.dropWhile_eq_nil_iff.mp hdrop _ hmem
      simp at hall
    · cases h
  · intro h
    cases hfound : line? buffer with
    | none => rfl
    | some parts =>
      obtain ⟨line, -, rfl⟩ := exists_line_of_line? hfound
      exact absurd (List.mem_append_right _ List.mem_cons_self) h

/-- The first line of a buffer stays its first line. -/
theorem line?_append {buffer content rest : Bytes} (h : line? buffer = some (content, rest))
    (more : Bytes) : line? (buffer ++ more) = some (content, rest ++ more) := by
  obtain ⟨line, hline, rfl⟩ := exists_line_of_line? h
  rw [List.append_assoc, List.cons_append]
  exact line?_of_line hline _

/-! ### Line ends -/

/-- Octets that are line ends: LF, with or without a CR before it. -/
inductive LineEnds : Bytes → Prop
  | nil : LineEnds []
  | feed {rest : Bytes} : LineEnds rest → LineEnds (0x0A :: rest)
  | returnFeed {rest : Bytes} : LineEnds rest → LineEnds (0x0D :: 0x0A :: rest)

/-- A buffer, its longest front of line ends, and the octets after that front. -/
structure Stripped (buffer ends input : Bytes) : Prop where
  lineEnds : LineEnds ends
  split : buffer = ends ++ input
  longest : ∀ longer rest, LineEnds longer → buffer = longer ++ rest →
    longer.length ≤ ends.length

theorem skipLineEnds_lineEnds_append {ends : Bytes} (h : LineEnds ends) (rest : Bytes) :
    skipLineEnds (ends ++ rest) = skipLineEnds rest := by
  induction h with
  | nil => rfl
  | feed _ ih => rw [List.cons_append, skipLineEnds, ih]
  | returnFeed _ ih => rw [List.cons_append, List.cons_append, skipLineEnds, ih]

theorem exists_lineEnds_append (buffer : Bytes) :
    ∃ ends, LineEnds ends ∧ buffer = ends ++ skipLineEnds buffer := by
  fun_induction skipLineEnds buffer with
  | case1 rest ih =>
    obtain ⟨ends, hends, heq⟩ := ih
    exact ⟨0x0A :: ends, .feed hends, by rw [List.cons_append, ← heq]⟩
  | case2 rest ih =>
    obtain ⟨ends, hends, heq⟩ := ih
    exact ⟨0x0D :: 0x0A :: ends, .returnFeed hends, by
      rw [List.cons_append, List.cons_append, ← heq]⟩
  | case3 buffer => exact ⟨[], .nil, rfl⟩

theorem length_skipLineEnds_le (buffer : Bytes) :
    (skipLineEnds buffer).length ≤ buffer.length := by
  obtain ⟨ends, -, heq⟩ := exists_lineEnds_append buffer
  have hlength := congrArg List.length heq
  rw [List.length_append] at hlength
  omega

/-- Skipping before more octets arrive does not change what is skipped once they have. -/
theorem skipLineEnds_append (buffer more : Bytes) :
    skipLineEnds (buffer ++ more) = skipLineEnds (skipLineEnds buffer ++ more) := by
  obtain ⟨ends, hends, heq⟩ := exists_lineEnds_append buffer
  conv => lhs; rw [heq, List.append_assoc, skipLineEnds_lineEnds_append hends]

/-- A buffer that starts with neither LF nor CR has no line ends at its front. -/
theorem skipLineEnds_cons_of_ne {octet : UInt8} {rest : Bytes} (hfeed : octet ≠ 0x0A)
    (hreturn : octet ≠ 0x0D) : skipLineEnds (octet :: rest) = octet :: rest := by
  rw [skipLineEnds]
  · rintro tail ⟨⟩
    exact hfeed rfl
  · rintro tail ⟨⟩
    exact hreturn rfl

theorem stripped_iff {buffer input : Bytes} :
    (∃ ends, Stripped buffer ends input) ↔ input = skipLineEnds buffer := by
  obtain ⟨ends, hends, heq⟩ := exists_lineEnds_append buffer
  have hlongest : ∀ longer rest, LineEnds longer → buffer = longer ++ rest →
      longer.length ≤ ends.length := by
    intro longer rest hlonger hsplit
    have hskip : skipLineEnds buffer = skipLineEnds rest := by
      rw [hsplit, skipLineEnds_lineEnds_append hlonger]
    have hle := length_skipLineEnds_le rest
    have htotal := congrArg List.length (heq.symm.trans hsplit)
    rw [List.length_append, List.length_append, hskip] at htotal
    omega
  constructor
  · rintro ⟨other, hother⟩
    have hlength : other.length = ends.length :=
      Nat.le_antisymm (hlongest _ _ hother.lineEnds hother.split) (hother.longest _ _ hends heq)
    exact (List.append_inj (hother.split.symm.trans heq) hlength).2
  · rintro rfl
    exact ⟨ends, hends, heq, hlongest⟩

end StompBroker.Codec
