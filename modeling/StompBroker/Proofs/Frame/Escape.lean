import StompBroker.Frame.Escape

/-!
# The grammar of escaped headers

`Escaped written meant` says that `written` is a sequence of plain characters and of the four
defined pairs, and that `meant` is what it stands for. `unescape` reads this grammar and nothing
else (`unescape_eq_ok_iff`). `escape` writes a text of the grammar that stands for its input
(`escaped_escapeChars`) and holds none of the characters that end a line or a header name
(`not_mem_escapeChars`). A text of the grammar that holds none of them either is the written form of
what it stands for (`escapeChars_eq_iff`).
-/

set_option autoImplicit false

namespace StompBroker.Header

/-- The letter after a backslash, and the character that the pair stands for. -/
inductive EscapePair : Char → Char → Prop
  | backslash : EscapePair '\\' '\\'
  | carriageReturn : EscapePair 'r' '\r'
  | newline : EscapePair 'n' '\n'
  | colon : EscapePair 'c' ':'

/-- An escaped text and the text that it stands for: read from left to right, every backslash starts
a pair. -/
inductive Escaped : List Char → List Char → Prop
  | nil : Escaped [] []
  | plain {c : Char} {written meant : List Char} :
    c ≠ '\\' → Escaped written meant → Escaped (c :: written) (c :: meant)
  | pair {letter c : Char} {written meant : List Char} :
    EscapePair letter c → Escaped written meant → Escaped ('\\' :: letter :: written) (c :: meant)

/-! ### Reading -/

theorem unescapeChar?_eq_some_iff {letter c : Char} :
    unescapeChar? letter = some c ↔ EscapePair letter c := by
  constructor
  · intro h
    unfold unescapeChar? at h
    split at h
    · cases h; exact .backslash
    · cases h; exact .carriageReturn
    · cases h; exact .newline
    · cases h; exact .colon
    · cases h
  · intro h
    cases h <;> rfl

/-- A character that neither ends the text as a backslash nor starts a pair is plain. -/
theorem ne_backslash {c : Char} {rest : List Char} (hdangling : c = '\\' → rest = [] → False)
    (hpair : ∀ letter tail, c = '\\' → rest = letter :: tail → False) : c ≠ '\\' := by
  rintro rfl
  cases rest with
  | nil => exact hdangling rfl rfl
  | cons letter tail => exact hpair letter tail rfl rfl

/-- What `unescapeInto` adds to the characters already read is what the text stands for. -/
theorem escaped_of_unescapeInto {read written result : List Char}
    (h : unescapeInto read written = .ok result) :
    ∃ meant, Escaped written meant ∧ result = read.reverse ++ meant := by
  fun_induction unescapeInto read written with
  | case1 read =>
    cases h
    exact ⟨[], .nil, (List.append_nil _).symm⟩
  | case2 read => cases h
  | case3 read letter rest plain hplain ih =>
    obtain ⟨meant, hescaped, rfl⟩ := ih h
    exact ⟨plain :: meant, .pair (unescapeChar?_eq_some_iff.mp hplain) hescaped, by simp⟩
  | case4 read letter rest hundefined => cases h
  | case5 read c rest hdangling hpair ih =>
    obtain ⟨meant, hescaped, rfl⟩ := ih h
    exact ⟨c :: meant, .plain (ne_backslash hdangling hpair) hescaped, by simp⟩

theorem unescapeInto_of_escaped {written meant : List Char} (h : Escaped written meant)
    (read : List Char) : unescapeInto read written = .ok (read.reverse ++ meant) := by
  induction h generalizing read with
  | nil => simp [unescapeInto]
  | @plain c written meant hc _ ih =>
    rw [unescapeInto]
    · rw [ih]
      simp
    · rintro rfl
      exact absurd rfl hc
    · rintro letter rest rfl
      exact absurd rfl hc
  | @pair letter c written meant hpair _ ih =>
    rw [unescapeInto, unescapeChar?_eq_some_iff.mpr hpair]
    simp only
    rw [ih]
    simp

/-- Reading succeeds on the texts of the grammar, with what they stand for. -/
theorem unescape_eq_ok_iff {written meant : String} :
    unescape written = .ok meant ↔ Escaped written.toList meant.toList := by
  unfold unescape unescapeChars
  constructor
  · intro h
    cases hread : unescapeInto [] written.toList with
    | error cause =>
      rw [hread] at h
      cases h
    | ok result =>
      rw [hread] at h
      cases h
      obtain ⟨meant, hescaped, rfl⟩ := escaped_of_unescapeInto hread
      simpa using hescaped
  · intro h
    rw [unescapeInto_of_escaped h]
    simp [Except.map]

/-! ### Writing -/

/-- The characters that must not occur in a written header name: those of a line end and the one
after the name. -/
def separators : List Char := ['\n', '\r', ':']

theorem escaped_escapeChar_append (c : Char) {written meant : List Char}
    (h : Escaped written meant) : Escaped (escapeChar c ++ written) (c :: meant) := by
  unfold escapeChar
  split
  · exact .pair .backslash h
  · exact .pair .carriageReturn h
  · exact .pair .newline h
  · exact .pair .colon h
  · exact .plain (by assumption) h

/-- The written form of a text stands for the text. -/
theorem escaped_escapeChars (chars : List Char) : Escaped (escapeChars chars) chars := by
  induction chars with
  | nil => exact .nil
  | cons c rest ih => exact escaped_escapeChar_append c ih

theorem not_mem_escapeChar {separator : Char} (h : separator ∈ separators) (c : Char) :
    separator ∉ escapeChar c := by
  intro hc
  simp only [separators, List.mem_cons, List.not_mem_nil, or_false] at h
  unfold escapeChar at hc
  split at hc
  case h_5 hbackslash hreturn hnewline hcolon =>
    obtain rfl := List.mem_singleton.mp hc
    rcases h with rfl | rfl | rfl
    · exact hnewline rfl
    · exact hreturn rfl
    · exact hcolon rfl
  all_goals rcases h with rfl | rfl | rfl <;> simp at hc

theorem not_mem_escapeChars {separator : Char} (h : separator ∈ separators) (chars : List Char) :
    separator ∉ escapeChars chars := by
  intro hmem
  obtain ⟨c, -, hc⟩ := List.mem_flatMap.mp hmem
  exact not_mem_escapeChar h c hc

/-! ### Written as it was read -/

theorem escapeChar_of_not_mem {c : Char} (hplain : c ≠ '\\') (h : c ∉ separators) :
    escapeChar c = [c] := by
  simp only [separators, List.mem_cons, List.not_mem_nil, or_false, not_or] at h
  obtain ⟨hnewline, hreturn, hcolon⟩ := h
  unfold escapeChar
  split
  · exact absurd rfl hplain
  · exact absurd rfl hreturn
  · exact absurd rfl hnewline
  · exact absurd rfl hcolon
  · rfl

theorem escapeChar_of_pair {letter c : Char} (h : EscapePair letter c) :
    escapeChar c = ['\\', letter] := by
  cases h <;> rfl

/-- A text of the grammar is written again as it was exactly if it holds no separator. -/
theorem escapeChars_eq_iff {written meant : List Char} (h : Escaped written meant) :
    escapeChars meant = written ↔ ∀ separator ∈ separators, separator ∉ written := by
  constructor
  · rintro rfl separator hseparator
    exact not_mem_escapeChars hseparator meant
  · intro hplain
    induction h with
    | nil => rfl
    | @plain c written meant hc _ ih =>
      have hfront : c ∉ separators := fun hmem ↦ hplain c hmem List.mem_cons_self
      have hrest : escapeChars meant = written := ih fun separator hseparator hmem ↦
        hplain separator hseparator (List.mem_cons_of_mem _ hmem)
      rw [escapeChars, List.flatMap_cons, escapeChar_of_not_mem hc hfront, ← escapeChars, hrest]
      rfl
    | @pair letter c written meant hpair _ ih =>
      have hrest : escapeChars meant = written := ih fun separator hseparator hmem ↦
        hplain separator hseparator (List.mem_cons_of_mem _ (List.mem_cons_of_mem _ hmem))
      rw [escapeChars, List.flatMap_cons, escapeChar_of_pair hpair, ← escapeChars, hrest]
      rfl

end StompBroker.Header
