import Mathlib.Data.Set.Function
import StompBroker.Proofs.Frame.Escape

/-!
# Escaping is a bijection

`Paired` is the grammar of escaped headers without what they mean: read from left to right, every
backslash starts one of the four pairs. `unescape` reads the texts of this grammar and no others
(`exists_unescape_iff`). Of another text it names the first backslash that starts no pair
(`unescape_eq_error_iff`), which is where reading gets `Stuck`.

`escape` is one to one, and it reaches every text of the grammar that holds none of the separators
(`bijOn_escape`). `escaping` puts both directions together.
-/

set_option autoImplicit false

namespace StompBroker.Header

/-- The letters that make a pair with a backslash. -/
def letters : List Char := ['\\', 'r', 'n', 'c']

/-- Read from left to right, every backslash starts one of the four pairs. -/
inductive Paired : List Char → Prop
  | nil : Paired []
  | plain {c : Char} {rest : List Char} : c ≠ '\\' → Paired rest → Paired (c :: rest)
  | pair {letter : Char} {rest : List Char} :
    letter ∈ letters → Paired rest → Paired ('\\' :: letter :: rest)

/-- The text starts with a backslash that starts no pair. -/
inductive Stuck : List Char → EscapeError → Prop
  | undefined {c : Char} {rest : List Char} : c ∉ letters → Stuck ('\\' :: c :: rest) (.undefined c)
  | dangling : Stuck ['\\'] .dangling

/-! ### Reading -/

theorem mem_letters_iff {letter : Char} : letter ∈ letters ↔ ∃ c, EscapePair letter c := by
  simp only [letters, List.mem_cons, List.not_mem_nil, or_false]
  constructor
  · rintro (rfl | rfl | rfl | rfl)
    · exact ⟨_, .backslash⟩
    · exact ⟨_, .carriageReturn⟩
    · exact ⟨_, .newline⟩
    · exact ⟨_, .colon⟩
  · rintro ⟨c, _ | _ | _ | _⟩ <;> simp

theorem unescapeChar?_eq_none_iff {letter : Char} :
    unescapeChar? letter = none ↔ letter ∉ letters := by
  simp only [mem_letters_iff, Option.eq_none_iff_forall_ne_some, ne_eq, unescapeChar?_eq_some_iff,
    not_exists]

/-- The texts of the grammar are those that stand for something. -/
theorem paired_iff_exists_escaped {written : List Char} :
    Paired written ↔ ∃ meant, Escaped written meant := by
  constructor
  · intro h
    induction h with
    | nil => exact ⟨[], .nil⟩
    | plain hc _ ih =>
      obtain ⟨meant, hescaped⟩ := ih
      exact ⟨_, .plain hc hescaped⟩
    | pair hletter _ ih =>
      obtain ⟨meant, hescaped⟩ := ih
      obtain ⟨c, hpair⟩ := mem_letters_iff.mp hletter
      exact ⟨_, .pair hpair hescaped⟩
  · rintro ⟨meant, h⟩
    induction h with
    | nil => exact .nil
    | plain hc _ ih => exact .plain hc ih
    | pair hpair _ ih => exact .pair (mem_letters_iff.mpr ⟨_, hpair⟩) ih

theorem exists_unescape_iff {written : String} :
    (∃ meant, unescape written = .ok meant) ↔ Paired written.toList := by
  rw [paired_iff_exists_escaped]
  constructor
  · rintro ⟨meant, h⟩
    exact ⟨meant.toList, unescape_eq_ok_iff.mp h⟩
  · rintro ⟨meant, h⟩
    exact ⟨String.ofList meant, unescape_eq_ok_iff.mpr (by rwa [String.toList_ofList])⟩

theorem exists_stuck_of_unescapeInto {read written : List Char} {cause : EscapeError}
    (h : unescapeInto read written = .error cause) :
    ∃ front back, written = front ++ back ∧ Paired front ∧ Stuck back cause := by
  fun_induction unescapeInto read written with
  | case1 read => cases h
  | case2 read =>
    cases h
    exact ⟨[], _, rfl, .nil, .dangling⟩
  | case3 read letter rest plain hplain ih =>
    obtain ⟨front, back, rfl, hfront, hstuck⟩ := ih h
    have hletter := mem_letters_iff.mpr ⟨plain, unescapeChar?_eq_some_iff.mp hplain⟩
    exact ⟨'\\' :: letter :: front, back, rfl, .pair hletter hfront, hstuck⟩
  | case4 read letter rest hundefined =>
    cases h
    exact ⟨[], _, rfl, .nil, .undefined (unescapeChar?_eq_none_iff.mp hundefined)⟩
  | case5 read c rest hdangling hpair ih =>
    obtain ⟨front, back, rfl, hfront, hstuck⟩ := ih h
    exact ⟨c :: front, back, rfl, .plain (ne_backslash hdangling hpair) hfront, hstuck⟩

theorem unescapeInto_of_stuck {front back : List Char} {cause : EscapeError} (hfront : Paired front)
    (hstuck : Stuck back cause) (read : List Char) :
    unescapeInto read (front ++ back) = .error cause := by
  induction hfront generalizing read with
  | nil =>
    cases hstuck with
    | undefined hletter =>
      rw [List.nil_append, unescapeInto, unescapeChar?_eq_none_iff.mpr hletter]
    | dangling => rfl
  | @plain c rest hc _ ih =>
    rw [List.cons_append, unescapeInto]
    · exact ih _
    · exact fun hbackslash ↦ absurd hbackslash hc
    · exact fun _ _ hbackslash ↦ absurd hbackslash hc
  | @pair letter rest hletter _ ih =>
    obtain ⟨c, hpair⟩ := mem_letters_iff.mp hletter
    rw [List.cons_append, List.cons_append, unescapeInto, unescapeChar?_eq_some_iff.mpr hpair]
    exact ih _

/-- Reading fails at the first backslash that starts no pair, and says why. -/
theorem unescape_eq_error_iff {written : String} {cause : EscapeError} :
    unescape written = .error cause ↔
      ∃ front back, written.toList = front ++ back ∧ Paired front ∧ Stuck back cause := by
  have hfailure : unescape written = .error cause ↔
      unescapeInto [] written.toList = .error cause := by
    unfold unescape unescapeChars
    cases unescapeInto [] written.toList <;> simp [Except.map]
  rw [hfailure]
  constructor
  · exact exists_stuck_of_unescapeInto
  · rintro ⟨front, back, hwritten, hfront, hstuck⟩
    rw [hwritten]
    exact unescapeInto_of_stuck hfront hstuck []

/-! ### Both directions -/

theorem toList_escape (text : String) : (escape text).toList = escapeChars text.toList := by
  rw [escape, String.toList_ofList]

theorem unescape_escape (text : String) : unescape (escape text) = .ok text := by
  rw [unescape_eq_ok_iff, toList_escape]
  exact escaped_escapeChars text.toList

theorem not_mem_escape {separator : Char} (h : separator ∈ separators) (text : String) :
    separator ∉ (escape text).toList := by
  rw [toList_escape]
  exact not_mem_escapeChars h text.toList

/-- What was read is written again as it was exactly if it holds no separator. -/
theorem escape_eq_iff {written meant : String} (h : unescape written = .ok meant) :
    escape meant = written ↔ ∀ separator ∈ separators, separator ∉ written.toList := by
  rw [← escapeChars_eq_iff (unescape_eq_ok_iff.mp h), ← toList_escape, String.toList_inj]

theorem escape_injective : Function.Injective escape := by
  intro first second heq
  have hread := unescape_escape first
  rw [heq, unescape_escape] at hread
  exact (Except.ok.inj hread).symm

/-- Every text has one escaped form, and the escaped forms are the texts of the grammar that hold no
separator. -/
theorem bijOn_escape : Set.BijOn escape Set.univ
    {written | Paired written.toList ∧ ∀ separator ∈ separators, separator ∉ written.toList} := by
  refine ⟨fun text _ ↦ ⟨?_, fun separator h ↦ not_mem_escape h text⟩, escape_injective.injOn, ?_⟩
  · exact exists_unescape_iff.mp ⟨text, unescape_escape text⟩
  · rintro written ⟨hpaired, hplain⟩
    obtain ⟨meant, hmeant⟩ := exists_unescape_iff.mpr hpaired
    exact ⟨meant, Set.mem_univ meant, (escape_eq_iff hmeant).mpr hplain⟩

/-- What escaping and reading escaped texts are to each other. -/
structure Escaping : Prop where
  /-- Nothing in an escaped text ends a line or a header name. -/
  separated : ∀ text, ∀ separator ∈ ['\n', '\r', ':'], separator ∉ (escape text).toList
  readBack : ∀ text, unescape (escape text) = .ok text
  accepted : ∀ written, (∃ meant, unescape written = .ok meant) ↔ Paired written.toList
  /-- What is not accepted is refused for the first backslash that starts no pair. -/
  refused : ∀ written cause, unescape written = .error cause ↔
    ∃ front back, written.toList = front ++ back ∧ Paired front ∧ Stuck back cause
  writtenBack : ∀ written meant, unescape written = .ok meant →
    (escape meant = written ↔ ∀ separator ∈ ['\n', '\r', ':'], separator ∉ written.toList)
  bijective : Set.BijOn escape Set.univ
    {written | Paired written.toList ∧
      ∀ separator ∈ ['\n', '\r', ':'], separator ∉ written.toList}

/-- Escaping is a bijection onto the texts of its grammar. -/
theorem escaping : Escaping where
  separated text _ h := not_mem_escape h text
  readBack := unescape_escape
  accepted _ := exists_unescape_iff
  refused _ _ := unescape_eq_error_iff
  writtenBack _ _ := escape_eq_iff
  bijective := bijOn_escape

/-- Two backslashes are one pair, so the letter behind them is plain; behind three it is not. -/
example : unescape "a\\\\n" = .ok "a\\n" ∧ unescape "a\\\\\\n" = .ok "a\\\n" ∧
    unescape "a\\\\\\" = .error .dangling := by
  decide

end StompBroker.Header
