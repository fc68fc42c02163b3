import StompBroker.Http.Form
import StompBroker.Proofs.Text.Decimal
import StompBroker.Proofs.Text.Lossy
import StompBroker.Proofs.Text.Split

/-!
# Queries that are written and read

Names and values without separators and escapes are read back from a query as they were written
(`Form.fields_spell`). So every page can be asked for (`PageQuery.ofTarget?_spell`).
-/

set_option autoImplicit false

namespace StompBroker

namespace Form

/-- The text stands for itself in a query. -/
def Plain (text : String) : Prop :=
  ∀ c ∈ text.toList, c ≠ '&' ∧ c ≠ '=' ∧ c ≠ '+' ∧ c ≠ '%'

instance (text : String) : Decidable (Plain text) :=
  List.decidableBAll (fun c ↦ c ≠ '&' ∧ c ≠ '=' ∧ c ≠ '+' ∧ c ≠ '%') text.toList

theorem plain_toString (n : Nat) : Plain (toString n) := by
  intro c hmem
  have hdigit := Text.isDigit_of_mem_toString hmem
  refine ⟨?_, ?_, ?_, ?_⟩ <;> rintro rfl <;> cases hdigit

theorem decode_of_not_mem {octets : Bytes} (hplus : 0x2B ∉ octets) (hpercent : 0x25 ∉ octets) :
    decode octets = octets := by
  fun_induction decode octets with
  | case1 => rfl
  | case2 rest ih => exact absurd List.mem_cons_self hplus
  | case3 => exact absurd List.mem_cons_self hpercent
  | case4 => exact absurd List.mem_cons_self hpercent
  | case5 octet rest _ _ ih =>
    rw [ih (fun hmem ↦ hplus (List.mem_cons_of_mem _ hmem))
      fun hmem ↦ hpercent (List.mem_cons_of_mem _ hmem)]

theorem decodeText_of_plain {text : String} (h : Plain text) : decodeText text = text := by
  have hplus : 0x2B ∉ Utf8.encode text := fun hmem ↦
    (h '+' ((@Utf8.mem_encode_iff text '+' (by decide)).mp hmem)).2.2.1 rfl
  have hpercent : 0x25 ∉ Utf8.encode text := fun hmem ↦
    (h '%' ((@Utf8.mem_encode_iff text '%' (by decide)).mp hmem)).2.2.2 rfl
  rw [decodeText, decode_of_not_mem hplus hpercent, Utf8.decodeLossy_encode]

/-- A name and its value. -/
def spellField (field : String × String) : String := field.1 ++ "=" ++ field.2

/-- A query with these names and values. -/
def spell (fields : List (String × String)) : String := "&".intercalate (fields.map spellField)

/-- What was written is read. -/
theorem fields_spell {pairs : List (String × String)} (hne : pairs ≠ [])
    (hplain : ∀ pair ∈ pairs, Plain pair.1 ∧ Plain pair.2) : fields (spell pairs) = pairs := by
  have hsplit : Text.split '&' (spell pairs) = pairs.map spellField := by
    refine Text.split_eq_iff.mpr ⟨?_, ?_, rfl⟩
    · rwa [ne_eq, List.map_eq_nil_iff]
    · intro part hpart
      obtain ⟨pair, hpair, rfl⟩ := List.mem_map.mp hpart
      obtain ⟨hname, hvalue⟩ := hplain pair hpair
      simp only [spellField, String.toList_append, List.mem_append, not_or]
      exact ⟨⟨fun hmem ↦ (hname _ hmem).1 rfl, by decide⟩, fun hmem ↦ (hvalue _ hmem).1 rfl⟩
  have hfilled : (pairs.map spellField).filter (!·.isEmpty) = pairs.map spellField := by
    refine List.filter_eq_self.mpr fun part hpart ↦ ?_
    obtain ⟨pair, -, rfl⟩ := List.mem_map.mp hpart
    have hne : spellField pair ≠ "" := by simp [spellField]
    rw [Bool.not_eq_true', ← Bool.not_eq_true, String.isEmpty_iff]
    exact hne
  rw [fields, hsplit, hfilled, List.map_map]
  refine (List.map_congr_left fun pair hpair ↦ ?_).trans (List.map_id pairs)
  obtain ⟨hname, hvalue⟩ := hplain pair hpair
  have hcut : Text.splitOnce? '=' (spellField pair) = some pair :=
    Text.splitOnce?_eq_some_iff.mpr ⟨fun hmem ↦ (hname _ hmem).2.1 rfl, rfl⟩
  simp only [Function.comp_apply, hcut, Option.getD_some, decodeText_of_plain hname,
    decodeText_of_plain hvalue, id_eq]

end Form

namespace PageQuery

/-- A query that asks for the page. -/
def spell (query : PageQuery) : String :=
  Form.spell [("pageNum", toString query.pageNum), ("pageSize", toString query.pageSize)]

/-- Every page with numbers of 32 bits can be asked for. -/
theorem ofTarget?_spell {query : PageQuery} (hnum : query.pageNum ≤ maxUnsigned32)
    (hsize : query.pageSize ≤ maxUnsigned32) : ofTarget? (some query.spell) = some query := by
  have hfields : Form.fields query.spell =
      [("pageNum", toString query.pageNum), ("pageSize", toString query.pageSize)] := by
    have hnames : Form.Plain "pageNum" ∧ Form.Plain "pageSize" := by decide
    refine Form.fields_spell (List.cons_ne_nil _ _) fun pair hpair ↦ ?_
    simp only [List.mem_cons, List.not_mem_nil, or_false] at hpair
    rcases hpair with rfl | rfl
    · exact ⟨hnames.1, Form.plain_toString _⟩
    · exact ⟨hnames.2, Form.plain_toString _⟩
  have hpageNum : Form.number? 1 "pageNum"
      [("pageNum", toString query.pageNum), ("pageSize", toString query.pageSize)] =
        some query.pageNum :=
    congrArg Except.toOption (Text.natural?_toString hnum)
  have hpageSize : Form.number? 10 "pageSize"
      [("pageNum", toString query.pageNum), ("pageSize", toString query.pageSize)] =
        some query.pageSize :=
    congrArg Except.toOption (Text.natural?_toString hsize)
  rw [ofTarget?, Option.getD_some, hfields, hpageNum, hpageSize]
  rfl

end PageQuery

end StompBroker
