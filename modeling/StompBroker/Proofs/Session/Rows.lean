import Mathlib.Data.List.Nodup
import StompBroker.Session.Registry

/-!
# Rows of values under names

The table and the registry keep the same kind of list: rows of a name and the values under it.
`Rows.pairs` is the relation that such a list stands for. A list of rows is `Proper` if it is a map
into sets that are not empty: no name has two rows, no row is empty, and no row holds a value twice.
Both ways in which rows change keep that: a value is put into the row of its name (`Proper.insert`),
and values are taken out of rows, each row going with its last value (`Proper.filterMap`).
-/

set_option autoImplicit false

namespace StompBroker

namespace Rows

variable {α : Type} {name key : String} {value other : α} {values : List α}
  {rows : List (String × List α)}

/-- Rows as a relation. -/
def pairs (rows : List (String × List α)) : List (String × α) :=
  rows.flatMap fun row ↦ row.2.map fun value ↦ (row.1, value)

theorem mem_pairs_iff :
    (name, value) ∈ pairs rows ↔ ∃ row ∈ rows, row.1 = name ∧ value ∈ row.2 := by
  simp only [pairs, List.mem_flatMap, List.mem_map, Prod.mk.injEq]
  constructor
  · rintro ⟨row, hrow, found, hfound, hname, rfl⟩
    exact ⟨row, hrow, hname, hfound⟩
  · rintro ⟨row, hrow, hname, hmem⟩
    exact ⟨row, hrow, value, hmem, hname, rfl⟩

/-- Rows that are a map into sets that are not empty. -/
structure Proper (rows : List (String × List α)) : Prop where
  names : (rows.map Prod.fst).Nodup
  filled : ∀ row ∈ rows, row.2 ≠ []
  once : ∀ row ∈ rows, row.2.Nodup

theorem proper_nil : Proper ([] : List (String × List α)) :=
  ⟨List.nodup_nil, by simp, by simp⟩

theorem Proper.tail {row : String × List α} (h : Proper (row :: rows)) : Proper rows where
  names := (List.nodup_cons.mp h.names).2
  filled := fun other hother ↦ h.filled other (List.mem_cons_of_mem _ hother)
  once := fun other hother ↦ h.once other (List.mem_cons_of_mem _ hother)

/-! ### Reading -/

theorem lookup_cons {κ β : Type} [DecidableEq κ] {key other : κ} {found : β}
    (entries : List (κ × β)) :
    ((key, found) :: entries).lookup other =
      if key = other then some found else entries.lookup other := by
  by_cases hother : key = other
  · rw [if_pos hother, hother, List.lookup_cons_self]
  · have hne : (other == key) = false := beq_eq_false_iff_ne.mpr fun heq ↦ hother heq.symm
    rw [if_neg hother, List.lookup_cons, hne]

theorem lookup_filter_ne {κ β : Type} [DecidableEq κ] {key other : κ} (entries : List (κ × β)) :
    (entries.filter fun entry ↦ entry.1 != key).lookup other =
      if key = other then none else entries.lookup other := by
  induction entries with
  | nil => simp
  | cons entry entries ih =>
    obtain ⟨kept, found⟩ := entry
    by_cases hkept : kept = key
    · rw [List.filter_cons_of_neg (by simpa using hkept), ih, lookup_cons, hkept]
      by_cases hother : key = other
      · rw [if_pos hother, if_pos hother]
      · rw [if_neg hother, if_neg hother, if_neg hother]
    · rw [List.filter_cons_of_pos (by simpa using hkept), lookup_cons, lookup_cons, ih]
      by_cases hfound : kept = other
      · have hother : key ≠ other := fun heq ↦ hkept (hfound.trans heq.symm)
        rw [if_pos hfound, if_neg hother, if_pos hfound]
      · rw [if_neg hfound, if_neg hfound]

/-- In a list that names nothing twice, what is looked up is what stands there. -/
theorem lookup_eq_some_iff_mem {β : Type} {entries : List (String × β)} {found : β}
    (h : (entries.map Prod.fst).Nodup) :
    entries.lookup name = some found ↔ (name, found) ∈ entries := by
  constructor
  · intro hlookup
    obtain ⟨front, back, hentries, -⟩ := List.lookup_eq_some_iff.mp hlookup
    rw [hentries]
    simp
  · intro hmem
    obtain ⟨front, back, rfl⟩ := List.append_of_mem hmem
    refine List.lookup_eq_some_iff.mpr ⟨front, back, rfl, fun entry hentry ↦ ?_⟩
    rw [List.map_append, List.map_cons] at h
    have hdisjoint := (List.nodup_append.mp h).2.2
    have hne : entry.1 ≠ name :=
      hdisjoint entry.1 (List.mem_map_of_mem hentry) name List.mem_cons_self
    simpa using hne.symm

/-- Where the relation is empty, there are no rows. -/
theorem Proper.eq_nil (h : Proper rows) (hnone : ∀ name value, (name, value) ∉ pairs rows) :
    rows = [] := by
  refine List.eq_nil_iff_forall_not_mem.mpr fun row hrow ↦ ?_
  obtain ⟨value, hvalue⟩ := List.exists_mem_of_ne_nil _ (h.filled row hrow)
  exact hnone row.1 value (mem_pairs_iff.mpr ⟨row, hrow, rfl, hvalue⟩)

theorem Proper.lookup_eq_some_iff (h : Proper rows) :
    rows.lookup name = some values ↔ (name, values) ∈ rows :=
  lookup_eq_some_iff_mem h.names

/-- What is looked up under a name is what the relation has there. -/
theorem Proper.mem_lookup_iff (h : Proper rows) :
    value ∈ (rows.lookup name).getD [] ↔ (name, value) ∈ pairs rows := by
  rw [mem_pairs_iff]
  constructor
  · intro hmem
    cases hlookup : rows.lookup name with
    | none =>
      rw [hlookup] at hmem
      cases hmem
    | some values =>
      rw [hlookup] at hmem
      exact ⟨(name, values), h.lookup_eq_some_iff.mp hlookup, rfl, hmem⟩
  · rintro ⟨⟨owner, values⟩, hrow, rfl, hmem⟩
    rw [h.lookup_eq_some_iff.mpr hrow]
    exact hmem

theorem Proper.nodup_lookup (h : Proper rows) : ((rows.lookup name).getD []).Nodup := by
  cases hlookup : rows.lookup name with
  | none => exact List.nodup_nil
  | some values => exact h.once _ (h.lookup_eq_some_iff.mp hlookup)

theorem Proper.nodup_pairs (h : Proper rows) : (pairs rows).Nodup := by
  refine List.nodup_flatMap.mpr ⟨fun row hrow ↦ ?_, ?_⟩
  · exact (h.once row hrow).map fun _ _ heq ↦ (Prod.mk.inj heq).2
  · have hnames : rows.Pairwise fun row later ↦ row.1 ≠ later.1 := List.pairwise_map.mp h.names
    refine hnames.imp fun {row later} hne ↦ ?_
    rw [Function.onFun_apply, List.disjoint_left]
    intro pair hrow hlater
    obtain ⟨_, _, rfl⟩ := List.mem_map.mp hrow
    obtain ⟨_, _, heq⟩ := List.mem_map.mp hlater
    exact hne (Prod.mk.inj heq).1.symm

/-! ### Putting a value in -/

section Insert

variable [DecidableEq α]

/-- Puts a value into the row of its name, which is opened if there is none. -/
def insert (name : String) (value : α) : List (String × List α) → List (String × List α)
  | [] => [(name, [value])]
  | (other, values) :: rest =>
    if other = name then (other, if value ∈ values then values else values ++ [value]) :: rest
    else (other, values) :: insert name value rest

theorem mem_pairs_insert :
    (key, other) ∈ pairs (insert name value rows) ↔
      (key = name ∧ other = value) ∨ (key, other) ∈ pairs rows := by
  rw [mem_pairs_iff, mem_pairs_iff]
  induction rows with
  | nil => simp [insert, eq_comm]
  | cons row rows ih =>
    obtain ⟨owner, values⟩ := row
    rw [insert]
    by_cases howner : owner = name
    · rw [if_pos howner]
      subst howner
      by_cases hmem : value ∈ values
      · simp only [if_pos hmem, List.exists_mem_cons_iff]
        constructor
        · exact .inr
        · rintro (⟨rfl, rfl⟩ | h)
          · exact .inl ⟨rfl, hmem⟩
          · exact h
      · simp only [if_neg hmem, List.exists_mem_cons_iff, List.mem_append, List.mem_singleton]
        constructor
        · rintro (⟨rfl, hother | rfl⟩ | h)
          · exact .inr (.inl ⟨rfl, hother⟩)
          · exact .inl ⟨rfl, rfl⟩
          · exact .inr (.inr h)
        · rintro (⟨rfl, rfl⟩ | ⟨rfl, hother⟩ | h)
          · exact .inl ⟨rfl, .inr rfl⟩
          · exact .inl ⟨rfl, .inl hother⟩
          · exact .inr h
    · rw [if_neg howner, List.exists_mem_cons_iff, List.exists_mem_cons_iff, ih]
      exact or_left_comm

/-- A row that comes of an insertion was there before, or is the row of the name. -/
theorem mem_insert {row : String × List α} (h : row ∈ insert name value rows) :
    row ∈ rows ∨ row = (name, [value]) ∨
      ∃ values, (name, values) ∈ rows ∧ value ∉ values ∧ row = (name, values ++ [value]) := by
  induction rows with
  | nil =>
    rw [insert, List.mem_singleton] at h
    exact .inr (.inl h)
  | cons first rows ih =>
    obtain ⟨owner, values⟩ := first
    rw [insert] at h
    by_cases howner : owner = name
    · subst howner
      rw [if_pos rfl] at h
      rcases List.mem_cons.mp h with hrow | hrow
      · by_cases hmem : value ∈ values
        · rw [if_pos hmem] at hrow
          exact .inl (hrow ▸ List.mem_cons_self)
        · rw [if_neg hmem] at hrow
          exact .inr (.inr ⟨values, List.mem_cons_self, hmem, hrow⟩)
      · exact .inl (List.mem_cons_of_mem _ hrow)
    · rw [if_neg howner] at h
      rcases List.mem_cons.mp h with hrow | hrow
      · exact .inl (hrow ▸ List.mem_cons_self)
      · rcases ih hrow with hrest | hnew | ⟨values, hvalues, hmem, hrow⟩
        · exact .inl (List.mem_cons_of_mem _ hrest)
        · exact .inr (.inl hnew)
        · exact .inr (.inr ⟨values, List.mem_cons_of_mem _ hvalues, hmem, hrow⟩)

theorem mem_names_insert :
    key ∈ (insert name value rows).map Prod.fst ↔ key = name ∨ key ∈ rows.map Prod.fst := by
  induction rows with
  | nil => simp [insert]
  | cons first rows ih =>
    obtain ⟨owner, values⟩ := first
    rw [insert]
    by_cases howner : owner = name
    · rw [if_pos howner, List.map_cons, List.map_cons, List.mem_cons, howner]
      exact ⟨.inr, fun h ↦ h.elim .inl id⟩
    · rw [if_neg howner, List.map_cons, List.map_cons, List.mem_cons, List.mem_cons, ih]
      exact or_left_comm

theorem nodup_names_insert (h : (rows.map Prod.fst).Nodup) :
    ((insert name value rows).map Prod.fst).Nodup := by
  induction rows with
  | nil => simp [insert]
  | cons first rows ih =>
    obtain ⟨owner, values⟩ := first
    obtain ⟨hfresh, hrest⟩ := List.nodup_cons.mp h
    rw [insert]
    by_cases howner : owner = name
    · rw [if_pos howner]
      exact h
    · rw [if_neg howner]
      refine List.nodup_cons.mpr ⟨?_, ih hrest⟩
      rw [mem_names_insert, not_or]
      exact ⟨howner, hfresh⟩

theorem Proper.insert (h : Proper rows) (name : String) (value : α) :
    Proper (insert name value rows) := by
  constructor
  · exact nodup_names_insert h.names
  · intro row hrow
    rcases mem_insert hrow with hold | rfl | ⟨values, -, -, rfl⟩
    · exact h.filled row hold
    · simp
    · simp
  · intro row hrow
    rcases mem_insert hrow with hold | rfl | ⟨values, hvalues, hmem, rfl⟩
    · exact h.once row hold
    · exact List.nodup_singleton value
    · have hconcat := (h.once _ hvalues).concat hmem
      rwa [List.concat_eq_append] at hconcat

end Insert

/-! ### Taking values out -/

/-- Takes the values out of rows that are not kept; a row may go if it is left without any. -/
structure Shrinks (keep : String → α → Bool)
    (shrink : String × List α → Option (String × List α)) : Prop where
  dropped : ∀ row, shrink row = none → row.2.filter (keep row.1) = []
  kept : ∀ row left, shrink row = some left → left = (row.1, row.2.filter (keep row.1))
  filled : ∀ row left, shrink row = some left → row.2 ≠ [] → left.2 ≠ []

variable {keep : String → α → Bool} {shrink : String × List α → Option (String × List α)}

theorem Shrinks.mem_pairs_filterMap (h : Shrinks keep shrink) :
    (key, other) ∈ pairs (rows.filterMap shrink) ↔ (key, other) ∈ pairs rows ∧ keep key other := by
  rw [mem_pairs_iff, mem_pairs_iff]
  constructor
  · rintro ⟨left, hleft, rfl, hmem⟩
    obtain ⟨row, hrow, hshrink⟩ := List.mem_filterMap.mp hleft
    obtain rfl := h.kept row left hshrink
    obtain ⟨hvalue, hkeep⟩ := List.mem_filter.mp hmem
    exact ⟨⟨row, hrow, rfl, hvalue⟩, hkeep⟩
  · rintro ⟨⟨row, hrow, rfl, hvalue⟩, hkeep⟩
    have hmem : other ∈ row.2.filter (keep row.1) := List.mem_filter.mpr ⟨hvalue, hkeep⟩
    cases hshrink : shrink row with
    | none =>
      rw [h.dropped row hshrink] at hmem
      cases hmem
    | some left =>
      refine ⟨left, List.mem_filterMap.mpr ⟨row, hrow, hshrink⟩, ?_, ?_⟩
      · rw [h.kept row left hshrink]
      · rw [h.kept row left hshrink]
        exact hmem

theorem Proper.filterMap (h : Proper rows) (hshrinks : Shrinks keep shrink) :
    Proper (rows.filterMap shrink) := by
  constructor
  · have hnames : rows.Pairwise fun row later ↦ row.1 ≠ later.1 := List.pairwise_map.mp h.names
    refine List.pairwise_map.mpr (List.pairwise_filterMap.mpr ?_)
    refine hnames.imp fun {row later} hne left hleft leftLater hleftLater ↦ ?_
    rw [hshrinks.kept row left hleft, hshrinks.kept later leftLater hleftLater]
    exact hne
  · intro left hmem
    obtain ⟨row, hrow, hleft⟩ := List.mem_filterMap.mp hmem
    exact hshrinks.filled row left hleft (h.filled row hrow)
  · intro left hmem
    obtain ⟨row, hrow, hleft⟩ := List.mem_filterMap.mp hmem
    rw [hshrinks.kept row left hleft]
    exact (h.once row hrow).filter _

end Rows

/-! ### The rows of users -/

namespace Registry

theorem bindTo_eq_insert (username : String) (id : SessionId)
    (rows : List (String × List SessionId)) :
    bindTo username id rows = Rows.insert username id rows := by
  induction rows with
  | nil => rfl
  | cons row rows ih => rw [bindTo, Rows.insert, ih]

theorem filter_unbound (username : String) (id : SessionId) (row : String × List SessionId) :
    row.2.filter (fun other ↦ !(row.1 == username && other == id)) =
      if row.1 = username then row.2.filter (· != id) else row.2 := by
  by_cases hname : row.1 = username
  · rw [if_pos hname]
    refine List.filter_congr fun other _ ↦ ?_
    simp [hname, bne]
  · rw [if_neg hname]
    refine List.filter_eq_self.mpr fun other _ ↦ ?_
    simp [hname]

/-- Only the id of the user is taken out. -/
theorem shrinks_unbindRow (username : String) (id : SessionId) :
    Rows.Shrinks (fun name other ↦ !(name == username && other == id))
      (unbindRow username id) := by
  constructor
  · intro row hrow
    rw [filter_unbound]
    unfold unbindRow at hrow
    by_cases hname : row.1 = username
    · rw [if_pos hname] at hrow ⊢
      split at hrow
      · assumption
      · cases hrow
    · rw [if_neg hname] at hrow
      cases hrow
  · intro row left hleft
    rw [filter_unbound]
    unfold unbindRow at hleft
    by_cases hname : row.1 = username
    · rw [if_pos hname] at hleft ⊢
      split at hleft
      · cases hleft
      · exact (Option.some.inj hleft).symm
    · rw [if_neg hname] at hleft ⊢
      exact (Option.some.inj hleft).symm
  · intro row left hleft hfilled
    unfold unbindRow at hleft
    by_cases hname : row.1 = username
    · rw [if_pos hname] at hleft
      split at hleft
      · cases hleft
      · rename_i hkept
        cases hleft
        exact hkept
    · rw [if_neg hname] at hleft
      cases hleft
      exact hfilled

end Registry

/-! ### The rows of destinations -/

namespace SubscriptionTable

theorem addTo_eq_insert (destination : String) (subscriber : Subscriber)
    (rows : List (String × List Subscriber)) :
    addTo destination subscriber rows = Rows.insert destination subscriber rows := by
  induction rows with
  | nil => rfl
  | cons row rows ih => rw [addTo, Rows.insert, ih]

theorem shrinks_keepRow (keep : String → Subscriber → Bool) :
    Rows.Shrinks keep (keepRow keep) := by
  constructor
  · intro row hrow
    unfold keepRow at hrow
    split at hrow
    · assumption
    · cases hrow
  · intro row left hleft
    unfold keepRow at hleft
    split at hleft
    · cases hleft
    · exact (Option.some.inj hleft).symm
  · intro row left hleft _
    unfold keepRow at hleft
    split at hleft
    · cases hleft
    · rename_i hkept
      cases hleft
      exact hkept

end SubscriptionTable

end StompBroker
