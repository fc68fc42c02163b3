/-!
# Tables with counted rows

A `Table` holds rows in the order of their ids, each of which it holds once. A row that is inserted
without an id gets one that is larger than every id that the table ever had, so an id is never given
twice.
-/

set_option autoImplicit false

namespace StompBroker

/-- Rows by id. -/
structure Table (α : Type) where
  rows : List (Int × α)
  /-- The largest id so far, or zero. -/
  lastId : Int
  ascending : rows.Pairwise fun row later ↦ row.1 < later.1
  counted : ∀ row ∈ rows, row.1 ≤ lastId
  deriving Repr

namespace Table

variable {α : Type} {id : Int} {row : α} {rows : List (Int × α)}

/-- A table that never had a row. -/
def empty : Table α where
  rows := []
  lastId := 0
  ascending := .nil
  counted _ hmem := absurd hmem List.not_mem_nil

/-- Puts a row in the place of its id. -/
def place (id : Int) (row : α) : List (Int × α) → List (Int × α)
  | [] => [(id, row)]
  | (other, kept) :: rest =>
    if id < other then (id, row) :: (other, kept) :: rest
    else (other, kept) :: place id row rest

theorem mem_place {entry : Int × α} :
    entry ∈ place id row rows ↔ entry = (id, row) ∨ entry ∈ rows := by
  induction rows with
  | nil => simp [place]
  | cons first rest ih =>
    unfold place
    split
    · exact List.mem_cons
    · rw [List.mem_cons, List.mem_cons, ih, or_left_comm]

/-- A row with a new id leaves the others in their order. -/
theorem pairwise_place (h : rows.Pairwise fun row later ↦ row.1 < later.1)
    (hnew : ∀ entry ∈ rows, entry.1 ≠ id) :
    (place id row rows).Pairwise fun row later ↦ row.1 < later.1 := by
  induction rows with
  | nil => exact List.pairwise_singleton _ _
  | cons first rest ih =>
    obtain ⟨hfirst, hrest⟩ := List.pairwise_cons.mp h
    obtain ⟨hother, hothers⟩ := List.forall_mem_cons.mp hnew
    unfold place
    split
    · rename_i hlt
      refine List.pairwise_cons.mpr ⟨fun entry hmem ↦ ?_, h⟩
      rcases List.mem_cons.mp hmem with rfl | hmem
      · exact hlt
      · exact Int.lt_trans hlt (hfirst entry hmem)
    · rename_i hle
      refine List.pairwise_cons.mpr ⟨fun entry hmem ↦ ?_, ih hrest hothers⟩
      rcases mem_place.mp hmem with rfl | hmem
      · exact Int.lt_iff_le_and_ne.mpr ⟨Int.not_lt.mp hle, hother⟩
      · exact hfirst entry hmem

/-- How many rows there are. -/
def size (table : Table α) : Nat := table.rows.length

/-- A row has that id. -/
def contains (table : Table α) (id : Int) : Bool := table.rows.any fun row ↦ row.1 == id

theorem ne_of_not_contains {table : Table α} (h : ¬table.contains id = true) :
    ∀ entry ∈ table.rows, entry.1 ≠ id := by
  intro entry hmem hid
  exact h (List.any_eq_true.mpr ⟨entry, hmem, beq_iff_eq.mpr hid⟩)

/-- Adds a row with a new id. -/
def add (table : Table α) (id : Int) (row : α) (hnew : ∀ entry ∈ table.rows, entry.1 ≠ id) :
    Table α where
  rows := place id row table.rows
  lastId := max table.lastId id
  ascending := pairwise_place table.ascending hnew
  counted entry hmem := by
    rcases mem_place.mp hmem with rfl | hmem
    · exact Int.le_max_right _ _
    · exact Int.le_trans (table.counted entry hmem) (Int.le_max_left _ _)

/-- No row has the id behind the largest. -/
theorem ne_lastId_add_one (table : Table α) :
    ∀ entry ∈ table.rows, entry.1 ≠ table.lastId + 1 := by
  intro entry hmem
  have hle := table.counted entry hmem
  omega

/-- Adds a row and tells the id that it got. -/
def insert (table : Table α) (row : α) : Int × Table α :=
  (table.lastId + 1, table.add (table.lastId + 1) row table.ne_lastId_add_one)

theorem mem_rows_insert {table : Table α} {entry : Int × α} :
    entry ∈ (table.insert row).2.rows ↔ entry = (table.lastId + 1, row) ∨ entry ∈ table.rows :=
  mem_place

/-- The first row that passes a test. -/
def find? (table : Table α) (test : α → Bool) : Option (Int × α) :=
  table.rows.find? fun row ↦ test row.2

/-- The rows with the largest ids first: `limit` of them, after the first `offset`. -/
def latest (table : Table α) (limit offset : Nat) : List (Int × α) :=
  (table.rows.reverse.drop offset).take limit

end Table

end StompBroker
