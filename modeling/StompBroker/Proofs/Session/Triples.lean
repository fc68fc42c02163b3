import Mathlib.Data.Finset.Card
import Mathlib.Data.Finset.Image
import StompBroker.Proofs.Session.Table
import StompBroker.Session.Pruning

/-!
# The table as a set of triples

Whoever subscribes, a table keeps nothing but the triples of a destination, a session and a
subscription id. `Keeper` is what a table is asked for, and there are three of them:
`Keeper.triples` on a plain set, `Keeper.entries` on a table of which the entries of a kind are kept,
and `Keeper.rows` on a table whose rows are emptied in place.

One call leaves a table and a set related by `Represents`, with the same answer
(`simulates_triples`), and on a table that represents a set the rows change as the entries do
(`simulates_rows`). What one call keeps, a history of calls keeps (`Simulates.run`). What can be read
off the table behind a history is therefore read off the set (`refinement_of_calls`).
-/

set_option autoImplicit false

namespace StompBroker

/-- What is asked of a table. -/
inductive TableCall where
  | add (destination : String) (subscriber : Subscriber)
  | remove (destination : String) (subscriber : Subscriber)
  | removeSession (session : SessionId)
  deriving DecidableEq, Repr

/-- What a table answers. -/
inductive TableAnswer where
  | added
  | removed (found : Bool)
  | cleared (count : Nat)
  deriving DecidableEq, Repr

/-- Something that keeps subscriptions. -/
structure Keeper (σ : Type) where
  add : String → Subscriber → σ → σ
  remove : String → Subscriber → σ → Bool × σ
  removeSession : SessionId → σ → Nat × σ

namespace Keeper

variable {σ τ : Type}

/-- The answer to one call, and what is kept after it. -/
def perform (keeper : Keeper σ) (kept : σ) : TableCall → TableAnswer × σ
  | .add destination subscriber => (.added, keeper.add destination subscriber kept)
  | .remove destination subscriber => (keeper.remove destination subscriber kept).map .removed id
  | .removeSession session => (keeper.removeSession session kept).map .cleared id

/-- The answers to a history, and what is kept behind it. -/
def run (keeper : Keeper σ) (kept : σ) : List TableCall → List TableAnswer × σ
  | [] => ([], kept)
  | call :: calls =>
    let (answer, next) := keeper.perform kept call
    let (answers, last) := keeper.run next calls
    (answer :: answers, last)

/-- A set of triples. -/
def triples : Keeper (Finset (String × Subscriber)) where
  add destination subscriber kept := insert (destination, subscriber) kept
  remove destination subscriber kept :=
    (decide ((destination, subscriber) ∈ kept), kept.erase (destination, subscriber))
  removeSession session kept :=
    ((kept.filter fun entry ↦ entry.2.session = session).card,
      kept.filter fun entry ↦ entry.2.session ≠ session)

/-- A table that is told which entries to keep. -/
def entries : Keeper SubscriptionTable where
  add destination subscriber table := table.add destination subscriber
  remove destination subscriber table := table.remove destination subscriber
  removeSession session table := table.removeSession session

/-- A table whose rows are emptied in place. -/
def rows : Keeper SubscriptionTable where
  add destination subscriber table := table.add destination subscriber
  remove destination subscriber table := table.withdraw destination subscriber
  removeSession session table := table.sweepSession session

/-- Related states answer every call alike, and stay related. -/
def Simulates (relation : σ → τ → Prop) (first : Keeper σ) (second : Keeper τ) : Prop :=
  ∀ kept other call, relation kept other →
    (first.perform kept call).1 = (second.perform other call).1 ∧
      relation (first.perform kept call).2 (second.perform other call).2

theorem Simulates.run {relation : σ → τ → Prop} {first : Keeper σ} {second : Keeper τ}
    (h : Simulates relation first second) {kept : σ} {other : τ} (hrelated : relation kept other)
    (calls : List TableCall) :
    (first.run kept calls).1 = (second.run other calls).1 ∧
      relation (first.run kept calls).2 (second.run other calls).2 := by
  induction calls generalizing kept other with
  | nil => exact ⟨rfl, hrelated⟩
  | cons call calls ih =>
    obtain ⟨hanswer, hnext⟩ := h kept other call hrelated
    obtain ⟨hanswers, hlast⟩ := ih hnext
    refine ⟨?_, hlast⟩
    simp only [Keeper.run, hanswer, hanswers]

end Keeper

namespace SubscriptionTable

variable {table : SubscriptionTable} {triples : Finset (String × Subscriber)}
  {rows : List (String × List Subscriber)} {destination : String} {subscriber : Subscriber}
  {session : SessionId}

/-! ### Rows emptied in place -/

theorem keepRow_of_filter_eq {keep : String → Subscriber → Bool} {row : String × List Subscriber}
    (hkept : row.2.filter (keep row.1) = row.2) (hfilled : row.2 ≠ []) :
    keepRow keep row = some row := by
  unfold keepRow
  rw [hkept]
  split
  · rename_i hnil
    exact absurd hnil hfilled
  · rfl

/-- Rows of other destinations stay. -/
theorem filterMap_keepRow_of_not_mem (hnames : destination ∉ rows.map Prod.fst)
    (hfilled : ∀ row ∈ rows, row.2 ≠ []) :
    rows.filterMap (keepRow fun other kept ↦ !(other == destination && kept == subscriber)) =
      rows := by
  refine (List.filterMap_congr fun row hrow ↦ ?_).trans List.filterMap_some
  have hname : row.1 ≠ destination := fun hname ↦ hnames (hname ▸ List.mem_map_of_mem hrow)
  refine keepRow_of_filter_eq (List.filter_eq_self.mpr fun other _ ↦ ?_) (hfilled row hrow)
  simp [hname]

theorem withdrawFrom_eq (h : Rows.Proper rows) :
    withdrawFrom destination subscriber rows =
      (decide (subscriber ∈ (rows.lookup destination).getD []),
        rows.filterMap (keepRow fun other kept ↦ !(other == destination && kept == subscriber))) := by
  induction rows with
  | nil => simp [withdrawFrom]
  | cons row rows ih =>
    obtain ⟨other, subscribers⟩ := row
    have htail : Rows.Proper rows := h.tail
    rw [withdrawFrom, Rows.lookup_cons]
    by_cases hother : other = destination
    · subst hother
      have hfresh : other ∉ rows.map Prod.fst := (List.nodup_cons.mp h.names).1
      have herase : subscribers.filter (fun kept ↦ !(other == other && kept == subscriber)) =
          subscribers.erase subscriber := by
        rw [(h.once _ List.mem_cons_self).erase_eq_filter]
        simp only [BEq.rfl, Bool.true_and]
        rfl
      rw [if_pos rfl, if_pos rfl, Option.getD_some, List.filterMap_cons, keepRow, herase,
        filterMap_keepRow_of_not_mem hfresh htail.filled]
      cases subscribers.erase subscriber <;> rfl
    · have hkept : keepRow (fun name kept ↦ !(name == destination && kept == subscriber))
          (other, subscribers) = some (other, subscribers) :=
        keepRow_of_filter_eq (List.filter_eq_self.mpr fun _ _ ↦ by simp [hother])
          (h.filled _ List.mem_cons_self)
      rw [if_neg hother, if_neg hother, ih htail, List.filterMap_cons, hkept]

/-- The subscribers that are kept, one row after the other. -/
theorem flatMap_filterMap_keepRow (keep : String → Subscriber → Bool)
    (rows : List (String × List Subscriber)) :
    (rows.filterMap (keepRow keep)).flatMap Prod.snd =
      rows.flatMap fun row ↦ row.2.filter (keep row.1) := by
  induction rows with
  | nil => rfl
  | cons row rows ih =>
    rw [List.filterMap_cons, List.flatMap_cons, ← ih, keepRow]
    cases row.2.filter (keep row.1) <;> rfl

theorem sweepFrom_eq (session : SessionId) (removed : Nat)
    (rows : List (String × List Subscriber)) :
    sweepFrom session removed rows =
      (removed + ((rows.flatMap Prod.snd).length -
        ((rows.flatMap Prod.snd).filter (·.session != session)).length),
        rows.filterMap (keepRow fun _ subscriber ↦ subscriber.session != session)) := by
  induction rows generalizing removed with
  | nil => rfl
  | cons row rows ih =>
    obtain ⟨destination, subscribers⟩ := row
    have hleft := List.length_filter_le (·.session != session) subscribers
    have hrest := List.length_filter_le (·.session != session) (rows.flatMap Prod.snd)
    rw [sweepFrom, ih, List.filterMap_cons, keepRow]
    refine Prod.ext ?_ ?_
    · simp only [List.flatMap_cons, List.filter_append, List.length_append]
      omega
    · cases subscribers.filter (·.session != session) <;> rfl

/-- A row that is emptied in place leaves the table as if the entry were filtered out. -/
theorem withdraw_eq_remove (h : Rows.Proper table.destinations) (destination : String)
    (subscriber : Subscriber) :
    table.withdraw destination subscriber = table.remove destination subscriber := by
  rw [withdraw, withdrawFrom_eq h]
  rfl

/-- The count that runs along with the rows comes to the difference of the numbers of entries. -/
theorem sweepSession_eq_removeSession (table : SubscriptionTable) (session : SessionId) :
    table.sweepSession session = table.removeSession session := by
  rw [sweepSession, sweepFrom_eq, removeSession]
  refine Prod.ext ?_ rfl
  simp only [subscriptionCount, filter, flatMap_filterMap_keepRow, Nat.zero_add]
  rw [List.filter_flatMap]

/-- On tables whose rows are proper, both ways of removing are the same. -/
theorem simulates_rows :
    Keeper.Simulates (fun left right ↦ left = right ∧ Rows.Proper right.destinations)
      Keeper.rows Keeper.entries := by
  rintro table _ call ⟨rfl, hproper⟩
  cases call with
  | add destination subscriber => exact ⟨rfl, rfl, proper_add hproper destination subscriber⟩
  | remove destination subscriber =>
    simp only [Keeper.perform, Keeper.rows, Keeper.entries, withdraw_eq_remove hproper]
    exact ⟨trivial, trivial, proper_filter hproper _⟩
  | removeSession session =>
    simp only [Keeper.perform, Keeper.rows, Keeper.entries, sweepSession_eq_removeSession]
    exact ⟨trivial, trivial, proper_filter hproper _⟩

/-! ### Triples -/

/-- The entries of the table are these triples. -/
structure Represents (table : SubscriptionTable) (triples : Finset (String × Subscriber)) :
    Prop where
  proper : Rows.Proper table.destinations
  mem_entries_iff : ∀ destination subscriber,
    (destination, subscriber) ∈ table.entries ↔ (destination, subscriber) ∈ triples

theorem represents_empty : Represents .empty ∅ where
  proper := Rows.proper_nil
  mem_entries_iff _ _ := by simp [entries, empty]

namespace Represents

theorem toFinset_entries (h : Represents table triples) : table.entries.toFinset = triples := by
  ext entry
  rw [List.mem_toFinset]
  exact h.mem_entries_iff entry.1 entry.2

theorem mem_subscribers_iff (h : Represents table triples) :
    subscriber ∈ table.subscribers destination ↔ (destination, subscriber) ∈ triples :=
  (SubscriptionTable.mem_subscribers_iff h.proper).trans
    (h.mem_entries_iff destination subscriber)

theorem subscriptionCount_eq_card (h : Represents table triples) :
    table.subscriptionCount = triples.card := by
  have hnodup : table.entries.Nodup := h.proper.nodup_pairs
  rw [← length_entries, ← h.toFinset_entries, List.toFinset_card_of_nodup hnodup]

/-- No row is empty, so every row has a triple. -/
theorem destinationCount_eq_card (h : Represents table triples) :
    table.destinationCount = (triples.image Prod.fst).card := by
  have hnames : triples.image Prod.fst = (table.destinations.map Prod.fst).toFinset := by
    ext destination
    rw [← h.toFinset_entries, Finset.mem_image, List.mem_toFinset, List.mem_map]
    constructor
    · rintro ⟨entry, hentry, rfl⟩
      obtain ⟨row, hrow, hname, -⟩ := Rows.mem_pairs_iff.mp (List.mem_toFinset.mp hentry)
      exact ⟨row, hrow, hname⟩
    · rintro ⟨row, hrow, rfl⟩
      obtain ⟨subscriber, hmem⟩ := List.exists_mem_of_ne_nil _ (h.proper.filled row hrow)
      have hentry := Rows.mem_pairs_iff.mpr ⟨row, hrow, rfl, hmem⟩
      exact ⟨(row.1, subscriber), List.mem_toFinset.mpr hentry, rfl⟩
  rw [hnames, List.toFinset_card_of_nodup h.proper.names, List.length_map, destinationCount]

theorem add (h : Represents table triples) (destination : String) (subscriber : Subscriber) :
    Represents (table.add destination subscriber) (insert (destination, subscriber) triples) where
  proper := proper_add h.proper destination subscriber
  mem_entries_iff key other := by
    rw [mem_entries_add, h.mem_entries_iff, Finset.mem_insert, Prod.mk.injEq]

theorem remove (h : Represents table triples) (destination : String) (subscriber : Subscriber) :
    Represents (table.remove destination subscriber).2
      (triples.erase (destination, subscriber)) where
  proper := proper_filter h.proper _
  mem_entries_iff key other := by
    rw [mem_entries_remove, h.mem_entries_iff, Finset.mem_erase, ne_eq, Prod.mk.injEq, and_comm]

theorem removeSession (h : Represents table triples) (session : SessionId) :
    Represents (table.removeSession session).2
      (triples.filter fun entry ↦ entry.2.session ≠ session) where
  proper := proper_filter h.proper _
  mem_entries_iff key other := by
    rw [mem_entries_removeSession, h.mem_entries_iff, Finset.mem_filter]

/-- What a session's removal counts is what the set loses. -/
theorem removeSession_count (h : Represents table triples) (session : SessionId) :
    (table.removeSession session).1 =
      (triples.filter fun entry ↦ entry.2.session = session).card := by
  have hsplit := Finset.card_filter_add_card_filter_not (s := triples)
    fun entry ↦ entry.2.session = session
  have hleft := (h.removeSession session).subscriptionCount_eq_card
  rw [SubscriptionTable.removeSession] at hleft ⊢
  simp only at hleft ⊢
  rw [h.subscriptionCount_eq_card, hleft]
  simp only [ne_eq]
  omega

end Represents

/-- A table answers every call as the set that it represents does. -/
theorem simulates_triples : Keeper.Simulates Represents Keeper.entries Keeper.triples := by
  intro table triples call h
  cases call with
  | add destination subscriber => exact ⟨rfl, h.add destination subscriber⟩
  | remove destination subscriber =>
    have hfound : decide (subscriber ∈ table.subscribers destination) =
        decide ((destination, subscriber) ∈ triples) := decide_eq_decide.mpr h.mem_subscribers_iff
    exact ⟨congrArg TableAnswer.removed hfound, h.remove destination subscriber⟩
  | removeSession session =>
    exact ⟨congrArg TableAnswer.cleared (h.removeSession_count session), h.removeSession session⟩

/-! ### Histories -/

/-- What a table and a set of triples come to behind the same history. -/
structure Refinement (calls : List TableCall) : Prop where
  /-- A removal is told whether its triple was there, the removal of a session how many it had. -/
  answers : (Keeper.entries.run .empty calls).1 = (Keeper.triples.run ∅ calls).1
  subscribers : ∀ destination,
    ((Keeper.entries.run .empty calls).2.subscribers destination).Nodup ∧
      ∀ subscriber, subscriber ∈ (Keeper.entries.run .empty calls).2.subscribers destination ↔
        (destination, subscriber) ∈ (Keeper.triples.run ∅ calls).2
  subscriptionCount : (Keeper.entries.run .empty calls).2.subscriptionCount =
    (Keeper.triples.run ∅ calls).2.card
  destinationCount : (Keeper.entries.run .empty calls).2.destinationCount =
    ((Keeper.triples.run ∅ calls).2.image Prod.fst).card
  /-- Rows that are emptied in place are answered for and left in the same way. -/
  inPlace : Keeper.rows.run .empty calls = Keeper.entries.run .empty calls

/-- Behind every history a table is a set of triples. -/
theorem refinement_of_calls (calls : List TableCall) : Refinement calls := by
  obtain ⟨hanswers, hset⟩ := simulates_triples.run represents_empty calls
  obtain ⟨hrows, htables, -⟩ := simulates_rows.run ⟨rfl, Rows.proper_nil⟩ calls
  exact {
    answers := hanswers
    subscribers := fun destination ↦
      ⟨hset.proper.nodup_lookup, fun _ ↦ hset.mem_subscribers_iff⟩
    subscriptionCount := hset.subscriptionCount_eq_card
    destinationCount := hset.destinationCount_eq_card
    inPlace := Prod.ext hrows htables }

/-- A triple is found once, and a session's removal takes its triples with their destinations. -/
example :
    let phone : Subscriber := ⟨⟨"phone"⟩, "1"⟩
    let laptop : Subscriber := ⟨⟨"laptop"⟩, "1"⟩
    let calls : List TableCall :=
      [.add "/topic/x" phone, .add "/topic/x" laptop, .add "/topic/y" phone,
        .remove "/topic/x" laptop, .remove "/topic/x" laptop, .removeSession ⟨"phone"⟩]
    Keeper.rows.run .empty calls =
      ([.added, .added, .added, .removed true, .removed false, .cleared 2], .empty) := by
  rfl

end SubscriptionTable

end StompBroker
