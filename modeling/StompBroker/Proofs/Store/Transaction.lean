import Mathlib.Logic.Relation
import Mathlib.Tactic.SplitIfs
import StompBroker.Store.Database

/-!
# Transactions, while they last and after

What statements do to tables is their replay: `Tables.replay` makes one change after the other, and
a statement that succeeded changes tables as `Tables.apply` says. In its transaction a statement
changes the working tables (`run_of_working`) and nothing else, on its own the stored ones
(`run_alone`). A transaction that is committed stores its tables (`commit_of_ok`), and one that
cannot be committed nothing (`commit_of_ne_ok`).

A transaction that is `Over` stays so whatever happens to the database later (`Over.of_later`), and
no statement runs in it any more (`Over.run`).
-/

set_option autoImplicit false

namespace StompBroker

namespace Tables

/-- The tables after a statement; one that fails leaves them as they are. -/
def apply {α : Type} (statement : Statement α) (tables : Tables) : Tables :=
  match statement tables with
  | .ok (_, changed) => changed
  | .error _ => tables

/-- The tables after some changes, made one after the other. -/
def replay (tables : Tables) (changes : List (Tables → Tables)) : Tables :=
  changes.foldl (fun tables change ↦ change tables) tables

theorem replay_append (tables : Tables) (first second : List (Tables → Tables)) :
    tables.replay (first ++ second) = (tables.replay first).replay second :=
  List.foldl_append

/-- What a statement that was executed changed: something if it succeeded, nothing if it failed. -/
def changed {α : Type} (statement : Statement α) : Except Failure α → List (Tables → Tables)
  | .ok _ => [apply statement]
  | .error _ => []

theorem apply_of_eq {α : Type} {statement : Statement α} {tables after : Tables} {value : α}
    (h : statement tables = .ok (value, after)) : apply statement tables = after := by
  rw [apply, h]

end Tables

namespace Database

variable {α : Type} {database : Database} {id : TransactionId} {tables : Tables}

/-- The database with other working tables, or none. -/
def withWorking (database : Database) (working : Option (TransactionId × Tables)) : Database :=
  { database with working := working }

/-- The database with other stored tables. -/
def withTables (database : Database) (tables : Tables) : Database :=
  { database with tables := tables }

@[simp]
theorem working_withWorking (database : Database) (working : Option (TransactionId × Tables)) :
    (database.withWorking working).working = working :=
  rfl

@[simp]
theorem withWorking_withWorking (database : Database)
    (working other : Option (TransactionId × Tables)) :
    (database.withWorking working).withWorking other = database.withWorking other :=
  rfl

@[simp]
theorem tables_withTables (database : Database) (tables : Tables) :
    (database.withTables tables).tables = tables :=
  rfl

@[simp]
theorem withTables_withTables (database : Database) (tables other : Tables) :
    (database.withTables tables).withTables other = database.withTables other :=
  rfl

/-! ### Statements -/

/-- In its transaction, a statement changes the working tables if it succeeds. -/
theorem run_of_working (h : database.working = some (id, tables)) (statement : Statement α) :
    (database.run (some id) statement).2 =
      database.withWorking
        (some (id,
          tables.replay (Tables.changed statement (database.run (some id) statement).1))) := by
  have hkept : database.withWorking (some (id, tables)) = database := by
    rw [← h]
    rfl
  simp only [run, h, ne_eq, not_true_eq_false, if_false]
  cases hstatement : statement tables with
  | error failure => exact hkept.symm
  | ok outcome =>
    have happly : Tables.apply statement tables = outcome.2 := Tables.apply_of_eq hstatement
    simp only [Tables.changed, Tables.replay, List.foldl_cons, List.foldl_nil, happly, withWorking]

/-- On its own, a statement changes the stored tables if it succeeds. -/
theorem run_alone (database : Database) (statement : Statement α) :
    (database.run none statement).2 =
      database.withTables
        (database.tables.replay (Tables.changed statement (database.run none statement).1)) := by
  simp only [run, runAlone]
  by_cases hclosed : (!database.isOpen) = true
  · rw [if_pos hclosed]
    rfl
  · rw [if_neg hclosed]
    cases hstatement : statement database.tables with
    | error failure => rfl
    | ok outcome =>
      have happly : Tables.apply statement database.tables = outcome.2 :=
        Tables.apply_of_eq hstatement
      simp only [Tables.changed, Tables.replay, List.foldl_cons, List.foldl_nil, happly, withTables]

/-! ### The end of a transaction -/

/-- A transaction can be committed exactly if the storage does not refuse it. -/
theorem commit_eq_ok_iff (h : database.working = some (id, tables)) :
    database.commit.1 = .ok () ↔ database.refusal? id = none := by
  simp only [commit, h]
  cases database.refusal? id with
  | none => exact iff_of_true rfl rfl
  | some reason => exact iff_of_false (fun hok ↦ nomatch hok) (fun hnone ↦ nomatch hnone)

/-- A transaction that is committed leaves its tables. -/
theorem commit_of_ok (h : database.working = some (id, tables)) (hok : database.commit.1 = .ok ()) :
    database.commit.2 = (database.withTables tables).withWorking none := by
  rw [commit_eq_ok_iff h] at hok
  simp only [commit, h, hok]
  rfl

/-- A transaction that cannot be committed leaves the stored tables. -/
theorem commit_of_ne_ok (h : database.working = some (id, tables))
    (hfails : database.commit.1 ≠ .ok ()) : database.commit.2 = database.withWorking none := by
  rw [ne_eq, commit_eq_ok_iff h] at hfails
  obtain ⟨reason, hreason⟩ := Option.ne_none_iff_exists'.mp hfails
  simp only [commit, h, hreason]
  rfl

/-- The transaction had its turn, and is not the open one. -/
structure Over (id : TransactionId) (database : Database) : Prop where
  past : id.number < database.nextTransaction
  closed : ∀ working ∈ database.working, working.1 ≠ id

/-- Something that happens to a database. -/
inductive Step : Database → Database → Prop where
  | begun {before after : Database} {id : TransactionId} (h : before.begin = .ok (id, after)) :
    Step before after
  | ran {α : Type} (before : Database) (transaction : Option TransactionId)
      (statement : Statement α) : Step before (before.run transaction statement).2
  | committed (before : Database) : Step before before.commit.2
  | rolledBack (before : Database) : Step before before.rollback
  /-- Somebody else changes the tables. -/
  | stored (before : Database) (tables : Tables) : Step before { before with tables := tables }
  | opened (before : Database) (isOpen : Bool) : Step before { before with isOpen := isOpen }

/-- What may become of a database. -/
def Later : Database → Database → Prop := Relation.ReflTransGen Step

/-- A transaction that is over runs nothing. -/
theorem Over.run (h : Over id database) (statement : Statement α) :
    database.run (some id) statement = (.error finished, database) := by
  simp only [Database.run]
  cases hworking : database.working with
  | none => rfl
  | some working => exact if_pos (h.closed working hworking)

theorem Over.of_begin {after : Database} {next : TransactionId} (h : Over id database)
    (hbegin : database.begin = .ok (next, after)) : Over id after := by
  unfold begin at hbegin
  split_ifs at hbegin
  cases hbegin
  refine ⟨Nat.lt_succ_of_lt h.past, ?_⟩
  rintro working hworking rfl
  cases hworking
  exact absurd h.past (Nat.lt_irrefl _)

/-- Statements open no transaction and end none. -/
theorem Over.of_run (h : Over id database) (transaction : Option TransactionId)
    (statement : Statement α) : Over id (database.run transaction statement).2 := by
  cases transaction with
  | none =>
    rw [run_alone]
    exact ⟨h.past, h.closed⟩
  | some other =>
    cases hworking : database.working with
    | none =>
      have hsame : (database.run (some other) statement).2 = database := by
        simp only [Database.run, hworking]
      rw [hsame]
      exact h
    | some working =>
      obtain ⟨openId, tables⟩ := working
      have hne : openId ≠ id := h.closed (openId, tables) hworking
      by_cases hother : openId = other
      · subst hother
        rw [run_of_working hworking]
        refine ⟨h.past, ?_⟩
        rintro working hmem
        cases hmem
        exact hne
      · have hsame : (database.run (some other) statement).2 = database := by
          simp only [Database.run, hworking, if_pos hother]
        rw [hsame]
        exact h

theorem Over.of_commit (h : Over id database) : Over id database.commit.2 := by
  cases hworking : database.working with
  | none =>
    have hsame : database.commit.2 = database := by simp only [commit, hworking]
    rw [hsame]
    exact h
  | some working =>
    by_cases hok : database.commit.1 = .ok ()
    · rw [commit_of_ok hworking hok]
      exact ⟨h.past, fun _ hnone ↦ nomatch hnone⟩
    · rw [commit_of_ne_ok hworking hok]
      exact ⟨h.past, fun _ hnone ↦ nomatch hnone⟩

theorem Over.of_step {before after : Database} (h : Over id before) (hstep : Step before after) :
    Over id after := by
  cases hstep with
  | begun hbegin => exact h.of_begin hbegin
  | ran _ transaction statement => exact h.of_run transaction statement
  | committed => exact h.of_commit
  | rolledBack => exact ⟨h.past, by simp [rollback]⟩
  | stored tables => exact ⟨h.past, h.closed⟩
  | opened isOpen => exact ⟨h.past, h.closed⟩

/-- Once over, a transaction is over for good. -/
theorem Over.of_later {before after : Database} (h : Over id before) (hlater : Later before after) :
    Over id after := by
  induction hlater with
  | refl => exact h
  | tail _ hstep ih => exact ih.of_step hstep

end Database

end StompBroker
