import SubtitleQueue.Proofs.Sql.Run
import SubtitleQueue.Proofs.Sql.Tables
import Mathlib.Order.Defs.Unbundled

/-!
What a run may do to the database. `Within R x` says that every run of `x`, whether it
finishes or stops, ends on a database that `R` relates to the one it started from. For a
preorder `R` this passes through binds and loops, so it is proved by walking a statement's
steps: reading the database and evaluating relate a database to itself, and only the writes
need an argument.

Queries, the search for rows that clash on a key and the check of a row's parents only read.
A change to one table, on a database that runs no triggers, spares every table of another name
that refers to no other table: the rows a change writes and the rows its cascades delete all
belong to tables that refer to a parent, or to the table changed.
-/

namespace SubtitleQueue.Sql

/-- The database a stopped run ends on. -/
def Stop.db : Stop → Database
  | .ignore db => db
  | .fault _ _ db => db

namespace Exec

/-- The database a run ends on, finished or stopped. -/
def after {α : Type} : Except Stop (α × Database) → Database
  | .ok (_, db) => db
  | .error s => s.db

/-- Running `x` from `db` ends on a database that `R` relates to `db`. -/
def WithinAt {α : Type} (R : Database → Database → Prop) (db : Database) (x : Exec α) : Prop :=
  R db (after (x.run db))

/-- Every run of `x` ends on a database that `R` relates to the one it started from. -/
structure Within {α : Type} (R : Database → Database → Prop) (x : Exec α) : Prop where
  always : ∀ db, WithinAt R db x

section Steps

variable {α β γ : Type} {R : Database → Database → Prop} [IsPreorder Database R]

theorem Within.pure (a : α) : Within R (pure a : Exec α) := ⟨fun db => refl_of R db⟩

theorem Within.bind {x : Exec α} {f : α → Exec β} (hx : Within R x) (hf : ∀ a, Within R (f a)) :
    Within R (x >>= f) := by
  constructor
  intro db
  have h := hx.always db
  unfold WithinAt at h ⊢
  simp only [StateT.run_bind]
  cases hr : x.run db with
  | error e =>
    simp only [hr] at h
    exact h
  | ok p =>
    obtain ⟨a, d⟩ := p
    simp only [hr, after] at h
    exact trans_of R h ((hf a).always d)

omit [IsPreorder Database R] in
/-- A step that reads the database may go on by what it read: the rest only has to keep `R`
from the database read. -/
theorem Within.get_bind_at {f : Database → Exec β} (hf : ∀ d, WithinAt R d (f d)) :
    Within R (get >>= f) := ⟨fun db => hf db⟩

omit [IsPreorder Database R] in
theorem Within.get_bind {f : Database → Exec β} (hf : ∀ d, Within R (f d)) :
    Within R (get >>= f) := ⟨fun db => (hf db).always db⟩

theorem Within.lift (x : Except Interrupt α) : Within R (Exec.lift x) := by
  constructor
  intro db
  unfold WithinAt
  cases x with
  | ok a => exact refl_of R db
  | error e => cases e <;> exact refl_of R db

theorem Within.fail (e : SqlError) (keep : Bool) : Within R (Exec.fail e keep : Exec α) :=
  ⟨fun db => refl_of R db⟩

theorem Within.table (n : String) : Within R (Exec.table n) := by
  constructor
  intro db
  unfold WithinAt Exec.table
  simp only [StateT.run_bind, StateT.run_get, pure_bind]
  cases db.table? n <;> exact refl_of R db

/-- Reading a table by name gives a table of that name. -/
theorem Within.table_bind {n : String} {f : Table → Exec β}
    (hf : ∀ t, sameName t.name n = true → Within R (f t)) : Within R (Exec.table n >>= f) := by
  constructor
  intro db
  unfold WithinAt Exec.table
  simp only [bind_assoc, StateT.run_bind, StateT.run_get, pure_bind]
  cases ht : db.table? n with
  | none => exact refl_of R db
  | some t =>
    exact (hf t (Database.sameName_of_table? ht)).always db

omit [IsPreorder Database R] in
theorem Within.ite {c : Prop} [Decidable c] {x y : Exec α} (hx : Within R x) (hy : Within R y) :
    Within R (if c then x else y) := by
  split
  · exact hx
  · exact hy

omit [IsPreorder Database R] in
theorem Within.modify {g : Database → Database} (h : ∀ d, R d (g d)) :
    Within R (modify g : Exec PUnit) := ⟨fun db => h db⟩

theorem Within.forIn_list_mem (xs : List γ) (init : β) {body : γ → β → Exec (ForInStep β)}
    (h : ∀ x ∈ xs, ∀ b, Within R (body x b)) : Within R (forIn xs init body) := by
  induction xs generalizing init with
  | nil => exact Within.pure init
  | cons x xs ih =>
    rw [List.forIn_cons]
    refine Within.bind (h x (by simp) init) fun s => ?_
    cases s with
    | done b => exact Within.pure b
    | yield b => exact ih b fun y hy => h y (by simp [hy])

theorem Within.forIn_list (xs : List γ) (init : β) {body : γ → β → Exec (ForInStep β)}
    (h : ∀ x b, Within R (body x b)) : Within R (forIn xs init body) :=
  Within.forIn_list_mem xs init fun x _ => h x

theorem Within.forIn_array (xs : Array γ) (init : β) {body : γ → β → Exec (ForInStep β)}
    (h : ∀ x b, Within R (body x b)) : Within R (forIn xs init body) := by
  rw [← Array.forIn_toList]
  exact Within.forIn_list xs.toList init h

theorem Within.mapM (xs : List γ) {f : γ → Exec β} (h : ∀ x, Within R (f x)) :
    Within R (xs.mapM f) := by
  induction xs with
  | nil => exact Within.pure []
  | cons x xs ih =>
    rw [List.mapM_cons]
    exact Within.bind (h x) fun b => Within.bind ih fun bs => Within.pure (b :: bs)

end Steps

/-! Steps that only read. Each is walked through: the only steps it has are reads, binds,
loops and the branches between them. -/

section Reads

variable {R : Database → Database → Prop} [IsPreorder Database R]

theorem conflicts_within (env : Env) (t : Table) (ix : Index) (r : Int) (vals : Array Value) :
    Within R (conflicts env t ix r vals) := by
  unfold conflicts covers
  dsimp only
  repeat' first
    | with_reducible apply Within.pure
    | with_reducible apply Within.lift
    | with_reducible apply Within.forIn_array
    | with_reducible apply Within.bind
    | with_reducible apply Within.ite
    | intro _
    | split

theorem checkParents_within (t : Table) (r : Int) (vals : Array Value) :
    Within R (checkParents t r vals) := by
  unfold checkParents
  dsimp only
  repeat' first
    | with_reducible apply Within.pure
    | with_reducible apply Within.fail
    | with_reducible apply Within.forIn_list
    | with_reducible apply Within.get_bind
    | with_reducible apply Within.bind
    | with_reducible apply Within.ite
    | intro _
    | split

theorem freshRowid_within (t : Table) : Within R (freshRowid t) := by
  unfold freshRowid
  exact Within.get_bind fun _ => Within.pure _

/-- A query reads and never writes; the rows of a view are read by the same walk, one level of
fuel down. -/
theorem query_within (fuel : Nat) (env : Env) (q : Select) : Within R (query fuel env q) := by
  induction fuel generalizing env q with
  | zero => exact Within.fail _ _
  | succ fuel ih =>
    unfold query
    dsimp only
    repeat' first
      | with_reducible apply Within.pure
      | with_reducible apply Within.lift
      | with_reducible apply Within.fail
      | with_reducible apply ih
      | with_reducible apply Within.forIn_array
      | with_reducible apply Within.forIn_list
      | with_reducible apply Within.get_bind
      | with_reducible apply Within.bind
      | with_reducible apply Within.ite
      | intro _
      | split

end Reads

/-! Changes that spare a table. -/

/-- A database on which no change runs a trigger, with one table named `n` at most, which refers
to no other table, so that no cascade deletes its rows. -/
structure Quiet (n : String) (db : Database) : Prop where
  triggers : db.triggers = []
  leaves : ∀ u ∈ db.tables, sameName u.name n = true → u.foreignKeys = []
  alone : ∀ u ∈ db.tables, ∀ v ∈ db.tables, sameName u.name n = true → sameName v.name n = true →
    u = v

/-- A change that spares the table named `n`: on a quiet database it keeps the database quiet,
the table named `n` and the indexes as they were. -/
def Spares (n : String) (db db' : Database) : Prop :=
  Quiet n db → Quiet n db' ∧ db'.table? n = db.table? n ∧ db'.indexes = db.indexes

instance (n : String) : IsPreorder Database (Spares n) where
  refl _ h := ⟨h, rfl, rfl⟩
  trans _ _ _ hab hbc h := by
    obtain ⟨hb, htb, hib⟩ := hab h
    obtain ⟨hc, htc, hic⟩ := hbc hb
    exact ⟨hc, htc.trans htb, hic.trans hib⟩


section Spares

variable {n : String}

/-- A table found under a name that does not match `n` is spared. -/
theorem spared_of_name {t : Table} {m : String} (ht : sameName t.name m = true)
    (hm : sameName m n = false) : sameName t.name n = false := by
  rw [sameName_congr_left ht]
  exact hm

/-- On a quiet database a table that refers to a parent is not named `n`. -/
theorem Quiet.spared {db : Database} (hq : Quiet n db) {u : Table} {fk : ForeignKey}
    (hu : u ∈ db.tables) (hfk : fk ∈ u.foreignKeys) : sameName u.name n = false := by
  cases h : sameName u.name n with
  | false => rfl
  | true => simp [hq.leaves u hu h] at hfk

/-- Replacing the tables of a name other than `n` spares the table named `n`. -/
theorem spares_replace {db db' : Database} {u : Table} (hu : sameName u.name n = false)
    (htables : db'.tables = db.tables.map fun v => if sameName v.name u.name then u else v)
    (htriggers : db'.triggers = db.triggers) (hindexes : db'.indexes = db.indexes) :
    Spares n db db' := by
  intro hq
  -- a table of db' named `n` is a table of db left in place
  have kept : ∀ w ∈ db'.tables, sameName w.name n = true → w ∈ db.tables := by
    intro w hw hwn
    rw [htables] at hw
    obtain ⟨v, hv, rfl⟩ := List.mem_map.mp hw
    by_cases hvu : sameName v.name u.name = true
    · simp only [hvu, if_true] at hwn
      rw [hu] at hwn
      exact absurd hwn Bool.false_ne_true
    · simp only [hvu, Bool.false_eq_true, if_false]
      exact hv
  refine ⟨⟨htriggers ▸ hq.triggers, fun w hw hwn => hq.leaves w (kept w hw hwn) hwn,
    fun w hw w' hw' hwn hwn' => hq.alone w (kept w hw hwn) w' (kept w' hw' hwn') hwn hwn'⟩, ?_,
    hindexes⟩
  · unfold Database.table?
    rw [htables]
    exact Database.find?_replace_other hu

theorem spares_setTable {db : Database} {u : Table} (hu : sameName u.name n = false) :
    Spares n db (db.setTable u) :=
  spares_replace hu rfl rfl rfl

/-- A step that starts on a quiet database may use that it does. -/
theorem Within.at_of_quiet {α : Type} {x : Exec α} {d : Database}
    (h : Quiet n d → Within (Spares n) x) : WithinAt (Spares n) d x :=
  fun hq => (h hq).always d hq

theorem runTriggers_spares (fuel : Nat) (env : Env) (tname : String) (timing : Timing)
    (event : Event) (old new : Option (Int × Array Value)) :
    Within (Spares n) (runTriggers fuel env tname timing event old new) := by
  cases fuel with
  | zero => exact Within.fail _ _
  | succ fuel =>
    constructor
    intro db hq
    simp only [run_runTriggers_of_nil hq.triggers, after, and_true]
    exact hq

theorem spares_setTable_with {db : Database} {u : Table} (hu : sameName u.name n = false)
    (x : Int) : Spares n db { db.setTable u with lastRowid := x } :=
  spares_replace hu rfl rfl rfl

theorem noteRowid_spares (t : Table) (r : Int) (hseq : sameName "sqlite_sequence" n = false) :
    Within (Spares n) (noteRowid t r) := by
  unfold noteRowid
  refine Within.ite (Within.pure _) (Within.get_bind_at fun d => ?_)
  split
  · exact (Within.pure _).always d
  · rename_i s hs
    have hname : sameName s.name n = false :=
      spared_of_name (Database.sameName_of_table? hs) hseq
    dsimp only
    repeat' split
    all_goals first
      | exact spares_setTable hname
      | exact (Within.pure _).always d

/-- Deleting a row of a table other than `n` spares it, cascades included: on a quiet database
every table a cascade reaches refers to a parent, so is not named `n`. -/
theorem deleteRow_spares (fuel : Nat) : ∀ (env : Env) (tname : String) (r : Int) (w : Bool),
    sameName tname n = false → Within (Spares n) (deleteRow fuel env tname r w) := by
  induction fuel with
  | zero => intro env tname r w _; exact Within.fail _ _
  | succ fuel ih =>
    intro env tname r w htn
    unfold deleteRow
    dsimp only
    repeat' first
      | with_reducible apply Within.pure
      | with_reducible apply Within.fail
      | with_reducible apply runTriggers_spares
      | with_reducible apply Within.table_bind
      | (with_reducible apply Within.get_bind_at; intro d; apply Within.at_of_quiet; intro hq)
      | with_reducible apply Within.forIn_list_mem
      | with_reducible apply ih
      | with_reducible apply Within.modify
      | with_reducible apply spares_setTable
      | with_reducible apply Within.bind
      | with_reducible apply Within.ite
      | exact hq.spared ‹_› ‹_›
      | (simp only [Table.removeRow_name]; exact spared_of_name ‹_› htn)
      | intro _
      | split

theorem updateRow_spares (fuel : Nat) (env : Env) (res : Resolution) (tname : String) (r : Int)
    (old new : Array Value) (cols : List String) (htn : sameName tname n = false) :
    Within (Spares n) (updateRow fuel env res tname r old new cols) := by
  cases fuel with
  | zero => exact Within.fail _ _
  | succ fuel =>
    unfold updateRow
    dsimp only
    repeat' first
      | with_reducible apply Within.pure
      | with_reducible apply Within.lift
      | with_reducible apply Within.fail
      | with_reducible apply runTriggers_spares
      | with_reducible apply conflicts_within
      | with_reducible apply checkParents_within
      | with_reducible apply deleteRow_spares
      | with_reducible apply Within.table_bind
      | with_reducible apply Within.get_bind
      | with_reducible apply Within.forIn_array
      | with_reducible apply Within.forIn_list
      | with_reducible apply Within.modify
      | with_reducible apply spares_setTable
      | with_reducible apply Within.bind
      | with_reducible apply Within.ite
      | exact htn
      | (simp only [Table.removeRow_name, Table.putRow_name]; exact spared_of_name ‹_› htn)
      | intro _
      | split

theorem update_spares (fuel : Nat) (env : Env) (res : Resolution) (tname : String)
    (sets : List (String × Expr)) (filter : Option Expr) (htn : sameName tname n = false) :
    Within (Spares n) (update fuel env res tname sets filter) := by
  cases fuel with
  | zero => exact Within.fail _ _
  | succ fuel =>
    unfold update
    dsimp only
    repeat' first
      | with_reducible apply Within.pure
      | with_reducible apply Within.lift
      | with_reducible apply Within.fail
      | with_reducible apply updateRow_spares
      | with_reducible apply Within.table_bind
      | with_reducible apply Within.forIn_array
      | with_reducible apply Within.forIn_list
      | with_reducible apply Within.bind
      | with_reducible apply Within.ite
      | exact htn
      | intro _
      | split

theorem delete_spares (fuel : Nat) (env : Env) (tname : String) (filter : Option Expr)
    (htn : sameName tname n = false) : Within (Spares n) (delete fuel env tname filter) := by
  cases fuel with
  | zero => exact Within.fail _ _
  | succ fuel =>
    unfold delete
    dsimp only
    repeat' first
      | with_reducible apply Within.pure
      | with_reducible apply Within.lift
      | with_reducible apply Within.fail
      | with_reducible apply deleteRow_spares
      | with_reducible apply Within.table_bind
      | with_reducible apply Within.forIn_array
      | with_reducible apply Within.bind
      | with_reducible apply Within.ite
      | exact htn
      | intro _

theorem insertRow_spares (fuel : Nat) (env : Env) (res : Resolution) (tname : String)
    (targets : List Nat) (given : List Value) (up : Option Upsert) (htn : sameName tname n = false)
    (hseq : sameName "sqlite_sequence" n = false) :
    Within (Spares n) (insertRow fuel env res tname targets given up) := by
  cases fuel with
  | zero => exact Within.fail _ _
  | succ fuel =>
    unfold insertRow
    dsimp only
    repeat' first
      | with_reducible apply Within.pure
      | with_reducible apply Within.lift
      | with_reducible apply Within.fail
      | with_reducible apply runTriggers_spares
      | with_reducible apply conflicts_within
      | with_reducible apply checkParents_within
      | with_reducible apply freshRowid_within
      | with_reducible apply noteRowid_spares
      | with_reducible apply deleteRow_spares
      | with_reducible apply updateRow_spares
      | with_reducible apply Within.table_bind
      | with_reducible apply Within.get_bind
      | with_reducible apply Within.forIn_array
      | with_reducible apply Within.forIn_list
      | with_reducible apply Within.modify
      | with_reducible apply spares_setTable_with
      | with_reducible apply Within.bind
      | with_reducible apply Within.ite
      | exact htn
      | exact hseq
      | (simp only [Table.putRow_name]; exact spared_of_name ‹_› htn)
      | intro _
      | split

theorem insert_spares (fuel : Nat) (env : Env) (res : Resolution) (tname : String)
    (cols : Option (List String)) (rows : Rows) (up : Option Upsert)
    (htn : sameName tname n = false) (hseq : sameName "sqlite_sequence" n = false) :
    Within (Spares n) (insert fuel env res tname cols rows up) := by
  cases fuel with
  | zero => exact Within.fail _ _
  | succ fuel =>
    unfold insert
    dsimp only
    repeat' first
      | with_reducible apply Within.pure
      | with_reducible apply Within.lift
      | with_reducible apply Within.fail
      | with_reducible apply query_within
      | with_reducible apply insertRow_spares
      | with_reducible apply Within.table_bind
      | with_reducible apply Within.mapM
      | with_reducible apply Within.forIn_list
      | with_reducible apply Within.bind
      | with_reducible apply Within.ite
      | exact htn
      | exact hseq
      | intro _
      | split

end Spares

end Exec

end SubtitleQueue.Sql
