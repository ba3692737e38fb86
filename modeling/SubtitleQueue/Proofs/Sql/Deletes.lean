import Mathlib
import SubtitleQueue.Proofs.Sql.Layout

/-!
Deleting rows. A cascade from a row of one table deletes rows of the tables that refer to it;
on a quiet database those are never the quiet table, which only loses the rows deleted from it
directly.
-/

namespace SubtitleQueue.Sql

namespace Exec

/-- A change that at most deletes rows of the table named `n`: on a quiet database it keeps the
database quiet, the indexes as they were, and that table but for the rows of some ids. -/
def Deletes (n : String) (db db' : Database) : Prop :=
  Quiet n db → Quiet n db' ∧ db'.indexes = db.indexes ∧
    ∃ ids : List Int, db'.table? n = (db.table? n).map (·.without ids)

instance (n : String) : IsPreorder Database (Deletes n) where
  refl db h := ⟨h, rfl, [], by cases db.table? n <;> simp [Table.without_nil]⟩
  trans a b c hab hbc h := by
    obtain ⟨hb, hib, ids, htb⟩ := hab h
    obtain ⟨hc, hic, ids', htc⟩ := hbc hb
    refine ⟨hc, hic.trans hib, ids ++ ids', ?_⟩
    rw [htc, htb]
    cases a.table? n <;> simp [Table.without_without]

theorem deletes_of_spares {n : String} {db db' : Database} (h : Spares n db db') : Deletes n db db' := by
  intro hq
  obtain ⟨hq', ht, hi⟩ := h hq
  exact ⟨hq', hi, [], by rw [ht]; cases db.table? n <;> simp [Table.without_nil]⟩

theorem Within.mono {α : Type} {R S : Database → Database → Prop} {x : Exec α}
    (hRS : ∀ a b, R a b → S a b) (h : Within R x) : Within S x :=
  ⟨fun db => hRS _ _ (h.always db)⟩

/-- Removing a row from the quiet table itself deletes it. -/
theorem deletes_removeRow {n tname : String} {d : Database} {t : Table}
    (hn : sameName tname n = true) (ht : d.table? tname = some t) (r : Int) :
    Deletes n d (d.setTable (t.removeRow r)) := by
  intro hq
  have htn : d.table? n = some t := by rw [← Database.table?_congr hn]; exact ht
  have hname : sameName (t.removeRow r).name n = true := by
    rw [Table.removeRow_name]; exact Database.sameName_of_table? htn
  have hfk : (t.removeRow r).foreignKeys = [] :=
    hq.leaves t (List.mem_of_find?_eq_some htn) hname
  refine ⟨hq.setTable_named hname hfk, rfl, [r], ?_⟩
  rw [Database.table?_setTable_self htn hname, htn, Table.removeRow_eq_without]
  rfl

/-- A step that starts on a quiet database may use that it does. -/
theorem Within.at_of_quiet_deletes {n : String} {α : Type} {x : Exec α} {d : Database}
    (h : Quiet n d → Within (Deletes n) x) : WithinAt (Deletes n) d x :=
  fun hq => (h hq).always d hq

theorem Within.table_bind_at {α : Type} {R : Database → Database → Prop} [IsPreorder Database R]
    {n : String} {f : Table → Exec α} (hf : ∀ d t, d.table? n = some t → WithinAt R d (f t)) :
    Within R (Exec.table n >>= f) := by
  constructor
  intro d
  unfold WithinAt Exec.table
  simp only [bind_assoc, StateT.run_bind, StateT.run_get, pure_bind]
  cases ht : d.table? n with
  | none => exact refl_of R d
  | some t => exact hf d t ht

theorem WithinAt.modify_bind {α : Type} {R : Database → Database → Prop} [IsPreorder Database R]
    {d : Database} {g : Database → Database} {rest : Exec α} (hg : R d (g d))
    (hrest : Within R rest) : WithinAt R d (modify g >>= fun _ => rest) := by
  unfold WithinAt
  simp only [StateT.run_bind]
  exact trans_of R hg (hrest.always (g d))

/-- Deleting a row, with its cascades, deletes rows of the quiet table at most. -/
theorem deleteRow_deletes {n : String} (fuel : Nat) : ∀ (env : Env) (tname : String) (r : Int)
    (w : Bool), Within (Deletes n) (deleteRow fuel env tname r w) := by
  intro env tname r w
  cases htn : sameName tname n with
  | false => exact (deleteRow_spares fuel env tname r w htn).mono fun _ _ => deletes_of_spares
  | true =>
    cases fuel with
    | zero => exact Within.fail _ _
    | succ fuel =>
      unfold deleteRow
      dsimp only
      repeat' first
        | with_reducible apply Within.pure
        | with_reducible apply Within.fail
        | (with_reducible apply Within.table_bind_at; intro d t ht
           refine WithinAt.modify_bind (deletes_removeRow htn ht r) ?_)
        | exact (runTriggers_spares _ _ _ _ _ _ _).mono fun _ _ => deletes_of_spares
        | with_reducible apply Within.table_bind
        | (with_reducible apply Within.get_bind_at; intro d; apply Within.at_of_quiet_deletes
           intro hq)
        | with_reducible apply Within.forIn_list_mem
        | exact (deleteRow_spares _ _ _ _ _ (hq.spared ‹_› ‹_›)).mono fun _ _ => deletes_of_spares
        | with_reducible apply Within.bind
        | with_reducible apply Within.ite
        | intro _
        | split

theorem delete_deletes {n : String} (fuel : Nat) (env : Env) (tname : String)
    (filter : Option Expr) : Within (Deletes n) (delete fuel env tname filter) := by
  cases fuel with
  | zero => exact Within.fail _ _
  | succ fuel =>
    unfold delete
    dsimp only
    repeat' first
      | with_reducible apply Within.pure
      | with_reducible apply Within.lift
      | with_reducible apply Within.fail
      | with_reducible apply deleteRow_deletes
      | with_reducible apply Within.table_bind
      | with_reducible apply Within.forIn_array
      | with_reducible apply Within.bind
      | with_reducible apply Within.ite
      | intro _

end Exec

end SubtitleQueue.Sql
