import Mathlib
import SubtitleQueue.Proofs.Store.Rows
import SubtitleQueue.Proofs.Sql.Change
import SubtitleQueue.Proofs.Sql.Values

/-!
The unique index over live requests, read on the request table. The index covers the rows
with `is_active = 1` and keys them by media item and languages; a key with a null part clashes
with nothing. On a table holding requests, the rows a new or changed request clashes with are
exactly the other requests it `clashes` with, so a change that keeps every request's key and
makes no request live clashes with nothing on a table where no two requests clash.
-/

namespace SubtitleQueue.Store

open Sql Exec

/-- The condition of the index over live requests: `is_active = 1`. -/
def activeFilter (o : Nat) : Expr := .binary .eq (.column none "is_active" o) (.lit (.int 1))

/-- The columns of the index over live requests. -/
def tupleColumns : List String := ["media_id", "media_type", "source_language", "target_language"]

/-- An index of the request table as the queue's schema makes it: a plain index, or the unique
index over the media item and languages of live requests. -/
def RequestIndex (ix : Index) : Prop :=
  ix.unique = false ∨ (ix.columns = tupleColumns ∧ ∃ o, ix.filter = some (activeFilter o))

/-- No two requests of a list clash on the index over live requests. -/
def Unclashed (rs : List Request) : Prop :=
  rs.Pairwise fun x y => x.clashes y = false

section Eval

variable (q : Request) (env : Env)

@[simp] theorem Request.frame_name : q.frame.name = "translation_requests" := rfl

theorem Request.column_frame (hf : env.frames = []) (n : String) :
    (env.scope [q.frame]).column? none n = q.frame.lookup? n := by
  simp [Scope.column?, Env.scope, hf]

/-- A request is covered by the index exactly when it is live. -/
theorem holds_activeFilter (hf : env.frames = []) (o : Nat) :
    holds (env.scope [q.frame]) (some (activeFilter o)) = .ok q.live := by
  simp only [holds, activeFilter, eval, Scope.affinity, Request.column_frame q env hf,
    Request.lookup_isActive]
  cases h : q.active with
  | none => simp [Request.live, h]; rfl
  | some b => cases b <;> simp [Request.live, h, flag] <;> rfl

end Eval

theorem Value.same_int (x y : Int) : Value.same (.int x) (.int y) = (x == y) := by
  simp [Value.same]

theorem Value.same_text (x y : String) : Value.same (.text x) (.text y) = (x == y) := by
  show (Value.order (.text x) (.text y) == .eq) = (x == y)
  rw [Bool.eq_iff_iff, beq_iff_eq, beq_iff_eq, Value.order_text_eq]

@[simp] theorem Value.same_null_left (v : Value) : Value.same .null v = false := rfl

@[simp] theorem Value.same_null_right (v : Value) : Value.same v .null = false := by
  cases v <;> rfl

@[simp] theorem MediaKind.name_inj {a b : MediaKind} : a.name = b.name ↔ a = b := by
  cases a <;> cases b <;> decide

/-- The key of a request on the index over live requests. -/
def Request.key (q : Request) : List Value :=
  [(q.mediaId.map .int).getD .null, textOrNull (q.mediaKind.map MediaKind.name), .text q.source,
    .text q.target]

/-- Two keys are the same exactly when the first has no null part and the requests stand for
the same media item and languages. -/
theorem sameKey_key (q x : Request) :
    sameKey q.key x.key = (q.tuple?.isSome && q.tuple? == x.tuple?) := by
  unfold Request.tuple? Request.media?
  cases hi : q.mediaId <;> cases hk : q.mediaKind <;> cases hi' : x.mediaId <;>
    cases hk' : x.mediaKind <;>
    simp [sameKey, Request.key, hi, hk, hi', hk', textOrNull, Value.same_int, Value.same_text]
  rw [Bool.eq_iff_iff]
  simp

theorem key_contains_null (q : Request) : q.key.contains .null = q.tuple?.isNone := by
  unfold Request.tuple? Request.media?
  cases hi : q.mediaId <;> cases hk : q.mediaKind <;> simp [Request.key, textOrNull, hi, hk]

namespace RequestTable

variable {t : Table} {rs : List Request}

theorem columnIndex_of_mem (h : RequestTable t rs) {n : String} {i : Nat}
    (hn : (n, i) ∈ requestColumnNames.toList.zipIdx) : t.columnIndex? n = some i := by
  rw [h.columnIndex, ← requestColumnNames_findIdx? (n, i) hn, requestColumnNames,
    Array.findIdx?_map]
  rfl

theorem keyOf_tuple (h : RequestTable t rs) (r : Int) (q : Request) :
    keyOf t r q.cells tupleColumns = q.key := by
  simp only [keyOf, tupleColumns, List.map_cons, List.map_nil,
    h.columnIndex_of_mem (show ("media_id", 1) ∈ requestColumnNames.toList.zipIdx by
      simp [requestColumnNames, requestColumnDefs]),
    h.columnIndex_of_mem (show ("media_type", 2) ∈ requestColumnNames.toList.zipIdx by
      simp [requestColumnNames, requestColumnDefs]),
    h.columnIndex_of_mem (show ("source_language", 4) ∈ requestColumnNames.toList.zipIdx by
      simp [requestColumnNames, requestColumnDefs]),
    h.columnIndex_of_mem (show ("target_language", 5) ∈ requestColumnNames.toList.zipIdx by
      simp [requestColumnNames, requestColumnDefs])]
  rfl

theorem covers_active (h : RequestTable t rs) (hf : env.frames = []) {ix : Index} {o : Nat}
    (hflt : ix.filter = some (activeFilter o)) (q : Request) :
    (covers env t ix q.id q.cells).run db = .ok (q.live, db) := by
  simp only [covers, hflt]
  rw [h.frame q, holds_activeFilter q env hf]
  rfl

/-- A request clashes on no index of the request table with the rows of a table holding
requests none of which, under another id, it clashes with. -/
theorem conflicts_eq_nil (h : RequestTable t rs) (hf : env.frames = []) {ix : Index}
    (hix : RequestIndex ix) (q : Request) (hfree : ∀ x ∈ rs, x.id ≠ q.id → q.clashes x = false) :
    (conflicts env t ix q.id q.cells).run db = .ok ([], db) := by
  unfold conflicts
  cases hu : ix.unique
  · rfl
  obtain ⟨hc, o, hflt⟩ := hix.resolve_left (by simp [hu])
  simp only [hc, h.keyOf_tuple, key_contains_null, Bool.not_true, Bool.false_eq_true, if_false]
  cases htup : q.tuple? with
  | none => rfl
  | some k =>
    simp only [Option.isNone_some, Bool.false_eq_true, if_false]
    rw [run_bind_of_ok (covers_active h hf hflt q)]
    cases hlive : q.live
    · rfl
    simp only [Bool.not_true, Bool.false_eq_true, if_false]
    -- no row passes both tests, so the loop keeps nothing
    rw [run_bind_of_ok (run_forIn_array_yield_self _ _ _ fun e he => ?_)]
    · rfl
    rw [h.rows, List.mem_toArray, List.mem_map] at he
    obtain ⟨x, hx, rfl⟩ := he
    simp only [Request.entry, h.keyOf_tuple, sameKey_key, htup]
    by_cases hid : x.id = q.id
    · simp [hid]; rfl
    · have hcl := hfree x hx hid
      simp only [Request.clashes, hlive, htup, Option.isSome_some, Bool.true_and] at hcl
      cases hk : (some k == x.tuple?)
      · simp; rfl
      · simp only [hk, Bool.and_true] at hcl
        have hne : (x.id != q.id) = true := by simpa using hid
        simp only [hne, Option.isSome_some, Bool.and_self, if_true]
        rw [run_bind_of_ok (covers_active h hf hflt x), hcl]
        rfl

end RequestTable

end SubtitleQueue.Store
