import Mathlib
import SubtitleQueue.Proofs.Store.Clashes
import SubtitleQueue.Proofs.Sql.Layout

/-!
Changes to the request table, run to the end. On a database without triggers whose request
table holds requests no two of which clash, an update whose assignments keep each request's id
and key, and make no request live that was not, changes every request its condition holds for
and nothing else; it never meets a broken constraint. A new request that clashes with no stored
one is appended under a fresh id.
-/

namespace SubtitleQueue.Store

open Sql Exec

/-- Requests as records of the request table: under their ids, as their cells. -/
def requestLayout : Layout Request := ⟨Request.id, Request.cells⟩

@[simp] theorem requestLayout_id : requestLayout.id = Request.id := rfl

@[simp] theorem requestLayout_cells : requestLayout.cells = Request.cells := rfl

theorem holding_eq_store (t : Table) (rs : List Request) :
    t.holding rs = requestLayout.store t rs := rfl

/-- The request table holds its requests as records of their layout. -/
theorem RequestTable.holds {t : Table} {rs : List Request} (h : RequestTable t rs) :
    requestLayout.Holds t rs where
  rowid := h.rowid
  checks := h.checks
  keys := h.keys
  rows := h.rows
  sorted := h.sorted
  first := Request.cells_id
  filled q := by rw [h.columns]; exact Request.cells_notNull q

/-- `a` stands where `b` stood: same id, same key, and live only if `b` was. -/
structure Request.Keeps (a b : Request) : Prop where
  id : a.id = b.id
  tuple : a.tuple? = b.tuple?
  live : a.live = true → b.live = true

theorem Request.Keeps.refl (q : Request) : q.Keeps q := ⟨rfl, rfl, fun h => h⟩

theorem Request.Keeps.clashes {a b : Request} (h : a.Keeps b) {x : Request}
    (hx : a.clashes x = true) : b.clashes x = true := by
  simp only [Request.clashes, Bool.and_eq_true] at hx ⊢
  obtain ⟨⟨⟨ha, hxl⟩, hs⟩, he⟩ := hx
  exact ⟨⟨⟨h.live ha, hxl⟩, h.tuple ▸ hs⟩, h.tuple ▸ he⟩

/-- The request table without some ids holds the other requests. -/
theorem RequestTable.without {t : Table} {rs : List Request} (h : RequestTable t rs)
    (ids : List Int) : RequestTable (t.without ids) (rs.filter fun q => !ids.contains q.id) where
  name := h.name
  columns := h.columns
  rowid := h.rowid
  counted := h.counted
  checks := h.checks
  keys := h.keys
  rows := by
    simp only [Table.without, h.rows, List.filter_toArray, List.filter_map]
    rfl
  sorted := h.sorted.sublist ((List.filter_sublist).map _)

namespace Unclashed

variable {rs : List Request}

/-- Two requests of different ids in a list without clashes do not clash. -/
theorem clashes_eq_false (hu : Unclashed rs) {x y : Request} (hx : x ∈ rs) (hy : y ∈ rs)
    (hne : x.id ≠ y.id) : x.clashes y = false := by
  have : Std.Symm fun a b : Request => a.clashes b = false :=
    ⟨fun a b h => by rw [Request.clashes_comm]; exact h⟩
  exact hu.forall hx hy fun e => hne (congrArg Request.id e)

/-- Replacing requests by ones that keep them keeps a list without clashes. -/
theorem map (hu : Unclashed rs) {g : Request → Request} (hg : ∀ q ∈ rs, (g q).Keeps q) :
    Unclashed (rs.map g) := by
  unfold Unclashed
  rw [List.pairwise_map]
  refine hu.imp_of_mem fun {x y} hx hy hxy => ?_
  cases h : (g x).clashes (g y)
  · rfl
  · have h1 := (hg x hx).clashes h
    rw [Request.clashes_comm] at h1
    have h2 := (hg y hy).clashes h1
    rw [Request.clashes_comm] at h2
    rw [hxy] at h2
    exact absurd h2 Bool.false_ne_true

end Unclashed

section Update

variable {db : Database} {t : Table} {rs : List Request} {env : Env}

/-- A change that keeps every request keeps a list without clashes; with the changed request
`g q` in it, `g q` clashes with no other request of the list before the change. -/
theorem Unclashed.changed_clear (hu : Unclashed rs) {g : Request → Request}
    (hg : ∀ q ∈ rs, (g q).Keeps q) (pre : List Int) {q : Request} (hq : q ∈ rs) :
    ∀ x ∈ requestLayout.changed g rs pre, x.id ≠ (g q).id → (g q).clashes x = false := by
  have hid : ∀ (l : List Int), ∀ x ∈ rs, (if x.id ∈ l then g x else x).id = x.id := by
    intro l x hx
    split
    · exact (hg x hx).id
    · rfl
  -- the list after the turn of `q` has no clashes and holds `g q`
  have hua : Unclashed (requestLayout.changed g rs (pre ++ [q.id])) := hu.map fun x hx => by
    split
    · exact hg x hx
    · exact Request.Keeps.refl x
  have hga : g q ∈ requestLayout.changed g rs (pre ++ [q.id]) :=
    List.mem_map.mpr ⟨q, hq, by simp [requestLayout]⟩
  intro x hx hne
  obtain ⟨y, hy, rfl⟩ := List.mem_map.mp hx
  have hyq : y.id ≠ q.id := by
    intro e
    apply hne
    rw [(hg q hq).id, requestLayout_id, hid pre y hy, e]
  have hya : (if y.id ∈ pre then g y else y) ∈ requestLayout.changed g rs (pre ++ [q.id]) :=
    List.mem_map.mpr ⟨y, hy, by simp [requestLayout, hyq]⟩
  exact hua.clashes_eq_false hga hya hne.symm

/-- An update of the request table changes, one after another in the table's order, every
request its condition holds for, and counts them. -/
theorem run_update_requests (ht : db.table? "translation_requests" = some t)
    (h : RequestTable t rs) (hq : Quiet "translation_requests" db)
    (hix : ∀ ix ∈ db.indexesOf "translation_requests", RequestIndex ix) (hf : env.frames = [])
    (hu : Unclashed rs) {P : Request → Bool} {g : Request → Request}
    (hg : ∀ q ∈ rs, P q = true → (g q).Keeps q) (filter : Option Expr)
    (hp : ∀ q ∈ rs, holds (env.scope [q.frame]) filter = .ok (P q)) (sets : List (String × Expr))
    (hset : ∀ q ∈ rs, P q = true → t.assign (env.scope [q.frame]) q.cells sets = .ok (g q).cells)
    (res : Resolution) (fuel : Nat) :
    (update (fuel + 3) env res "translation_requests" sets filter).run db =
      .ok ((rs.filter P).length, db.setTable (t.holding (rs.map fun q => if P q then g q else q))) := by
  have hg' : ∀ q ∈ rs, ((fun x => if P x then g x else x) q).Keeps q := by
    intro q hqs
    by_cases hP : P q = true
    · simp only [hP, if_true]; exact hg q hqs hP
    · simp only [hP]; exact Request.Keeps.refl q
  refine run_update_stored ht h.holds hq (fun q hqs hP => (hg q hqs hP).id) filter
    (fun q hqs => by simp only [requestLayout_id, requestLayout_cells, h.frame]; exact hp q hqs)
    sets (fun q hqs hP => by
      simp only [requestLayout_id, requestLayout_cells, h.frame]; exact hset q hqs hP)
    (fun pre q hqs hP _ ix hixm d => ?_) res fuel
  -- the changed request clashes with no other row of the table as the turn finds it
  set before := requestLayout.changed (fun x => if P x then g x else x) rs pre
  have hb : RequestTable (t.holding before) before :=
    h.holding (by
      have := Layout.changed_ids requestLayout (fun x hx => (hg' x hx).id) pre
      simp only [requestLayout_id] at this
      rw [this]; exact h.sorted)
  have hrest : RequestTable ((t.holding before).removeRow q.id) (before.filter (·.id != q.id)) := by
    rw [hb.removeRow q.id]
    exact hb.holding (hb.sorted.sublist
      ((show List.Sublist (before.filter (·.id != q.id)) before from List.filter_sublist).map _))
  have hgq : (if P q then g q else q) = g q := by simp [hP]
  have hclear := hu.changed_clear hg' pre hqs
  rw [hgq] at hclear
  have hgid : (g q).id = q.id := (hg q hqs hP).id
  have hnil : (conflicts env ((t.holding before).removeRow q.id) ix (g q).id (g q).cells).run d =
      .ok ([], d) := hrest.conflicts_eq_nil hf (hix ix hixm) (g q) fun x hx hne =>
    hclear x (List.mem_filter.mp hx).1 hne
  rw [hgid] at hnil
  exact hnil

end Update

section Insert

variable {db : Database} {t : Table} {rs : List Request} {env : Env}

/-- A new request, on a database without triggers whose request table holds requests it clashes
with none of: it is written under a fresh id past every stored one, appended to the table, and
becomes the last row id; every table of another name than the request table and the counters
is spared. -/
theorem run_insertRow_request (ht : db.table? "translation_requests" = some t)
    (h : RequestTable t rs) (hq : Quiet "translation_requests" db)
    (hix : ∀ ix ∈ db.indexesOf "translation_requests", RequestIndex ix) (hf : env.frames = [])
    (hin : env.inTrigger = false) {targets : List Nat} {given vals : List Value}
    (hfill : t.columns.toList.zipIdx.mapM (Table.initial targets given (env.scope [])) = .ok vals)
    (hnull : vals.toArray[0]?.getD .null = .null) (mk : Int → Request)
    (hmk : ∀ r, vals.toArray.set! 0 (.int r) = (mk r).cells) (hid : ∀ r, (mk r).id = r)
    (hfree : ∀ r, (∀ x ∈ rs, x.id < r) → ∀ x ∈ rs, (mk r).clashes x = false)
    (res : Resolution) (fuel : Nat) :
    ∃ r d, (∀ x ∈ rs, x.id < r) ∧
      (insertRow (fuel + 2) env res "translation_requests" targets given none).run db = .ok (1, d) ∧
      d.table? "translation_requests" = some (t.holding (rs ++ [mk r])) ∧ d.lastRowid = r ∧
      Quiet "translation_requests" d ∧ d.indexes = db.indexes ∧
      ∀ n, sameName "translation_requests" n = false → sameName "sqlite_sequence" n = false →
        Spares n db d :=
  run_insertRow_stored ht h.holds hq hin (by decide +kernel) hfill hnull mk hmk hid
    (fun r hr ix hixm => by
      have hc : (conflicts env t ix (mk r).id (mk r).cells).run db = .ok ([], db) :=
        h.conflicts_eq_nil hf (hix ix hixm) (mk r) fun x hx _ => hfree r hr x hx
      rw [hid r] at hc
      exact hc)
    res fuel

end Insert

end SubtitleQueue.Store
