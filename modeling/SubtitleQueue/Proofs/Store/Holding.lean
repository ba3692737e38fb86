import Mathlib
import SubtitleQueue.Proofs.Store.Changes
import SubtitleQueue.Proofs.Store.MediaRows
import SubtitleQueue.Proofs.Sql.Deletes

/-!
A database seen as the requests and the media items it holds. `Holding db rs ms` says that the
request table holds `rs` and the media table `ms`, in increasing order of id, with the indexes
of the queue's schema, and that no change runs a trigger or cascades into either table.

Every kind of change a store operation makes keeps such a view, with the lists it changes to:
a change that spares both tables keeps both lists, a table put back with other rows holds
those, and deleting rows of the request table keeps a sublist of its requests.
-/

namespace SubtitleQueue.Sql

namespace Layout

variable {α : Type} {L : Layout α} {t : Table} {xs : List α}

/-- A record of a list in increasing order of id is the one found under its id. -/
theorem find?_id (hs : (xs.map L.id).Pairwise (· < ·)) {x : α} (hx : x ∈ xs) :
    xs.find? (fun y => L.id y == L.id x) = some x := by
  cases hf : xs.find? (fun y => L.id y == L.id x) with
  | none =>
    have := List.find?_eq_none.mp hf x hx
    simp at this
  | some y =>
    have hy := List.mem_of_find?_eq_some hf
    have hid : L.id y = L.id x := by simpa using List.find?_some hf
    rw [eq_of_id hs hy hx hid]

/-- A query over a table that holds records, with plain columns, no grouping, distinct rows,
order or offset: the values of its columns for each record its condition holds for, in the
table's order, up to its limit. -/
theorem run_query (h : L.Holds t xs) {db : Database} {env : Env} {q : Select} {n : String} {a : Nat}
    (cs : List (Expr × String))
    (hcols : q.columns = cs.map fun c => ResultColumn.expr c.1 c.2)
    (hs : q.source = some (n, a))
    (hn : (sameName n "sqlite_master" || sameName n "sqlite_schema") = false)
    (ht : db.table? n = some t)
    (hagg : (cs.map (·.1)).any Expr.hasAggregate = false)
    (hd : q.distinct = false) (ho : q.orderBy = []) (hoff : q.offset = none)
    (P : α → Bool)
    (hp : ∀ x ∈ xs, holds (env.scope [t.frame n (L.id x) (L.cells x)]) q.filter = .ok (P x))
    (g : α → List Value)
    (hg : ∀ x ∈ xs, P x = true →
      evalList (env.scope [t.frame n (L.id x) (L.cells x)]) (cs.map (·.1)) = .ok (g x))
    (lim : Int) (hlim : match q.limit with
      | none => lim = -1
      | some e => eval (env.scope []) e = .ok (.int lim)) (fuel : Nat) :
    (Exec.query (fuel + 1) env q).run db =
      .ok ((cs.map (·.2), let rows := (xs.filter P).map fun x => (g x).toArray
        if lim < 0 then rows else rows.take lim.toNat), db) := by
  -- a row of the table is read through the record stored under its id
  let pick : Int × Array Value → Option α := fun e => xs.find? fun y => L.id y == e.1
  have hpick : ∀ x ∈ xs, pick (L.entry x) = some x := fun x hx => find?_id h.sorted hx
  have hrows := h.rows_toList
  rw [Exec.run_query_table cs hcols hs hn ht hagg hd ho hoff (fun e => (pick e).any P)
    (fun e he => by
      rw [hrows] at he
      obtain ⟨x, hx, rfl⟩ := List.mem_map.mp he
      rw [hpick x hx]
      exact hp x hx)
    (fun e => ((pick e).map g).getD [])
    (fun e he hP => by
      rw [hrows] at he
      obtain ⟨x, hx, rfl⟩ := List.mem_map.mp he
      rw [hpick x hx] at hP ⊢
      exact hg x hx hP)
    lim hlim]
  have hsel : ((t.rows.toList.filter fun e => (pick e).any P).map
      fun e => (((pick e).map g).getD []).toArray) = (xs.filter P).map fun x => (g x).toArray := by
    rw [hrows, List.filter_map, List.map_map]
    have hf : (xs.filter ((fun e => (pick e).any P) ∘ L.entry)) = xs.filter P :=
      List.filter_congr fun x hx => by simp [hpick x hx]
    rw [hf]
    exact List.map_congr_left fun x hx => by
      simp [hpick x (List.mem_filter.mp hx).1]
  rw [hsel]

end Layout

end SubtitleQueue.Sql

namespace SubtitleQueue.Store

open Sql Exec

/-- The request table and the media table are told apart by name. -/
theorem sameName_requests_media : sameName "translation_requests" "media" = false := by
  decide +kernel

theorem sameName_media_requests : sameName "media" "translation_requests" = false := by
  rw [sameName_comm]
  exact sameName_requests_media

/-- A database whose request table holds `rs` and whose media table holds `ms`. -/
structure Holding (db : Database) (rs : List Request) (ms : List Media) : Prop where
  requests : ∃ t, db.table? "translation_requests" = some t ∧ RequestTable t rs
  media : ∃ u, db.table? "media" = some u ∧ MediaTable u ms
  quietRequests : Quiet "translation_requests" db
  quietMedia : Quiet "media" db
  requestIndexes : ∀ ix ∈ db.indexesOf "translation_requests", RequestIndex ix
  mediaIndexes : ∀ ix ∈ db.indexesOf "media", ix.unique = false

namespace Holding

variable {db d : Database} {rs rs' : List Request} {ms ms' : List Media}

theorem indexesOf_eq (hi : d.indexes = db.indexes) (n : String) : d.indexesOf n = db.indexesOf n := by
  simp [Database.indexesOf, hi]

/-- A change that spares both tables keeps what they hold. -/
theorem spares (h : Holding db rs ms) (hr : Spares "translation_requests" db d)
    (hm : Spares "media" db d) : Holding d rs ms := by
  obtain ⟨hqr, htr, hir⟩ := hr h.quietRequests
  obtain ⟨hqm, htm, -⟩ := hm h.quietMedia
  refine ⟨?_, ?_, hqr, hqm, ?_, ?_⟩
  · rw [htr]; exact h.requests
  · rw [htm]; exact h.media
  · rw [indexesOf_eq hir]; exact h.requestIndexes
  · rw [indexesOf_eq hir]; exact h.mediaIndexes

/-- Putting back the request table with other requests in increasing order of id. -/
theorem setRequests (h : Holding db rs ms) {t : Table}
    (ht : db.table? "translation_requests" = some t) (hs : (rs'.map (·.id)).Pairwise (· < ·)) :
    Holding (db.setTable (t.holding rs')) rs' ms := by
  obtain ⟨t', ht', hrt⟩ := h.requests
  rw [ht] at ht'
  cases ht'
  have hname : sameName (t.holding rs').name "translation_requests" = true := by
    rw [Table.holding_name, hrt.name]; exact sameName_self _
  have hm : sameName (t.holding rs').name "media" = false := by
    rw [Table.holding_name, hrt.name]; exact sameName_requests_media
  refine ⟨⟨_, Database.table?_setTable_self ht hname, hrt.holding hs⟩, ?_,
    h.quietRequests.setTable_named hname (by simp [Table.holding, hrt.keys]), ?_,
    h.requestIndexes, h.mediaIndexes⟩
  · rw [Database.table?_setTable_other hm]; exact h.media
  · exact ((spares_setTable hm) h.quietMedia).1

/-- Putting back the media table with other media items in increasing order of id. -/
theorem setMedia (h : Holding db rs ms) {u : Table} (hu : db.table? "media" = some u)
    (hs : (ms'.map (·.id)).Pairwise (· < ·)) :
    Holding (db.setTable (mediaLayout.store u ms')) rs ms' := by
  obtain ⟨u', hu', hmt⟩ := h.media
  rw [hu] at hu'
  cases hu'
  have hname : sameName (mediaLayout.store u ms').name "media" = true := by
    rw [Layout.store_name, hmt.name]; exact sameName_self _
  have hr : sameName (mediaLayout.store u ms').name "translation_requests" = false := by
    rw [Layout.store_name, hmt.name]; exact sameName_media_requests
  refine ⟨?_, ⟨_, Database.table?_setTable_self hu hname, hmt.store hs⟩,
    ((spares_setTable hr) h.quietRequests).1,
    h.quietMedia.setTable_named hname (by rw [Layout.store_foreignKeys]; exact hmt.holds.keys),
    h.requestIndexes, h.mediaIndexes⟩
  rw [Database.table?_setTable_other hr]; exact h.requests

/-- A change that puts in the request table holding other requests, keeps it quiet and the
indexes as they were, and spares the media table. -/
theorem of_requests (h : Holding db rs ms) {t : Table}
    (ht : d.table? "translation_requests" = some t) (hrt : RequestTable t rs')
    (hq : Quiet "translation_requests" d) (hi : d.indexes = db.indexes)
    (hm : Spares "media" db d) : Holding d rs' ms := by
  obtain ⟨hqm, htm, -⟩ := hm h.quietMedia
  refine ⟨⟨t, ht, hrt⟩, ?_, hq, hqm, ?_, ?_⟩
  · rw [htm]; exact h.media
  · rw [indexesOf_eq hi]; exact h.requestIndexes
  · rw [indexesOf_eq hi]; exact h.mediaIndexes

/-- A change that puts in the media table holding other media items, keeps it quiet and the
indexes as they were, and spares the request table. -/
theorem of_media (h : Holding db rs ms) {u : Table} (hu : d.table? "media" = some u)
    (hmt : MediaTable u ms') (hq : Quiet "media" d) (hi : d.indexes = db.indexes)
    (hr : Spares "translation_requests" db d) : Holding d rs ms' := by
  obtain ⟨hqr, htr, -⟩ := hr h.quietRequests
  refine ⟨?_, ⟨u, hu, hmt⟩, hqr, hq, ?_, ?_⟩
  · rw [htr]; exact h.requests
  · rw [indexesOf_eq hi]; exact h.requestIndexes
  · rw [indexesOf_eq hi]; exact h.mediaIndexes

/-- Deleting rows of the request table keeps the other requests. -/
theorem deletes (h : Holding db rs ms) (hr : Deletes "translation_requests" db d)
    (hm : Spares "media" db d) : ∃ ids : List Int, Holding d (rs.filter fun q => !ids.contains q.id) ms := by
  obtain ⟨hqr, hir, ids, htr⟩ := hr h.quietRequests
  obtain ⟨t, ht, hrt⟩ := h.requests
  rw [ht, Option.map_some] at htr
  exact ⟨ids, h.of_requests htr (hrt.without ids) hqr hir hm⟩

end Holding

end SubtitleQueue.Store
