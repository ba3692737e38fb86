import Mathlib
import SubtitleQueue.Store.Media
import SubtitleQueue.Proofs.Sql.Layout
import SubtitleQueue.Proofs.Store.Clashes

/-!
Media items as rows of the media table: the cells an item is stored as, the columns they sit
in, and how a condition reads a stored item. An item reads back as itself. The media table has
no unique index, so an update that keeps ids and an insert never meet a broken constraint.
-/

namespace SubtitleQueue.Store

open Sql Exec

/-- The columns of the media table, as the queue's schema declares them. -/
def mediaColumnDefs : Array Column := #[
  { name := "id", type := "INTEGER", affinity := .integer },
  { name := "media_type", type := "TEXT", affinity := .text, notNull := true },
  { name := "title", type := "TEXT", affinity := .text, notNull := true },
  { name := "path", type := "TEXT", affinity := .text, notNull := true },
  { name := "is_priority", type := "INTEGER", affinity := .integer, notNull := true,
    initial := some (.lit (.int 0)) },
  { name := "content_hash", type := "TEXT", affinity := .text },
  { name := "translation_state", type := "TEXT", affinity := .text, notNull := true,
    initial := some (.lit (.text "not_started")) }]

/-- The names of the media table's columns. -/
def mediaColumnNames : Array String := mediaColumnDefs.map (·.name)

/-- The cells of a media item as the media table holds them, in column order. -/
def Media.cells (m : Media) : Array Value :=
  #[.int m.id, .text m.kind.name, .text m.title, .text m.path, flag m.priority,
    textOrNull m.digest, .text m.state.name]

/-- Media items as records of the media table. -/
def mediaLayout : Layout Media := ⟨Media.id, Media.cells⟩

@[simp] theorem mediaLayout_id : mediaLayout.id = Media.id := rfl

@[simp] theorem mediaLayout_cells : mediaLayout.cells = Media.cells := rfl

/-- The row a condition reads when it is evaluated against a stored media item. -/
def Media.frame (m : Media) : Frame :=
  { name := "media", columns := mediaColumnNames,
    affinities := mediaColumnDefs.map (·.affinity), values := m.cells, rowid := some m.id }

/-- The media table holding exactly `ms`, in increasing order of id. -/
structure MediaTable (t : Table) (ms : List Media) : Prop where
  name : t.name = "media"
  columns : t.columns = mediaColumnDefs
  holds : mediaLayout.Holds t ms

/-- A stored media item fills every column that may not be null. -/
theorem Media.cells_notNull (m : Media) :
    ∀ x ∈ mediaColumnDefs.toList.zipIdx, (x.1.notNull && m.cells[x.2]?.getD .null == .null) = false := by
  intro x hx
  simp only [mediaColumnDefs, List.zipIdx] at hx
  simp only [List.mem_cons, List.not_mem_nil, or_false] at hx
  rcases hx with rfl | rfl | rfl | rfl | rfl | rfl | rfl <;> simp [Media.cells, flag]

namespace MediaTable

variable {t : Table} {ms : List Media}

theorem frame (h : MediaTable t ms) (m : Media) : t.frame t.name m.id m.cells = m.frame := by
  simp [Table.frame, Media.frame, Table.columnNames, mediaColumnNames, h.name, h.columns]

/-- The table holds any list of media items in increasing order of id. -/
theorem store (h : MediaTable t ms) {ms' : List Media} (hs : (ms'.map Media.id).Pairwise (· < ·)) :
    MediaTable (mediaLayout.store t ms') ms' :=
  ⟨h.name, h.columns, h.holds.store hs⟩

end MediaTable

/-- Media items of a list in increasing order of id are told apart by their ids. -/
theorem Media.eq_of_id {ms : List Media} (hs : (ms.map Media.id).Pairwise (· < ·)) {x y : Media}
    (hx : x ∈ ms) (hy : y ∈ ms) (hid : x.id = y.id) : x = y :=
  @Layout.eq_of_id Media mediaLayout ms hs x y hx hy hid

section Lookup

variable (m : Media)

/-- Every column of the media table is found by its name at its own position. -/
theorem mediaColumnNames_findIdx? :
    ∀ p ∈ mediaColumnNames.toList.zipIdx, mediaColumnNames.findIdx? (sameName · p.1) = some p.2 := by
  decide +kernel

theorem Media.lookup_of_index (n : String) (i : Nat) (h : (n, i) ∈ mediaColumnNames.toList.zipIdx) :
    m.frame.lookup? n = some (m.cells[i]?.getD .null, (mediaColumnDefs.map (·.affinity))[i]?) := by
  simp only [Frame.lookup?, Media.frame, mediaColumnNames_findIdx? (n, i) h]

@[simp] theorem Media.lookup_id : m.frame.lookup? "id" = some (.int m.id, some .integer) := by
  rw [Media.lookup_of_index m "id" 0 (by simp [mediaColumnNames, mediaColumnDefs])]
  simp [Media.cells, mediaColumnDefs]

@[simp] theorem Media.lookup_mediaType :
    m.frame.lookup? "media_type" = some (.text m.kind.name, some .text) := by
  rw [Media.lookup_of_index m "media_type" 1 (by simp [mediaColumnNames, mediaColumnDefs])]
  simp [Media.cells, mediaColumnDefs]

@[simp] theorem Media.lookup_title : m.frame.lookup? "title" = some (.text m.title, some .text) := by
  rw [Media.lookup_of_index m "title" 2 (by simp [mediaColumnNames, mediaColumnDefs])]
  simp [Media.cells, mediaColumnDefs]

@[simp] theorem Media.lookup_path : m.frame.lookup? "path" = some (.text m.path, some .text) := by
  rw [Media.lookup_of_index m "path" 3 (by simp [mediaColumnNames, mediaColumnDefs])]
  simp [Media.cells, mediaColumnDefs]

@[simp] theorem Media.lookup_isPriority :
    m.frame.lookup? "is_priority" = some (flag m.priority, some .integer) := by
  rw [Media.lookup_of_index m "is_priority" 4 (by simp [mediaColumnNames, mediaColumnDefs])]
  simp [Media.cells, mediaColumnDefs]

@[simp] theorem Media.lookup_contentHash :
    m.frame.lookup? "content_hash" = some (textOrNull m.digest, some .text) := by
  rw [Media.lookup_of_index m "content_hash" 5 (by simp [mediaColumnNames, mediaColumnDefs])]
  simp [Media.cells, mediaColumnDefs]

@[simp] theorem Media.lookup_translationState :
    m.frame.lookup? "translation_state" = some (.text m.state.name, some .text) := by
  rw [Media.lookup_of_index m "translation_state" 6 (by simp [mediaColumnNames, mediaColumnDefs])]
  simp [Media.cells, mediaColumnDefs]

end Lookup

/-- A plain index never clashes. -/
theorem conflicts_of_plain {env : Env} {t : Table} {ix : Index} (hix : ix.unique = false) (r : Int)
    (vals : Array Value) (db : Database) : (conflicts env t ix r vals).run db = .ok ([], db) := by
  unfold conflicts
  simp [hix]
  rfl

section Changes

variable {db : Database} {t : Table} {ms : List Media} {env : Env}

/-- An update of the media table that keeps every item's id changes, one after another in the
table's order, every item its condition holds for, and counts them. -/
theorem run_update_media (ht : db.table? "media" = some t) (h : MediaTable t ms)
    (hq : Quiet "media" db) (hix : ∀ ix ∈ db.indexesOf "media", ix.unique = false)
    {P : Media → Bool} {g : Media → Media} (hg : ∀ m ∈ ms, P m = true → (g m).id = m.id)
    (filter : Option Expr) (hp : ∀ m ∈ ms, holds (env.scope [m.frame]) filter = .ok (P m))
    (sets : List (String × Expr))
    (hset : ∀ m ∈ ms, P m = true → t.assign (env.scope [m.frame]) m.cells sets = .ok (g m).cells)
    (res : Resolution) (fuel : Nat) :
    (update (fuel + 3) env res "media" sets filter).run db =
      .ok ((ms.filter P).length, db.setTable (mediaLayout.store t (ms.map fun m => if P m then g m else m))) :=
  run_update_stored ht h.holds hq hg filter
    (fun m hm => by simp only [mediaLayout_id, mediaLayout_cells, h.frame]; exact hp m hm) sets
    (fun m hm hP => by simp only [mediaLayout_id, mediaLayout_cells, h.frame]; exact hset m hm hP)
    (fun _ _ _ _ _ ix hixm d => conflicts_of_plain (hix ix hixm) _ _ d) res fuel

/-- A new media item is written under a fresh id past every stored one and appended to the
table, and becomes the last row id; every table of another name than the media table and the
counters is spared. -/
theorem run_insertRow_media (ht : db.table? "media" = some t) (h : MediaTable t ms)
    (hq : Quiet "media" db) (hix : ∀ ix ∈ db.indexesOf "media", ix.unique = false)
    (hin : env.inTrigger = false) {targets : List Nat} {given vals : List Value}
    (hfill : t.columns.toList.zipIdx.mapM (Table.initial targets given (env.scope [])) = .ok vals)
    (hnull : vals.toArray[0]?.getD .null = .null) (mk : Int → Media)
    (hmk : ∀ r, vals.toArray.set! 0 (.int r) = (mk r).cells) (hid : ∀ r, (mk r).id = r)
    (res : Resolution) (fuel : Nat) :
    ∃ r d, (∀ m ∈ ms, m.id < r) ∧
      (insertRow (fuel + 2) env res "media" targets given none).run db = .ok (1, d) ∧
      d.table? "media" = some (mediaLayout.store t (ms ++ [mk r])) ∧ d.lastRowid = r ∧
      Quiet "media" d ∧ d.indexes = db.indexes ∧
      ∀ n, sameName "media" n = false → sameName "sqlite_sequence" n = false → Spares n db d :=
  run_insertRow_stored ht h.holds hq hin (by decide +kernel) hfill hnull mk hmk hid
    (fun r _ ix hixm => conflicts_of_plain (hix ix hixm) r _ db) res fuel

end Changes

end SubtitleQueue.Store
