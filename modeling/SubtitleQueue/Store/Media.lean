import SubtitleQueue.Store.Request

/-!
Media items in the store: movies and episodes with a file, a priority flag, the digest of the
subtitle last translated, and how far their translations are.
-/

namespace SubtitleQueue.Store

open Sql StoreOp

/-- A media item as stored. -/
structure Media where
  id : Int
  kind : MediaKind
  title : String
  path : String
  priority : Bool
  digest : Option String
  state : MediaState
  deriving Repr, Inhabited

/-- The columns of a media item, in the order they are read. -/
def mediaColumns : String := "id, media_type, title, path, is_priority, content_hash, translation_state"

/-- A media item from a row of its columns. A kind that is not known reads as a movie, a
state that is not known as not started. -/
def Media.ofRow (r : Row) : Except Fault Media := do
  let kind ← r.text 1
  let title ← r.text 2
  let path ← r.text 3
  let priority ← r.bool 4
  let digest ← r.text? 5
  let state ← r.text 6
  return { id := ← r.int 0, kind := (MediaKind.ofName? kind).getD .movie, title, path, priority,
           digest, state := (MediaState.ofName? state).getD .notStarted }

/-- Whether requests for a media item jump the queue: only a priority item's do, and work
without a media item never does. -/
def effectivePriority (m : Option Media) : Bool := m.any (·.priority)

/-- Registers a media item; its id. -/
def insertMedia (kind : MediaKind) (title path : String) (priority : Bool) : StoreOp Int := do
  let _ ← execute "\n                    INSERT INTO media (media_type, title, path, is_priority, translation_state)\n                    VALUES (?1, ?2, ?3, ?4, 'not_started')\n                    "
    [.text kind.name, .text title, .text path, flag priority]
  return (← get).conn.db.lastRowid

/-- The media item with an id and kind. -/
def getMedia (id : Int) (kind : MediaKind) : StoreOp (Option Media) :=
  firstRow? ("SELECT " ++ mediaColumns ++ " FROM media WHERE id = ?1 AND media_type = ?2")
    [.int id, .text kind.name] Media.ofRow

/-- Every media item, by id. -/
def listMedia : StoreOp (List Media) := do
  let rs ← rows ("SELECT " ++ mediaColumns ++ " FROM media ORDER BY id") []
  lift (rs.mapM Media.ofRow)

/-- Sets a media item's priority flag; whether the item exists. -/
def setMediaPriority (id : Int) (kind : MediaKind) (priority : Bool) : StoreOp Bool := do
  let n ← execute "UPDATE media SET is_priority = ?1 WHERE id = ?2 AND media_type = ?3"
    [flag priority, .int id, .text kind.name]
  return n == 1

/-- Stores or clears the digest of the subtitle last translated for a media item. -/
def setDigest (id : Int) (kind : MediaKind) (digest : Option String) : StoreOp Unit := do
  let _ ← execute "UPDATE media SET content_hash = ?1 WHERE id = ?2 AND media_type = ?3"
    [textOrNull digest, .int id, .text kind.name]

/-- Stores how far a media item's translations are. -/
def setMediaState (id : Int) (kind : MediaKind) (state : MediaState) : StoreOp Unit := do
  let _ ← execute "UPDATE media SET translation_state = ?1 WHERE id = ?2 AND media_type = ?3"
    [.text state.name, .int id, .text kind.name]

end SubtitleQueue.Store
