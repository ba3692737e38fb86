import SubtitleQueue.Store.Media
import SubtitleQueue.Store.Journal
import SubtitleQueue.Store.Statistics
import SubtitleQueue.Json.Value

/-!
Stored records as service answers print them. Time stamps are left out; a request says only
whether it has been completed.
-/

namespace SubtitleQueue.Service

open Store

/-- A request. -/
def requestJson (r : Request) : Json :=
  .obj [("id", .int r.id), ("media_id", .opt .int r.mediaId),
    ("media_type", .opt (fun k => .str k.name) r.mediaKind), ("title", .str r.title),
    ("source", .str r.source), ("target", .str r.target), ("subtitle", .opt .str r.subtitle),
    ("status", .str r.status.name), ("priority", .bool r.priority), ("active", .opt .bool r.active),
    ("progress", .int r.progress), ("job_id", .opt .str r.job),
    ("completed", .bool r.completedAt.isSome)]

/-- A media item. -/
def mediaJson (m : Media) : Json :=
  .obj [("id", .int m.id), ("type", .str m.kind.name), ("title", .str m.title), ("path", .str m.path),
    ("priority", .bool m.priority), ("hash", .opt .str m.digest), ("state", .str m.state.name)]

/-- The outcome of an insert. -/
def insertedJson : Inserted → Json
  | .created id => .obj [("created", .bool true), ("id", .int id)]
  | .existing id => .obj [("created", .bool false), ("id", .int id)]

/-- A line of a request's log, with its details. -/
def entryJson (e : StoredEntry) : Json := .arr [.str e.level, .str e.message, .opt .str e.details]

/-- The totals of translated work, with lines per language sorted by language. -/
def totalsJson (t : Totals) (languages : List (String × Int)) : Json :=
  .obj [("files", .int t.files), ("lines", .int t.lines), ("characters", .int t.characters),
    ("languages", .list (fun (l, n) => .arr [.str l, .int n])
      (languages.mergeSort fun a b => decide (a.1 ≤ b.1)))]

end SubtitleQueue.Service
