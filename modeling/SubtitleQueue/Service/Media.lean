import SubtitleQueue.Digest.Sha256
import SubtitleQueue.Progress.Tracker
import SubtitleQueue.Extraction.Track
import SubtitleQueue.Service.Files
import SubtitleQueue.Service.Reply

/-!
Service answers about media: content hashes, priority, progress and track choice.
-/

namespace SubtitleQueue.Service

/-- The SHA-256 digest of some content. -/
def contentHashReply (j : Json) : Decode Json := do
  let b ← required j "content" bytes?
  pure (valueReply (.str (Digest.sha256Hex b.data)))

/-- Whether requests of a media item jump the queue: only a priority media item's do. -/
def priorityReply (j : Json) : Decode Json := do
  let m := j.field? "media"
  let p ← match m with
    | some mj => flagD mj "priority" false
    | none => pure false
  pure (valueReply (.bool p))

/-- The percentages a tracker reports over a sequence of steps. -/
def trackerReply (j : Json) : Decode Json := do
  let total ← natural j "total"
  let cap ← natural j "cap"
  if cap > 255 then throw "cap out of range"
  let steps ← listD j "steps" Json.nat?
  let (out, _) := steps.foldl (fun (acc : List (Option Nat) × Progress.Tracker) d =>
    let (r, t) := acc.2.advance d
    (acc.1 ++ [r], t)) ([], Progress.Tracker.make total cap)
  pure (.obj [("steps", .list (.opt .nat) out)])

/-- Reads a track. -/
def track? (j : Json) : Option Extraction.Track := do
  pure { index := ← (j.field? "index").bind Json.nat?, codec := ← (j.field? "codec").bind Json.str?,
         language := (j.field? "language").bind Json.str?, title := (j.field? "title").bind Json.str? }

/-- The track chosen for a language, and which tracks are bitmaps. -/
def selectTrackReply (j : Json) : Decode Json := do
  let tracks ← listD j "tracks" track?
  let preferred ← text j "preferred"
  pure (.obj [("index", .opt (fun (t : Extraction.Track) => .nat t.index) (Extraction.select tracks preferred)),
    ("bitmap", .list (fun (t : Extraction.Track) => .bool t.isBitmap) tracks)])

end SubtitleQueue.Service
