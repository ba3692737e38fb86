import SubtitleQueue.Store.Schema
import SubtitleQueue.Store.Status

/-!
Translation requests in the store, and the rules by which workers take them.

Only one live request may cover a piece of work: a media item's subtitle in one pair of
languages, or for a file without media, that file in one pair of languages. Inserting work
that a live request already covers gives that request instead of a new one.

A worker owns a request only once its conditional update from `pending` to `in_progress`
changed the row. Claiming takes the pending request with priority first, oldest first, and
selects again when another worker took it in between. A request that has reached a final
status stays there: finishing it again changes nothing, and a job that comes back to it is
refused as stale.
-/

namespace SubtitleQueue.Store

open Sql StoreOp

/-- A request as stored. -/
structure Request where
  id : Int
  mediaId : Option Int
  mediaKind : Option MediaKind
  title : String
  source : String
  target : String
  subtitle : Option String
  status : RequestStatus
  priority : Bool
  active : Option Bool
  createdAt : String
  completedAt : Option String
  progress : Int
  job : Option String
  deriving Repr, Inhabited

/-- The media item a request belongs to, when it has both parts. -/
def Request.media? (r : Request) : Option (Int × MediaKind) :=
  match r.mediaId, r.mediaKind with
  | some i, some k => some (i, k)
  | _, _ => none

/-- What a new request is made of. -/
structure NewRequest where
  mediaId : Option Int := none
  mediaKind : Option MediaKind := none
  title : String
  source : String
  target : String
  subtitle : Option String := none
  priority : Bool := false
  deriving Repr, Inhabited

/-- Whether an insert made a new request or found a live one covering the same work. -/
inductive Inserted where
  | created (id : Int)
  | existing (id : Int)
  deriving Repr, DecidableEq, Inhabited

/-- The id of the request that stands for the work. -/
def Inserted.id : Inserted → Int
  | .created i | .existing i => i

/-- The columns of a request, in the order they are read. -/
def requestColumns : String :=
  "id, media_id, media_type, title, source_language, target_language, subtitle_path, status, is_priority, is_active, created_at, completed_at, progress, job_id"

/-- A request from a row of its columns. A media kind that is not known reads as none, a
status that is not known as failed. -/
def Request.ofRow (r : Row) : Except Fault Request := do
  let kind ← r.text? 2
  let status ← r.text 7
  return {
    id := ← r.int 0
    mediaId := ← r.int? 1
    mediaKind := kind.bind MediaKind.ofName?
    title := ← r.text 3
    source := ← r.text 4
    target := ← r.text 5
    subtitle := ← r.text? 6
    status := (RequestStatus.ofName? status).getD .failed
    priority := ← r.bool 8
    active := ← r.bool? 9
    createdAt := ← r.text 10
    completedAt := ← r.text? 11
    progress := ← r.int 12
    job := ← r.text? 13 }

/-- A text or null. -/
def textOrNull : Option String → Value
  | some s => .text s
  | none => .null

/-- A flag as stored. -/
def flag (b : Bool) : Value := .int (if b then 1 else 0)

/-- The live request for a media item's subtitle in a pair of languages. -/
def activeForMediaSql : String :=
  "\n                    SELECT id FROM translation_requests\n                    WHERE media_id = ?1 AND media_type = ?2\n                      AND source_language = ?3 AND target_language = ?4\n                      AND is_active = 1\n                    LIMIT 1\n                    "

/-- The live request for a file without media in a pair of languages. -/
def activeForFileSql : String :=
  "\n                    SELECT id FROM translation_requests\n                    WHERE media_id IS NULL AND subtitle_path IS ?1\n                      AND source_language = ?2 AND target_language = ?3\n                      AND is_active = 1\n                    LIMIT 1\n                    "

/-- The new pending request. -/
def insertRequestSql : String :=
  "\n                    INSERT INTO translation_requests (\n                        media_id, media_type, title, source_language, target_language,\n                        subtitle_path, status, is_priority, is_active, created_at, progress\n                    ) VALUES (?1, ?2, ?3, ?4, ?5, ?6, 'pending', ?7, 1, ?8, 0)\n                    "

/-- The live request covering the same work as a new one. -/
def findActive (req : NewRequest) : StoreOp (Option Int) :=
  match req.mediaId, req.mediaKind with
  | some mid, some kind =>
    firstRow? activeForMediaSql [.int mid, .text kind.name, .text req.source, .text req.target]
      fun r => r.int 0
  | _, _ =>
    firstRow? activeForFileSql [textOrNull req.subtitle, .text req.source, .text req.target]
      fun r => r.int 0

/-- Inserts a request unless a live one covers the same work, in one transaction. When the
unique index refuses the row after all, the live request that won is given. -/
def insertRequest (req : NewRequest) : StoreOp Inserted := transaction do
  if let some existing ← findActive req then return .existing existing
  let now ← stamp
  let inserted ← tryCatch (do
      let _ ← execute insertRequestSql
        [(req.mediaId.map Value.int).getD .null, textOrNull (req.mediaKind.map MediaKind.name),
         .text req.title, .text req.source, .text req.target, textOrNull req.subtitle,
         flag req.priority, .text now]
      pure (Except.ok ()))
    (fun f => pure (Except.error f))
  match inserted with
  | .ok () =>
    let s ← get
    return .created s.conn.db.lastRowid
  | .error f =>
    if isConstraintFault f then
      log .warn "Uniqueness constraint hit while creating request; reusing winner"
      match ← findActive req with
      | some id => return .existing id
      | none => throw (Fault.msg "Constraint violation without active row")
    else throw f

/-- Reads a request by id. -/
def getRequestSql : String := "SELECT " ++ requestColumns ++ " FROM translation_requests WHERE id = ?1"

/-- The request with an id. -/
def getRequest (id : Int) : StoreOp (Option Request) :=
  firstRow? getRequestSql [.int id] Request.ofRow

/-- Requests, newest first, of one status or all. -/
def listRequests (status : Option RequestStatus) : StoreOp (List Request) := do
  let rs ← match status with
    | some s => rows ("SELECT " ++ requestColumns ++
        " FROM translation_requests WHERE status = ?1 ORDER BY created_at DESC, id DESC") [.text s.name]
    | none => rows ("SELECT " ++ requestColumns ++
        " FROM translation_requests ORDER BY created_at DESC, id DESC") []
  lift (rs.mapM Request.ofRow)

/-- The requests of a media item, oldest first. -/
def requestsForMedia (mid : Int) (kind : MediaKind) : StoreOp (List Request) := do
  let rs ← rows ("SELECT " ++ requestColumns ++
    " FROM translation_requests WHERE media_id = ?1 AND media_type = ?2 ORDER BY created_at, id")
    [.int mid, .text kind.name]
  lift (rs.mapM Request.ofRow)

/-- How many requests are queued or running. -/
def activeCount : StoreOp Int :=
  firstRow "SELECT COUNT(*) FROM translation_requests WHERE is_active = 1" [] fun r => r.int 0

/-- The pending request to claim next: priority first, then oldest. -/
def nextPendingSql : String :=
  "\n                            SELECT id FROM translation_requests\n                            WHERE status = 'pending'\n                            ORDER BY is_priority DESC, created_at ASC, id ASC\n                            LIMIT 1\n                            "

/-- Takes a request for a job if it is still pending. -/
def claimSql : String :=
  "\n                        UPDATE translation_requests\n                        SET status = 'in_progress', job_id = ?1, is_active = 1\n                        WHERE id = ?2 AND status = 'pending'\n                        "

/-- The id of the pending request to claim next, if any is pending. -/
def nextPending : StoreOp (Option Int) :=
  firstRow? nextPendingSql [] fun r => r.int 0

/-- Takes a request for a job if it is still pending; whether this update took it. -/
def takePending (job : String) (id : Int) : StoreOp Bool := do
  return (← execute claimSql [.text job, .int id]) == 1

/-- Claims with at most `n` selections: a candidate taken by another worker in between is
passed over, and selection runs again. -/
def claimWithin (job : String) : Nat → StoreOp (Option Request)
  | 0 => return none
  | n + 1 => do
    let some id ← nextPending | return none
    if ← takePending job id then getRequest id else claimWithin job n

/-- Claims the next pending request for a job: priority first, then oldest. A candidate taken
by another worker in between is passed over, and selection runs again, at most `attempts`
times (at least once). -/
def claimNext (job : String) (attempts : Nat) : StoreOp (Option Request) :=
  claimWithin job (max attempts 1)

/-- Puts every request in progress back to pending. -/
def resetAllSql : String :=
  "\n                    UPDATE translation_requests\n                    SET status = 'pending', job_id = NULL, progress = 0, is_active = 1\n                    WHERE status = 'in_progress'\n                    "

/-- Puts one request in progress back to pending. -/
def resetOneSql : String :=
  "\n                    UPDATE translation_requests\n                    SET status = 'pending', job_id = NULL, progress = 0, is_active = 1\n                    WHERE id = ?1 AND status = 'in_progress'\n                    "

/-- Puts every request left in progress back to pending; how many there were. -/
def resetInProgress : StoreOp Nat := do
  let n ← execute resetAllSql []
  if n > 0 then log .info ("Reset " ++ toString n ++ " in-progress request(s) to pending")
  return n

/-- Hands one abandoned request back to the queue; whether it was in progress. -/
def resetToPending (id : Int) : StoreOp Bool := do
  let n ← execute resetOneSql [.int id]
  return n == 1

/-- Moves a live request to in progress under a job. -/
def beginSql : String :=
  "\n                    UPDATE translation_requests\n                    SET status = 'in_progress', job_id = ?1, is_active = 1\n                    WHERE id = ?2 AND status IN ('pending', 'in_progress')\n                    "

/-- Confirms that a job may run a request, moving it to in progress under that job. A
request already final is refused as stale; a request that is gone is not found. -/
def beginExecution (id : Int) (job : String) : StoreOp Request := do
  let changed ← execute beginSql [.text job, .int id]
  let some record ← getRequest id | throw (QueueError.notFound id : Fault)
  if changed == 0 then throw (QueueError.staleExecution id record.status.name job : Fault)
  return record

/-- Moves a live request to a final status. -/
def finishSql : String :=
  "\n                    UPDATE translation_requests\n                    SET status = ?1, is_active = NULL, completed_at = ?2,\n                        progress = CASE WHEN ?1 = 'completed' THEN 100 ELSE progress END\n                    WHERE id = ?3 AND status IN ('pending', 'in_progress')\n                    "

/-- Moves a live request to a final status; false if it had already finished. A status that
is not final is refused, and a request that is gone is not found. -/
def finishRequest (id : Int) (status : RequestStatus) : StoreOp Bool := do
  if !status.isTerminal then throw (QueueError.invalidTransition id "active" status.name : Fault)
  let now ← stamp
  let changed ← execute finishSql [.text status.name, .text now, .int id]
  if changed == 0 then
    if (← getRequest id).isNone then throw (QueueError.notFound id : Fault)
  return changed == 1

/-- Raises a request's progress. -/
def progressSql : String := "UPDATE translation_requests SET progress = MAX(progress, ?1) WHERE id = ?2"

/-- Records progress, never lowering what is stored. -/
def updateProgress (id : Int) (percent : Nat) : StoreOp Unit := do
  let _ ← execute progressSql [.int (min percent 100), .int id]

/-- Sets the priority flag of a media item's live requests. -/
def prioritySql : String :=
  "\n                    UPDATE translation_requests SET is_priority = ?1\n                    WHERE media_id = ?2 AND media_type = ?3 AND is_active = 1\n                    "

/-- Sets the priority flag of a media item's live requests; how many there were. -/
def updateRequestPriority (mid : Int) (kind : MediaKind) (priority : Bool) : StoreOp Nat :=
  execute prioritySql [flag priority, .int mid, .text kind.name]

/-- Deletes a request. -/
def deleteSql : String := "DELETE FROM translation_requests WHERE id = ?1"

/-- Deletes a request and its log; whether it existed. -/
def deleteRequest (id : Int) : StoreOp Bool := do
  let n ← execute deleteSql [.int id]
  return n == 1

end SubtitleQueue.Store
