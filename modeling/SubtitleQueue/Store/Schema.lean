import SubtitleQueue.Store.Access

/-!
The tables of the queue and how a database gets them.

A database records the version of its tables in `schema_version`. A database without that
table (or without a readable version in it) gets every table, made only where missing, and
version 1. A database at version 1 or later is used as it is. A database at any other version
is refused: there is no way to bring it up to date.

A live request has `is_active = 1` and a finished one has it `NULL`, so the unique index
over the active tuple covers live requests only.
-/

namespace SubtitleQueue.Store

open Sql StoreOp

/-- The version of the tables this queue makes. -/
def schemaVersion : Int := 1

/-- The version table. -/
def versionTable : String :=
  "\n        CREATE TABLE IF NOT EXISTS schema_version (\n            id INTEGER PRIMARY KEY CHECK (id = 1),\n            version INTEGER NOT NULL,\n            updated_at TEXT NOT NULL\n        );\n        "

/-- The media table. -/
def mediaTable : String :=
  "\n        CREATE TABLE IF NOT EXISTS media (\n            id INTEGER PRIMARY KEY AUTOINCREMENT,\n            media_type TEXT NOT NULL,\n            title TEXT NOT NULL,\n            path TEXT NOT NULL,\n            is_priority INTEGER NOT NULL DEFAULT 0,\n            content_hash TEXT,\n            translation_state TEXT NOT NULL DEFAULT 'not_started'\n        );\n\n        CREATE INDEX IF NOT EXISTS idx_media_type ON media(media_type);\n        "

/-- The request table and its indexes. -/
def requestTable : String :=
  "\n        CREATE TABLE IF NOT EXISTS translation_requests (\n            id INTEGER PRIMARY KEY AUTOINCREMENT,\n            media_id INTEGER,\n            media_type TEXT,\n            title TEXT NOT NULL,\n            source_language TEXT NOT NULL,\n            target_language TEXT NOT NULL,\n            subtitle_path TEXT,\n            status TEXT NOT NULL DEFAULT 'pending',\n            is_priority INTEGER NOT NULL DEFAULT 0,\n            is_active INTEGER,\n            created_at TEXT NOT NULL,\n            completed_at TEXT,\n            progress INTEGER NOT NULL DEFAULT 0,\n            job_id TEXT\n        );\n\n        CREATE INDEX IF NOT EXISTS idx_requests_status ON translation_requests(status);\n        CREATE INDEX IF NOT EXISTS idx_requests_claim\n            ON translation_requests(status, is_priority DESC, created_at);\n        CREATE INDEX IF NOT EXISTS idx_requests_media ON translation_requests(media_id, media_type);\n        CREATE UNIQUE INDEX IF NOT EXISTS idx_requests_active_tuple\n            ON translation_requests(media_id, media_type, source_language, target_language)\n            WHERE is_active = 1;\n        "

/-- The table of request log lines. -/
def logTable : String :=
  "\n        CREATE TABLE IF NOT EXISTS translation_request_logs (\n            id INTEGER PRIMARY KEY AUTOINCREMENT,\n            request_id INTEGER NOT NULL REFERENCES translation_requests(id) ON DELETE CASCADE,\n            level TEXT NOT NULL,\n            message TEXT NOT NULL,\n            details TEXT,\n            created_at TEXT NOT NULL\n        );\n\n        CREATE INDEX IF NOT EXISTS idx_request_logs_request ON translation_request_logs(request_id);\n        "

/-- The settings table. -/
def settingsTable : String :=
  "\n        CREATE TABLE IF NOT EXISTS settings (\n            key TEXT PRIMARY KEY,\n            value TEXT NOT NULL,\n            updated_at TEXT NOT NULL\n        );\n        "

/-- The statistics tables. -/
def statisticsTables : String :=
  "\n        CREATE TABLE IF NOT EXISTS statistics (\n            id INTEGER PRIMARY KEY CHECK (id = 1),\n            total_files INTEGER NOT NULL DEFAULT 0,\n            total_lines INTEGER NOT NULL DEFAULT 0,\n            total_characters INTEGER NOT NULL DEFAULT 0,\n            updated_at TEXT NOT NULL\n        );\n\n        CREATE TABLE IF NOT EXISTS language_statistics (\n            target_language TEXT PRIMARY KEY,\n            total_files INTEGER NOT NULL DEFAULT 0,\n            total_lines INTEGER NOT NULL DEFAULT 0\n        );\n        "

/-- The version a database records: 0 without the version table or a readable version. -/
def recordedVersion : StoreOp Int := do
  let exists_ ← try
      firstRow "SELECT COUNT(*) FROM sqlite_master WHERE type='table' AND name='schema_version'" []
        fun r => r.bool 0
    catch f => throw (f.within "Failed to check schema_version table existence")
  if !exists_ then return 0
  try
    firstRow "SELECT version FROM schema_version LIMIT 1" [] fun r => r.int32 0
  catch _ => return 0

/-- Makes every table that is missing. -/
def createTables : StoreOp Unit := do
  for text in [versionTable, mediaTable, requestTable, logTable, settingsTable, statisticsTables] do
    batch text
  log .info "Database schema created successfully"

/-- Records the version of the tables. -/
def recordVersion (v : Int) : StoreOp Unit := do
  let _ ← execute
    "INSERT OR REPLACE INTO schema_version (id, version, updated_at) VALUES (1, ?1, datetime('now'))"
    [.int v]

/-- Gives a database the queue's tables, or refuses a version it cannot use. -/
def ensureSchema : StoreOp Unit := do
  let v ← recordedVersion
  if v == 0 then
    log .info ("Initializing database schema v" ++ toString schemaVersion)
    createTables
    recordVersion schemaVersion
  else if v < schemaVersion then
    log .info ("Migrating database schema from v" ++ toString v ++ " to v" ++ toString schemaVersion)
    throw (Fault.msg ("Unknown schema version: " ++ toString v ++ ". Cannot migrate."))

end SubtitleQueue.Store
