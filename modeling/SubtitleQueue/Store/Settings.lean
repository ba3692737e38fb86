import SubtitleQueue.Store.Request

/-!
Settings kept in the store: text values by key, each with the time it was written.
-/

namespace SubtitleQueue.Store

open Sql StoreOp

/-- The stored value of a setting. -/
def getSetting (key : String) : StoreOp (Option String) :=
  firstRow? "SELECT value FROM settings WHERE key = ?1" [.text key] fun r => r.text 0

/-- The stored values of several settings; keys without a value are left out. -/
def getSettings (keys : List String) : StoreOp (List (String × String)) := do
  let mut found := []
  for k in keys do
    if let some v ← getSetting k then
      found := found ++ [(k, v)]
  return found

/-- Writes a setting, replacing what was there. -/
def setSetting (key value : String) : StoreOp Unit := do
  let now ← stamp
  let _ ← execute "INSERT OR REPLACE INTO settings (key, value, updated_at) VALUES (?1, ?2, ?3)"
    [.text key, .text value, .text now]

/-- Writes settings that have no value yet, all or none; how many were written. -/
def seedSettings (values : List (String × String)) : StoreOp Nat := transaction do
  let now ← stamp
  let mut inserted := 0
  for (k, v) in values do
    inserted := inserted + (← execute
      "INSERT OR IGNORE INTO settings (key, value, updated_at) VALUES (?1, ?2, ?3)"
      [.text k, .text v, .text now])
  return inserted

end SubtitleQueue.Store
