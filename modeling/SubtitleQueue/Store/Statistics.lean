import SubtitleQueue.Store.Request

/-!
Totals of the work done: files, lines and characters translated, and lines per target
language. Each finished job adds to them once.
-/

namespace SubtitleQueue.Store

open Sql StoreOp

/-- The totals of translated work. -/
structure Totals where
  files : Int := 0
  lines : Int := 0
  characters : Int := 0
  deriving Repr, DecidableEq, Inhabited

/-- Adds one translated file to the totals and to its language's, all or none. -/
def recordStatistics (language : String) (lines characters : Int) : StoreOp Unit := transaction do
  let now ← stamp
  let _ ← execute "\n                    INSERT INTO statistics (id, total_files, total_lines, total_characters, updated_at)\n                    VALUES (1, 1, ?1, ?2, ?3)\n                    ON CONFLICT(id) DO UPDATE SET\n                        total_files = total_files + 1,\n                        total_lines = total_lines + excluded.total_lines,\n                        total_characters = total_characters + excluded.total_characters,\n                        updated_at = excluded.updated_at\n                    "
    [.int lines, .int characters, .text now]
  let _ ← execute "\n                    INSERT INTO language_statistics (target_language, total_files, total_lines)\n                    VALUES (?1, 1, ?2)\n                    ON CONFLICT(target_language) DO UPDATE SET\n                        total_files = total_files + 1,\n                        total_lines = total_lines + excluded.total_lines\n                    "
    [.text language, .int lines]

/-- The totals; all zero before the first file. -/
def totals : StoreOp Totals := do
  let t ← firstRow? "SELECT total_files, total_lines, total_characters FROM statistics WHERE id = 1" []
    fun r => do return { files := ← r.int 0, lines := ← r.int 1, characters := ← r.int 2 }
  return t.getD {}

/-- Lines translated per target language; a language read twice keeps its last value. -/
def languageTotals : StoreOp (List (String × Int)) := do
  let rs ← rows "SELECT target_language, total_lines FROM language_statistics" []
  let pairs ← lift (rs.mapM fun r => do return (← r.text 0, ← r.int 1))
  return pairs.foldl (fun acc (k, v) => (acc.filter (·.1 != k)) ++ [(k, v)]) []

end SubtitleQueue.Store
