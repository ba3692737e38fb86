import SubtitleQueue.Backend.Stack
import SubtitleQueue.Batch.Chunks
import SubtitleQueue.Batch.Envelope
import SubtitleQueue.Text.Markup

/-!
Translating a batch with graduated splitting. The lines with something to translate are sent
as one chunk; the lines that come back missing or blank, or that sat in a chunk the backend
refused, are sent again split into two chunks, then three, up to the split budget. A failure
that no smaller chunk can mend (bad credentials, a payment, the quota) ends the whole batch.
-/

namespace SubtitleQueue.Batch

open Backend Log

/-- Translations by position, in position order, one per position. -/
abbrev Translations := List (Nat × String)

/-- Sets the translation of a position, replacing an earlier one. -/
def Translations.put (m : Translations) (p : Nat) (t : String) : Translations :=
  let rest := m.filter (·.1 != p)
  rest.filter (·.1 < p) ++ (p, t) :: rest.filter (·.1 > p)

/-- The translation of a position. -/
def Translations.get? (m : Translations) (p : Nat) : Option String := (m.find? (·.1 == p)).map (·.2)

/-- Positions as a bracketed, comma-separated list. -/
def positionsText (ps : List Nat) : String := "[" ++ ", ".intercalate (ps.map toString) ++ "]"

/-- What graduated splitting needs from where it runs: whether the job was stopped, how a
chunk is sent to the backend, and where a warning goes. -/
structure Effects (m : Type → Type) where
  cancelled : m Bool
  send : List Item → m (Except JobError Translations)
  warn : String → m Unit

/-- Files a line of a chunk under the chunk's answer: the line is translated when the answer
has a text for its position that is not blank, and fails otherwise. -/
def absorb (answer : Translations) (acc : Translations × List Item) (it : Item) :
    Translations × List Item :=
  match answer.get? it.1 with
  | some t => if Text.isBlankText t then (acc.1, acc.2 ++ [it]) else (acc.1.put it.1 t, acc.2)
  | none => (acc.1, acc.2 ++ [it])

section Splitting

variable {m : Type → Type} [Monad m]

/-- Sends the chunks of one split level; returns the translations so far and the lines
that failed, in order. -/
def level (e : Effects m) :
    List (List Item) → Translations → List Item → m (Except JobError (Translations × List Item))
  | [], done, failed => return .ok (done, failed)
  | chunk :: rest, done, failed => do
    if ← e.cancelled then return .error .cancelled
    match ← e.send chunk with
    | .ok answer =>
      let (done, failed) := chunk.foldl (absorb answer) (done, failed)
      level e rest done failed
    | .error (.backend err) =>
      if err.abortsBatch then return .error (.backend err)
      else level e rest done (failed ++ chunk)
    | .error err => return .error err

/-- Runs split levels from `lvl` on; `left` counts the levels still allowed, `maxSplits` all
of them. -/
def levels (e : Effects m) (maxSplits : Nat) :
    Nat → Nat → List Item → Translations → m (Except JobError (Translations × List Item))
  | 0, _, pending, done => return .ok (done, pending)
  | left + 1, lvl, pending, done => do
    if pending.isEmpty then return .ok (done, pending)
    match ← level e (split pending lvl) done [] with
    | .error err => return .error err
    | .ok (done, failed) =>
      if !failed.isEmpty && lvl < maxSplits then
        e.warn (toString failed.length ++ " item(s) untranslated at split level " ++ toString lvl ++
          ", retrying in " ++ toString (Nat.min (lvl + 1) failed.length) ++ " chunk(s)")
      levels e maxSplits left (lvl + 1) failed done

/-- Translates a batch with up to `maxSplits` split levels. Lines with nothing to translate
are never sent. When lines are left over after the last level, the error names them and
carries what was translated. -/
def fallback (e : Effects m) (maxSplits : Nat) (items : List Item) :
    m (Except JobError Translations) := do
  let pending := items.filter fun it => Text.isMeaningful it.2
  match ← levels e maxSplits maxSplits 1 pending [] with
  | .error err => return .error err
  | .ok (done, []) => return .ok done
  | .ok (done, left) =>
    let ps := left.map (·.1)
    e.warn (toString ps.length ++ " item(s) still untranslated after " ++ toString maxSplits ++
      " split level(s): positions " ++ positionsText ps)
    return .error (.batchExhausted ps.length ps done)

end Splitting

/-- A batch translator: a backend, the two languages, and how many split levels to try (at
least one). -/
structure Translator where
  backend : Stack
  source : String
  target : String
  maxSplits : Nat
  deriving Repr, Inhabited

namespace Translator

/-- Sends the lines of a chunk one by one: a line that fails is left out, unless its
failure ends the batch. -/
def eachLine (tr : Translator) (cancel : Nat) (ask : Ask) :
    List Item → Translations → Run (Except JobError Translations)
  | [], acc => return .ok acc
  | (p, text) :: rest, acc => do
    if ← Run.isCancelled cancel then return .error .cancelled
    match ← tr.backend.translate (some cancel) text ask with
    | none => return .error .cancelled
    | some (.ok t) => eachLine tr cancel ask rest (acc.put p t)
    | some (.error e) =>
      if e.abortsBatch then return .error (.backend e)
      else eachLine tr cancel ask rest acc

/-- Sends one chunk: as a batch if the backend takes batches, else line by line. -/
def callChunk (tr : Translator) (cancel : Nat) (ask : Ask) (chunk : List Item) :
    Run (Except JobError Translations) := do
  if tr.backend.supportsBatch then
    match ← tr.backend.translateBatch (some cancel) chunk ask with
    | none => return .error .cancelled
    | some (.ok m) => return .ok m
    | some (.error e) => return .error (.backend e)
  else tr.eachLine cancel ask chunk []

/-- The effects of graduated splitting in a running job: the job's token, the chunk sent to
the backend, and warnings in the job's log. -/
def effects (tr : Translator) (cancel : Nat) (ask : Ask) (log : Capture) : Effects Run where
  cancelled := Run.isCancelled cancel
  send := tr.callChunk cancel ask
  warn := log.say .warn

/-- Translates a batch, splitting it further after failures. -/
def translate (tr : Translator) (items : List Item) (before after : List String) (cancel : Nat)
    (log : Capture) : Run (Except JobError Translations) :=
  fallback (tr.effects cancel { source := tr.source, target := tr.target, before, after } log)
    tr.maxSplits items

end Translator

end SubtitleQueue.Batch
