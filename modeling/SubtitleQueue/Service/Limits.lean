import SubtitleQueue.Concurrency.Acquire
import SubtitleQueue.Service.Backends

/-!
Service answers that exercise the cancellation registry and the concurrency limiter step by
step. Limiter requests start one task per acquisition; after each step the other tasks run
until none of them finishes any more, unless the step says not to wait.
-/

namespace SubtitleQueue.Service

open Process Concurrency Cancel

/-- What the registry steps keep: tokens by name in the order they were made, and the
guards still held, by name. -/
structure RegistryBench where
  registry : Registry := {}
  tokens : Tokens := {}
  named : List (String × Nat) := []
  guards : List (String × Int × Nat) := []

/-- One registry step; its result. -/
def registryStep (b : RegistryBench) (j : Json) : Decode (RegistryBench × Json) := do
  match ← text j "op" with
  | "register" | "guard" =>
    let id ← integer j "id"
    let name ← text j "as"
    let (t, ts) := b.tokens.fresh
    let (g, r) := b.registry.register id t
    let b := { b with registry := r, tokens := ts, named := b.named ++ [(name, t)] }
    if (← text j "op") == "guard" then
      let r := match b.guards.find? (·.1 == name) with
        | some (_, id', g') => b.registry.release id' g'
        | none => b.registry
      pure ({ b with registry := r, guards := b.guards.filter (·.1 != name) ++ [(name, id, g)] }, .null)
    else pure (b, .null)
  | "drop" =>
    let name ← text j "as"
    match b.guards.find? (·.1 == name) with
    | some (_, id, g) =>
      pure ({ b with registry := b.registry.release id g, guards := b.guards.filter (·.1 != name) }, .bool true)
    | none => pure (b, .bool false)
  | "cancel" =>
    let (found, ts) := cancelRequest b.registry b.tokens (← integer j "id")
    pure ({ b with tokens := ts }, .bool found)
  | "unregister" => pure ({ b with registry := b.registry.unregister (← integer j "id") }, .null)
  | "is_registered" => pure (b, .bool (b.registry.isRegistered (← integer j "id")))
  | other => throw ("unknown registry op '" ++ other ++ "'")

/-- Registry steps, each with the registry and the tokens after it. -/
def registryReply (j : Json) : Decode Json := do
  let ops ← listD j "ops" some
  let (_, steps) ← ops.foldlM (fun (b, steps) op => do
    let (b, r) ← registryStep b op
    let step := Json.obj [("result", r), ("len", .nat b.registry.size), ("empty", .bool (b.registry.size == 0)),
      ("tokens", .list (fun (n, t) => .arr [.str n, .bool (b.tokens.isCancelled t)]) b.named)]
    pure (b, steps ++ [step])) (({} : RegistryBench), [])
  pure (.obj [("steps", .arr steps)])

/-- Where an acquisition stands. -/
inductive Standing where
  | waiting
  | granted
  | released
  | dropped
  | cancelled
  | aborted
  deriving Repr, DecidableEq, Inhabited

/-- The name of a standing. -/
def Standing.name : Standing → String
  | .waiting => "waiting"
  | .granted => "granted"
  | .released => "released"
  | .dropped => "dropped"
  | .cancelled => "cancelled"
  | .aborted => "aborted"

/-- One acquisition: its name, its task, its token, and where it stands. -/
structure Acquisition where
  name : String
  task : Nat
  token : Nat
  standing : Standing := .waiting

/-- What the limiter steps keep. -/
structure LimiterBench where
  acquisitions : List Acquisition := []
  grantedOrder : List String := []

/-- The limiter steps' computation. -/
abbrev Bench := StateT LimiterBench Run

/-- Takes over the slots of acquisitions whose tasks have ended; `true` if any had. -/
def collect : Bench Bool := do
  let b ← get
  let mut changed := false
  let mut acqs := []
  let mut order := b.grantedOrder
  for a in b.acquisitions do
    if a.standing == .waiting then
      if ← (Proc.isAlive a.task : Run Bool) then acqs := acqs ++ [a]
      else
        changed := true
        let w ← (get : Run World)
        if w.holds.contains (a.task, .slot) then
          (set { w with holds := w.holds.erase (a.task, .slot) } : Run Unit)
          acqs := acqs ++ [{ a with standing := .granted }]
          order := order ++ [a.name]
        else acqs := acqs ++ [{ a with standing := .cancelled }]
    else acqs := acqs ++ [a]
  set { b with acquisitions := acqs, grantedOrder := order }
  return changed

/-- Yields twenty times, then takes over finished acquisitions, as long as any finish. -/
def settle : Nat → Bench Unit
  | 0 => pure ()
  | n + 1 => do
    for _ in List.range 20 do
      (Proc.yieldNow : Run Unit)
    if ← collect then settle n

/-- Changes the standing of a named acquisition. -/
def restand (name : String) (s : Standing) : Bench Unit :=
  modify fun b => { b with acquisitions := b.acquisitions.map fun a =>
    if a.name == name then { a with standing := s } else a }

/-- The acquisition of a name. -/
def acquisition? (name : String) : Bench (Option Acquisition) := do
  return (← get).acquisitions.find? (·.name == name)

/-- One limiter step; its result. -/
def limiterStep (op : String) (j : Json) : Bench Json := do
  match op with
  | "acquire" =>
    let name := ((j.field? "name").bind Json.str?).getD ""
    let priority := ((j.field? "priority").bind Json.bool?).getD false
    let cancelled := ((j.field? "cancelled").bind Json.bool?).getD false
    let tok ← (Run.newToken : Run Nat)
    if cancelled then (Run.cancelToken tok : Run Unit)
    let task ← (Proc.spawnTask (fun _ => do let _ ← acquire priority tok; pure ()) : Run Nat)
    modify fun b => { b with acquisitions := b.acquisitions ++ [{ name, task, token := tok }] }
    return .null
  | "release" =>
    let name := ((j.field? "name").bind Json.str?).getD ""
    match ← acquisition? name with
    | some a =>
      if a.standing == .granted then
        (modify fun w => { w with limiter := w.limiter.release } : Run Unit)
        restand name .released
        return .bool true
      else return .bool (a.standing == .released)
    | none => return .bool false
  | "drop" =>
    let name := ((j.field? "name").bind Json.str?).getD ""
    match ← acquisition? name with
    | some a =>
      if a.standing == .granted || a.standing == .released then
        if a.standing == .granted then
          (modify fun w => { w with limiter := w.limiter.release } : Run Unit)
        restand name .dropped
        return .bool true
      else return .bool false
    | none => return .bool false
  | "cancel" =>
    let name := ((j.field? "name").bind Json.str?).getD ""
    match ← acquisition? name with
    | some a =>
      (Run.cancelToken a.token : Run Unit)
      return .bool true
    | none => return .bool false
  | "set_max" =>
    let n := ((j.field? "n").bind Json.nat?).getD 0
    return .nat (← (setLimit n : Run Nat))
  | "refresh" =>
    let v := (j.field? "value").bind Json.str?
    return .nat (← (refreshLimit v : Run Nat))
  | "abort" =>
    let name := ((j.field? "name").bind Json.str?).getD ""
    match ← acquisition? name with
    | some a =>
      if a.standing == .waiting && (← (Proc.isAlive a.task : Run Bool)) then
        (Proc.abortTask a.task : Run Unit)
        restand name .aborted
        return .bool true
      else return .bool false
    | none => return .bool false
  | "getters" =>
    let l := (← (get : Run World)).limiter
    return .arr [.nat l.waiting, .int l.available, .nat l.max]
  | _ => return .null

/-- Runs the limiter steps; their answers. -/
def limiterSteps (ops : List Json) : Bench (List Json) := do
  let mut steps := []
  for j in ops do
    let op := ((j.field? "op").bind Json.str?).getD ""
    let r ← limiterStep op j
    if ((j.field? "settle").bind Json.bool?).getD true then
      settle (ops.length + 1)
    let b ← get
    let l := (← (get : Run World)).limiter
    steps := steps ++ [Json.obj [("result", r), ("max", .nat l.max), ("available", .int l.available),
      ("waiting", .nat l.waiting), ("granted_order", .list .str b.grantedOrder),
      ("status", .list (fun a => .arr [.str a.name, .str a.standing.name]) b.acquisitions)]]
  return steps

/-- Checks that every limiter step is well formed. -/
def limiterOp (j : Json) : Decode Unit := do
  match ← text j "op" with
  | "acquire" | "release" | "drop" | "cancel" | "abort" => let _ ← text j "name"
  | "set_max" => let _ ← natural j "n"
  | "refresh" | "stats" | "getters" => pure ()
  | other => throw ("unknown limiter op '" ++ other ++ "'")

/-- Limiter steps, each with the limiter and the acquisitions after it. -/
def limiterReply (j : Json) : Decode Json := do
  let n ← naturalD j "max" 1
  let ops ← listD j "ops" some
  ops.forM limiterOp
  let (_, r) := runFrom { limiter := Limiter.make n } ((limiterSteps ops).run' {})
  pure (.obj [("steps", .arr (r.getD []))])

end SubtitleQueue.Service
