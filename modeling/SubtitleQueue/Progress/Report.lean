import SubtitleQueue.Queue.Act

/-!
Reporting progress. A recorder keeps every event as it was given. A reporter caps progress at
100, stores it when attached to the store (never lowering what is stored), and passes each
event on when someone listens. Reporting never fails: a progress that cannot be stored is
logged and dropped.
-/

namespace SubtitleQueue.Progress

/-- Passes an event on to whoever hears it. -/
def hear (e : Event) : Run Unit := modify fun w => { w with events := w.events.push e }

/-- Reports the progress of a request. -/
def emit (request : Int) (percent : Nat) : Run Unit := do
  match (← get).sink with
  | .recorder => hear (.progress request percent)
  | .reporter attached listening =>
    let percent := min percent 100
    if attached then
      match ← Run.stored (Store.updateProgress request percent) with
      | .error e =>
        Run.note .warn ("Failed to persist progress for request " ++ toString request ++ ": " ++
          e.headline)
      | .ok () => pure ()
    if listening then hear (.progress request percent)

/-- Reports the same progress for several requests. -/
def emitAll (requests : List Int) (percent : Nat) : Run Unit :=
  requests.forM fun r => emit r percent

/-- Reports a change of status. -/
def emitStatus (request : Int) (status : RequestStatus) : Run Unit := do
  match (← get).sink with
  | .recorder => hear (.status request status)
  | .reporter _ listening => if listening then hear (.status request status)

end SubtitleQueue.Progress
