import SubtitleQueue.World

/-!
Steps of the queue's tasks that may fail: a task's computation with a fault as its failure.
The shared state keeps whatever a step changed before it failed, as the store and the files
do.
-/

namespace SubtitleQueue

/-- A step of a task that may fail. -/
abbrev Act := ExceptT Fault Run

namespace Act

/-- Runs an operation on the store. -/
def store {α : Type} (op : Store.StoreOp α) : Act α := ExceptT.mk (Run.stored op)

/-- Runs a step and gives its failure as a value instead. -/
def attempt {α : Type} (a : Act α) : Act (Except Fault α) := ExceptT.lift a.run

/-- Writes one line to the library's log. -/
def note (level : Log.Level) (message : String) : Act Unit := ExceptT.lift (Run.note level message)

/-- Tells the pool that there is new work. -/
def wake : Act Unit := modify fun w => { w with woken := true }

/-- Fails with a queue failure. -/
def refuse {α : Type} (e : QueueError) : Act α := throw (e : Fault)

end Act

end SubtitleQueue
