import Mathlib
import SubtitleQueue.Process.Schedule

/-!
A task that runs alone to its end. A segment of a task runs it until it waits, yields or ends;
when the first part of a task ends within a segment, the segment goes on with the rest from
the state that part left (`segment_bind`). A main task that ends within its first segment is
the whole run of the scheduler: the state and the value it ends with are what the run gives
(`runMain_of_segment`).
-/

namespace SubtitleQueue.Process

variable {σ α β : Type}

/-! ### A task's steps as a tree

The state operations and the binding of the task monad, read as the nodes they build, so that
a segment of a task written with `do` unfolds node by node. -/

namespace Proc

@[simp] theorem get_eq : (get : Proc σ σ) = .look .done := rfl

@[simp] theorem set_eq (s : σ) : (set s : Proc σ PUnit) = .put s (.done ()) := rfl

@[simp] theorem modify_eq (f : σ → σ) :
    (modify f : Proc σ PUnit) = .look fun s => .put (f s) (.done ()) := rfl

@[simp] theorem modifyGet_eq (f : σ → α × σ) :
    (modifyGet f : Proc σ α) = .look fun s => .put (f s).2 (.done (f s).1) := rfl

@[simp] theorem pure_eq (a : α) : (pure a : Proc σ α) = .done a := rfl

@[simp] theorem done_bind (a : α) (f : α → Proc σ β) : (Proc.done a >>= f) = f a := rfl

@[simp] theorem look_bind (k : σ → Proc σ α) (f : α → Proc σ β) :
    (Proc.look k >>= f) = .look fun s => k s >>= f := rfl

@[simp] theorem put_bind (s : σ) (k : Proc σ α) (f : α → Proc σ β) :
    (Proc.put s k >>= f) = .put s (k >>= f) := rfl

@[simp] theorem current_bind (k : Nat → Proc σ α) (f : α → Proc σ β) :
    (Proc.current k >>= f) = .current fun n => k n >>= f := rfl

@[simp] theorem pause_bind (d : Option Nat) (r : σ → Bool) (k : Bool → Proc σ α) (f : α → Proc σ β) :
    (Proc.pause d r k >>= f) = .pause d r fun b => k b >>= f := rfl

end Proc

variable [Timed σ]

@[simp] theorem segment_done (id : Nat) (a : α) (s : σ) :
    segment id (Proc.done a) s = (s, .ended (some a)) := rfl

@[simp] theorem segment_look (id : Nat) (k : σ → Proc σ α) (s : σ) :
    segment id (Proc.look k) s = segment id (k s) s := rfl

@[simp] theorem segment_put (id : Nat) (s' : σ) (k : Proc σ α) (s : σ) :
    segment id (Proc.put s' k) s = segment id k s' := rfl

@[simp] theorem segment_current (id : Nat) (k : Nat → Proc σ α) (s : σ) :
    segment id (Proc.current k) s = segment id (k id) s := rfl

/-- A segment in which the first part of a task ends goes on with the rest. -/
theorem segment_bind {x : Proc σ α} {f : α → Proc σ β} {id : Nat} {s s' : σ} {a : α}
    (h : segment id x s = (s', .ended (some a))) : segment id (x >>= f) s = segment id (f a) s' := by
  induction x generalizing s with
  | done b =>
    simp only [segment_done, Prod.mk.injEq, Halt.ended.injEq, Option.some.injEq] at h
    obtain ⟨rfl, rfl⟩ := h
    rfl
  | halt => simp [segment] at h
  | look k ih => exact ih s h
  | put s₀ k ih => exact ih h
  | pause d r k ih =>
    -- the wait goes on at once exactly as it does for the task alone
    show segment id (Proc.pause d r fun b => (k b >>= f)) s = _
    unfold segment at h
    conv_lhs => unfold segment
    split
    · rename_i hr
      simp only [hr, if_true] at h
      exact ih true h
    · rename_i hr
      simp only [hr, Bool.false_eq_true, if_false] at h
      cases d with
      | none => simp at h
      | some t =>
        simp only at h ⊢
        split
        · rename_i ht
          simp only [ht, if_true] at h
          exact ih false h
        · rename_i ht
          simp [ht] at h
  | yield k => simp [segment] at h
  | spawn c k => simp [segment] at h
  | abort i k => simp [segment] at h
  | current k ih => exact ih id h
  | alive i k => simp [segment] at h

/-- A main task that ends within its first segment is the whole run. -/
theorem runMain_of_segment {main : Proc σ α} {s s' : σ} {v : Option α}
    (h : segment 0 main s = (s', .ended v)) (fuel : Nat) (onAbort : Nat → σ → σ) :
    runMain (fuel + 1) s onAbort main = (s', v) := by
  cases fuel with
  | zero => simp [runMain, Scheduler.run, Scheduler.start, Scheduler.turn, h, Scheduler.wake]
  | succ fuel =>
    cases fuel <;>
      simp [runMain, Scheduler.run, Scheduler.start, Scheduler.turn, h, Scheduler.wake,
        Scheduler.earliest]

end SubtitleQueue.Process
