import Mathlib
import SubtitleQueue.Concurrency.Acquire
import SubtitleQueue.Proofs.Process.Segment
import SubtitleQueue.Proofs.Concurrency.Limiter

/-!
Taking a slot from inside a task. A task whose token is clear takes a free slot at once when
one is free and nobody waits (`acquire_at_once`), and otherwise queues and waits
(`acquire_waits`). With every limit at most 2^63 - 1 the free count is exact in every state the
limiter reaches, so a limiter with no slot out and nobody waiting serves at once
(`free_count_exact_within_word`). A limit of 2^63 or more enters the free count as a negative
word, and a fresh limiter of 2^63 slots makes its first task wait
(`acquire_waits_at_word_top`).
-/

namespace SubtitleQueue.Concurrency

open Process Limiter

variable {w : World} {l : Limiter} {token : Nat}

/-- A task with a clear token that finds a slot free and nobody waiting takes it within its
turn, and holds it. -/
theorem acquire_at_once (id : Nat) (priority : Bool) (hc : w.tokens.isCancelled token = false)
    (ht : w.limiter.tryTake = some l) :
    segment id (acquire priority token) w =
      ({ w with limiter := l, holds := w.holds ++ [(id, .slot)] }, .ended (some (.ok ()))) := by
  simp [acquire, Run.isCancelled, Run.hold, Proc.self, hc, ht]

/-- A task with a clear token that finds no slot it may take joins the queue and waits, unless
its place in line was already handed a slot. -/
theorem acquire_waits (id : Nat) (priority : Bool) (hc : w.tokens.isCancelled token = false)
    (ht : w.limiter.tryTake = none) (hg : w.limiter.isGranted w.limiter.nextWaiter = false) :
    ∃ r k, segment id (acquire priority token) w =
      ({ w with limiter := (w.limiter.enqueue priority).2,
                holds := w.holds ++ [(id, .waiter w.limiter.nextWaiter)] }, .waiting none r k) := by
  have hid : (w.limiter.enqueue priority).1 = w.limiter.nextWaiter := by rw [enqueue_eq]
  have hg' : ((w.limiter.enqueue priority).2).isGranted w.limiter.nextWaiter = false := by
    rw [enqueue_eq]
    exact hg
  simp [acquire, Run.isCancelled, Run.hold, Proc.self, Proc.waitUntil, Process.segment, hc, ht, hid, hg']

/-- With limits of at most 2^63 - 1, from the first through every change: in every state the
limiter reaches the free count is the limit less the slots held and handed over, it is its own
signed word (nothing wrapped), and a task with a clear token that finds no slot held or handed
over and nobody waiting takes a slot within its turn. -/
theorem free_count_exact_within_word (n : Nat) (hn : n ≤ 9223372036854775807) (s : Slots)
    (hs : Reachable n s) :
    s.limiter.available = s.limiter.max - (s.held + s.limiter.granted.length) ∧
    signedWord s.limiter.available = s.limiter.available ∧
    ∀ (w : World) (id : Nat) (priority : Bool) (token : Nat), w.limiter = s.limiter →
      s.held = 0 → s.limiter.granted = [] → s.limiter.waiters = [] →
      w.tokens.isCancelled token = false →
      segment id (acquire priority token) w =
        ({ w with limiter := { s.limiter with available := s.limiter.available - 1 },
                  holds := w.holds ++ [(id, .slot)] }, .ended (some (.ok ()))) := by
  have hi := inv_reachable hn hs
  have hcount := hi.count
  have hcap := hi.capped
  have hout := hi.outstanding_le
  refine ⟨hcount, signedWord_of_fits (by omega) (by omega), ?_⟩
  intro w id priority token hw hheld hgranted hwaiters hc
  -- nothing is out, so every slot is free
  have hfree : 0 < s.limiter.available := by
    have := hi.positive
    simp only [hheld, hgranted, List.length_nil] at hcount
    omega
  apply acquire_at_once id priority hc
  rw [hw]
  exact tryTake_eq_some.2 ⟨hfree, hwaiters, rfl⟩

/-- A fresh limiter for one job serves its first task at once. -/
theorem fresh_limiter_serves_at_once :
    (1 : Nat) ≤ 9223372036854775807 ∧ Reachable 1 ⟨make 1, 0⟩ ∧
    segment 0 (acquire false 0) ({} : World) =
      ({ ({} : World) with limiter := { make 1 with available := (make 1).available - 1 },
                           holds := ({} : World).holds ++ [(0, .slot)] }, .ended (some (.ok ()))) :=
  ⟨by decide, .init,
    (free_count_exact_within_word 1 (by decide) ⟨make 1, 0⟩ .init).2.2 {} 0 false 0 rfl rfl rfl rfl rfl⟩

/-- A limiter for 2^63 jobs: the limit enters the free count as the word -2^63, so with no slot
out and nobody waiting its first task still joins the queue and waits. -/
theorem acquire_waits_at_word_top :
    (make 9223372036854775808).available = -9223372036854775808 ∧
    ∃ r k, segment 0 (acquire false 0) ({ limiter := make 9223372036854775808 } : World) =
      ({ ({ limiter := make 9223372036854775808 } : World) with
          limiter := ((make 9223372036854775808).enqueue false).2,
          holds := ({ limiter := make 9223372036854775808 } : World).holds ++ [(0, .waiter 0)] },
        .waiting none r k) :=
  ⟨by decide, acquire_waits 0 false rfl (by decide) rfl⟩

end SubtitleQueue.Concurrency
