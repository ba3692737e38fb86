import Mathlib
import SubtitleQueue.Concurrency.Limiter

/-!
The limiter as a state machine. Tasks take free slots, queue, take the slot handed to them,
give up waiting, give slots back and change the limit; `Step` is one such operation and
`Reachable` every state a run of them reaches. In every reachable state the queue is in serving
order (priority first, then by arrival), nobody waits while a slot is free, and the free count
is the limit less the slots held and handed over (`inv_reachable`). A dispatch hands slots to
the head of the queue, as many as wait and are free (`dispatch_eq`), and after each hand-off
the slots out are within the limit (`Balanced.handOff_le`). The free count is a signed 64-bit
word; with every limit at most 2^63 - 1 it never wraps.
-/

namespace SubtitleQueue.Concurrency

namespace Limiter

/-! ### Serving the queue -/

/-- The limiter after the first `k` waiters of the queue are handed a slot each. -/
def serve (l : Limiter) (k : Nat) : Limiter :=
  { l with available := l.available - k, waiters := l.waiters.drop k,
           granted := l.granted ++ (l.waiters.take k).map (·.id) }

/-- How many waiters a dispatch serves: every one that waits, as far as slots are free. -/
def servable (l : Limiter) : Nat := min l.waiters.length l.available.toNat

@[simp] theorem serve_available (l : Limiter) (k : Nat) : (l.serve k).available = l.available - k := rfl
@[simp] theorem serve_waiters (l : Limiter) (k : Nat) : (l.serve k).waiters = l.waiters.drop k := rfl
@[simp] theorem serve_granted (l : Limiter) (k : Nat) :
    (l.serve k).granted = l.granted ++ (l.waiters.take k).map (·.id) := rfl
@[simp] theorem serve_max (l : Limiter) (k : Nat) : (l.serve k).max = l.max := rfl
@[simp] theorem serve_nextWaiter (l : Limiter) (k : Nat) : (l.serve k).nextWaiter = l.nextWaiter := rfl

theorem dispatch_go (l : Limiter) (available : Int) (ws : List Waiter) (granted : List Nat)
    (woken : Nat) :
    dispatch.go l available ws granted woken =
      (serve { l with available, waiters := ws, granted } (min ws.length available.toNat),
        woken + min ws.length available.toNat) := by
  induction ws generalizing available granted woken with
  | nil => simp [dispatch.go, serve]
  | cons w rest ih =>
    by_cases ha : available > 0
    · have hk : min (rest.length + 1) available.toNat = min rest.length (available - 1).toNat + 1 := by
        omega
      rw [dispatch.go, if_pos ha, ih]
      simp only [serve, List.length_cons, hk, List.drop_succ_cons, List.take_succ_cons,
        List.map_cons, List.append_assoc, List.singleton_append]
      refine Prod.ext ?_ (by simp only; omega)
      simp only [Limiter.mk.injEq, true_and, and_true]
      push_cast
      ring
    · have hk : available.toNat = 0 := by omega
      rw [dispatch.go, if_neg ha]
      simp [serve, hk]

theorem dispatch_eq (l : Limiter) : l.dispatch = (l.serve l.servable, l.servable) := by
  rw [dispatch, dispatch_go, Nat.zero_add]
  rfl

/-! ### What each operation does -/

theorem tryTake_eq_some {l l' : Limiter} :
    l.tryTake = some l' ↔
      0 < l.available ∧ l.waiters = [] ∧ l' = { l with available := l.available - 1 } := by
  unfold tryTake
  split_ifs with h
  · simp only [Bool.and_eq_true, decide_eq_true_eq, List.isEmpty_iff] at h
    simp only [Option.some.injEq, h, true_and]
    exact eq_comm
  · simp only [Bool.and_eq_true, decide_eq_true_eq, List.isEmpty_iff, not_and] at h
    simp only [false_iff, not_and]
    exact fun ha hw => absurd hw (h ha)

theorem tryTake_eq_none {l : Limiter} (h : l.tryTake = none) : 0 < l.available → l.waiters ≠ [] := by
  intro ha hw
  unfold tryTake at h
  simp [ha, hw] at h

/-- The queue after a waiter joins it: a priority waiter after the priority waiters, an
ordinary one at the end. -/
def joined (ws : List Waiter) (w : Waiter) : List Waiter :=
  if w.priority then ws.takeWhile (·.priority) ++ w :: ws.drop (ws.takeWhile (·.priority)).length
  else ws ++ [w]

theorem enqueue_eq (l : Limiter) (priority : Bool) :
    l.enqueue priority = (l.nextWaiter,
      { l with waiters := joined l.waiters (Waiter.mk l.nextWaiter priority),
               nextWaiter := l.nextWaiter + 1 }) := by
  cases priority <;> rfl

theorem release_eq (l : Limiter) :
    l.release = ({ l with available := signedWord (l.available + 1) } : Limiter).serve
      ({ l with available := signedWord (l.available + 1) } : Limiter).servable := by
  rw [release, dispatch_eq]

/-- The limiter with a new limit, before anyone is served: the free count moves by the
difference of the limits, all taken as signed words. -/
def resized (l : Limiter) (m : Nat) : Limiter :=
  { l with max := m, available := signedWord (l.available + signedWord (signedWord m - signedWord l.max)) }

theorem setMax_eq (l : Limiter) (n : Nat) :
    (l.setMax n).1 = (if l.max = Nat.max n 1 then l
      else (l.resized (Nat.max n 1)).serve (l.resized (Nat.max n 1)).servable) ∧
    (l.setMax n).2.1 = (if l.max = Nat.max n 1 then 0 else (l.resized (Nat.max n 1)).servable) := by
  unfold setMax
  by_cases h : l.max = Nat.max n 1
  · simp [h]
  · simp only [beq_iff_eq, h, if_false, dispatch_eq]
    exact ⟨rfl, rfl⟩

theorem abandon_eq (l : Limiter) (id : Nat) :
    l.abandon id =
      if l.waiters.any (·.id == id) then { l with waiters := l.waiters.filter (·.id != id) }
      else if l.isGranted id then
        ({ l.take id with available := signedWord ((l.take id).available + 1) } : Limiter).serve
          ({ l.take id with available := signedWord ((l.take id).available + 1) } : Limiter).servable
      else l := by
  unfold abandon withdraw
  split_ifs <;> simp_all [release_eq]

/-! ### Words -/

/-- A number within the range of a signed word is that word. -/
theorem signedWord_of_fits {x : Int} (hlo : -9223372036854775808 ≤ x) (hhi : x ≤ 9223372036854775807) :
    signedWord x = x := by
  unfold signedWord
  rw [Int.emod_eq_of_lt (by omega) (by omega)]
  omega

/-! ### The invariant -/

/-- Waiter `a` is served before waiter `b`: priority before ordinary, and within a tier in the
order they came. -/
def Before (a b : Waiter) : Prop :=
  (a.priority = true ∧ b.priority = false) ∨ (a.priority = b.priority ∧ a.id < b.id)

/-- The limiter's counts, with `held` the slots that tasks hold: the queue in serving order,
every waiter's number already given out, and the free count the limit less the slots held and
handed over. -/
structure Balanced (l : Limiter) (held : Nat) : Prop where
  ordered : l.waiters.Pairwise Before
  fresh : ∀ w ∈ l.waiters, w.id < l.nextWaiter
  count : l.available = l.max - (held + l.granted.length)
  positive : 0 < l.max
  capped : l.max ≤ 9223372036854775807
  outstanding_le : held + l.granted.length ≤ 9223372036854775807

/-- What holds in every state the limiter reaches: the counts balance, and nobody waits while
a slot is free. -/
structure Inv (l : Limiter) (held : Nat) : Prop extends Balanced l held where
  blocked : l.waiters ≠ [] → l.available ≤ 0

section Words

variable {l : Limiter} {held : Nat}

/-- With balanced counts a slot given back never makes the free count wrap. -/
theorem Balanced.release_available (h : Balanced l held) (hp : 0 < held) :
    signedWord (l.available + 1) = l.available + 1 := by
  have := h.count
  have := h.capped
  have := h.outstanding_le
  exact signedWord_of_fits (by omega) (by omega)

/-- With balanced counts and a new limit within a word, the free count moves by exactly the
difference of the limits. -/
theorem Balanced.resized_available (h : Balanced l held) {m : Nat} (hm : m ≤ 9223372036854775807) :
    (l.resized m).available = l.available + m - l.max := by
  have := h.count
  have := h.capped
  have := h.outstanding_le
  have hm' : signedWord (m : Int) = m := signedWord_of_fits (by omega) (by omega)
  have hmax : signedWord (l.max : Int) = l.max := signedWord_of_fits (by omega) (by omega)
  have hd : signedWord ((m : Int) - l.max) = m - l.max := signedWord_of_fits (by omega) (by omega)
  show signedWord (l.available + signedWord (signedWord m - signedWord l.max)) = _
  rw [hm', hmax, hd, signedWord_of_fits (x := l.available + ((m : Int) - l.max)) (by omega) (by omega)]
  ring

end Words

/-- Serving the queue establishes the invariant from balanced counts. -/
theorem Balanced.serve {l : Limiter} {held : Nat} (h : Balanced l held) :
    Inv (l.serve l.servable) held where
  ordered := h.ordered.sublist (List.drop_sublist _ _)
  fresh := fun w hw => h.fresh w (List.mem_of_mem_drop hw)
  count := by
    have hk : l.servable ≤ l.waiters.length := min_le_left _ _
    simp only [serve_available, serve_max, serve_granted, List.length_append, List.length_map,
      List.length_take, h.count]
    rw [min_eq_left hk]
    push_cast
    ring
  positive := h.positive
  capped := h.capped
  outstanding_le := by
    have hk : l.servable ≤ l.waiters.length := min_le_left _ _
    have hfree : l.servable ≤ l.available.toNat := min_le_right _ _
    simp only [serve_granted, List.length_append, List.length_map, List.length_take, min_eq_left hk]
    have := h.count
    have := h.capped
    have := h.outstanding_le
    omega
  blocked := by
    intro hne
    simp only [serve_waiters, ne_eq, List.drop_eq_nil_iff, not_le, servable] at hne
    simp only [serve_available, servable]
    omega

/-- In a queue in serving order, everyone after the priority waiters at its front is an
ordinary waiter. -/
theorem ordinary_after_priority {ws : List Waiter} (h : ws.Pairwise Before) :
    ∀ y ∈ ws.drop (ws.takeWhile (·.priority)).length, y.priority = false := by
  induction ws with
  | nil => simp
  | cons x xs ih =>
    cases hx : x.priority with
    | true =>
      simpa [List.takeWhile_cons_of_pos (show x.priority = true from hx)] using
        ih (List.pairwise_cons.1 h).2
    | false =>
      rw [List.takeWhile_cons_of_neg (by simp [hx]), List.length_nil, List.drop_zero]
      intro y hy
      rcases List.mem_cons.1 hy with rfl | hy
      · exact hx
      · rcases (List.pairwise_cons.1 h).1 y hy with ⟨hx', -⟩ | ⟨hxy, -⟩
        · simp [hx] at hx'
        · rw [← hxy, hx]

/-- A newcomer joins a queue in serving order without breaking it. -/
theorem pairwise_joined {ws : List Waiter} {w : Waiter} (h : ws.Pairwise Before)
    (hf : ∀ x ∈ ws, x.id < w.id) : (joined ws w).Pairwise Before := by
  unfold joined
  split_ifs with hp
  · have hrest := ordinary_after_priority h
    have hws : ws = ws.takeWhile (·.priority) ++ ws.drop (ws.takeWhile (·.priority)).length := by
      nth_rewrite 1 [← List.take_append_drop (ws.takeWhile (·.priority)).length ws]
      rw [← List.prefix_iff_eq_take.1 (List.takeWhile_prefix _)]
    rw [hws, List.pairwise_append] at h
    rw [List.pairwise_append]
    refine ⟨h.1, List.pairwise_cons.2 ⟨fun y hy => .inl ⟨hp, hrest y hy⟩, h.2.1⟩, ?_⟩
    intro x hx y hy
    rcases List.mem_cons.1 hy with rfl | hy
    · have hxp : x.priority = true := List.mem_takeWhile_imp hx
      exact .inr ⟨by rw [hxp, hp], hf x ((List.takeWhile_prefix _).subset hx)⟩
    · exact h.2.2 x hx y hy
  · rw [List.pairwise_append]
    refine ⟨h, List.pairwise_singleton _ _, fun x hx y hy => ?_⟩
    rw [List.mem_singleton] at hy
    subst hy
    cases hxp : x.priority
    · exact .inr ⟨by simpa [hxp] using hp, hf x hx⟩
    · exact .inl ⟨hxp, by simpa using hp⟩

/-! ### Each operation keeps the invariant -/

section Steps

variable {l : Limiter} {held : Nat}

theorem inv_make (n : Nat) (hn : n ≤ 9223372036854775807) : Inv (make n) 0 where
  ordered := List.Pairwise.nil
  fresh := by simp [make]
  count := by
    have hm : Nat.max n 1 ≤ 9223372036854775807 := Nat.max_le.2 ⟨hn, by decide⟩
    show signedWord ((Nat.max n 1 : Nat) : Int) = (Nat.max n 1 : Nat) - (0 + ([] : List Nat).length)
    rw [signedWord_of_fits (by omega) (by omega)]
    simp
  positive := by simp [make]
  capped := Nat.max_le.2 ⟨hn, by decide⟩
  outstanding_le := by simp [make]
  blocked := by simp [make]

/-- Taking a free slot: the task holds one more slot. -/
theorem Inv.tryTake {l' : Limiter} (h : Inv l held) (ht : l.tryTake = some l') :
    Inv l' (held + 1) := by
  obtain ⟨hfree, hempty, rfl⟩ := tryTake_eq_some.1 ht
  exact {
    ordered := by simp [hempty]
    fresh := by simp [hempty]
    count := by simp only [h.count]; push_cast; ring
    positive := h.positive
    capped := h.capped
    outstanding_le := by
      have := h.count
      have := h.capped
      simp only
      omega
    blocked := fun hne => absurd hempty hne }

/-- Joining the queue when no slot could be taken. -/
theorem Inv.enqueue (h : Inv l held) (ht : l.tryTake = none) (priority : Bool) :
    Inv (l.enqueue priority).2 held := by
  have hblocked : l.available ≤ 0 := by
    by_contra hpos
    exact absurd (h.blocked (tryTake_eq_none ht (by omega))) (by omega)
  rw [enqueue_eq]
  exact {
    ordered := pairwise_joined h.ordered h.fresh
    fresh := by
      intro w hw
      unfold joined at hw
      split_ifs at hw
      · rcases List.mem_append.1 hw with hw | hw
        · exact Nat.lt_succ_of_lt (h.fresh w ((List.takeWhile_prefix _).subset hw))
        · rcases List.mem_cons.1 hw with rfl | hw
          · exact Nat.lt_succ_self _
          · exact Nat.lt_succ_of_lt (h.fresh w (List.mem_of_mem_drop hw))
      · rcases List.mem_append.1 hw with hw | hw
        · exact Nat.lt_succ_of_lt (h.fresh w hw)
        · rw [List.mem_singleton.1 hw]
          exact Nat.lt_succ_self _
    count := h.count
    positive := h.positive
    capped := h.capped
    outstanding_le := h.outstanding_le
    blocked := fun _ => hblocked }

/-- Taking a slot that was handed over: the hand-over becomes a held slot. -/
theorem Inv.take {id : Nat} (h : Inv l held) (hg : l.isGranted id = true) :
    Inv (l.take id) (held + 1) where
  ordered := h.ordered
  fresh := h.fresh
  count := by
    have hmem : id ∈ l.granted := by simpa [isGranted] using hg
    have hpos : 0 < l.granted.length := List.length_pos_of_mem hmem
    simp only [Limiter.take, List.length_erase_of_mem hmem, h.count]
    push_cast [Nat.one_le_iff_ne_zero.2 (Nat.pos_iff_ne_zero.1 hpos)]
    ring
  positive := h.positive
  capped := h.capped
  outstanding_le := by
    have hmem : id ∈ l.granted := by simpa [isGranted] using hg
    have hpos : 0 < l.granted.length := List.length_pos_of_mem hmem
    have := h.outstanding_le
    simp only [Limiter.take, List.length_erase_of_mem hmem]
    omega
  blocked := h.blocked

/-- Giving a slot back, then serving the queue. -/
theorem Inv.release (h : Inv l held) (hp : 0 < held) : Inv l.release (held - 1) := by
  rw [release_eq]
  apply Balanced.serve
  exact {
    ordered := h.ordered
    fresh := h.fresh
    count := by
      show signedWord (l.available + 1) = (l.max : Int) - ((held - 1 : Nat) + l.granted.length)
      rw [h.release_available hp, h.count]
      push_cast [Nat.one_le_iff_ne_zero.2 (Nat.pos_iff_ne_zero.1 hp)]
      ring
    positive := h.positive
    capped := h.capped
    outstanding_le := by
      show held - 1 + l.granted.length ≤ 9223372036854775807
      have := h.outstanding_le
      omega }

/-- Giving up a wait: leaving the queue, or giving back the slot handed over. -/
theorem Inv.abandon (h : Inv l held) (id : Nat) : Inv (l.abandon id) held := by
  rw [abandon_eq]
  split_ifs with hq hg
  · exact {
      ordered := h.ordered.filter _
      fresh := fun w hw => h.fresh w (List.mem_of_mem_filter hw)
      count := h.count
      positive := h.positive
      capped := h.capped
      outstanding_le := h.outstanding_le
      blocked := fun hne => h.blocked fun hnil => hne (by simp [hnil]) }
  · have ht := h.take hg
    apply Balanced.serve
    exact {
      ordered := ht.ordered
      fresh := ht.fresh
      count := by
        show signedWord ((l.take id).available + 1) =
          ((l.take id).max : Int) - (held + (l.take id).granted.length)
        rw [ht.release_available (Nat.succ_pos held), ht.count]
        push_cast
        ring
      positive := ht.positive
      capped := ht.capped
      outstanding_le := by
        show held + (l.take id).granted.length ≤ 9223372036854775807
        have := ht.outstanding_le
        omega }
  · exact h

/-- Changing the limit, then serving the queue. -/
theorem Inv.setMax (h : Inv l held) (n : Nat) (hn : n ≤ 9223372036854775807) :
    Inv (l.setMax n).1 held := by
  have hm : Nat.max n 1 ≤ 9223372036854775807 := Nat.max_le.2 ⟨hn, by decide⟩
  rw [(setMax_eq l n).1]
  split_ifs
  · exact h
  · apply Balanced.serve
    exact {
      ordered := h.ordered
      fresh := h.fresh
      count := by
        rw [h.resized_available hm, h.count]
        simp only [resized]
        ring
      positive := Nat.lt_of_lt_of_le Nat.one_pos (Nat.le_max_right n 1)
      capped := hm
      outstanding_le := h.outstanding_le }

end Steps

/-- Each hand-off of a dispatch finds a free slot: after the `i`-th, the slots held and handed
over are still within the limit. -/
theorem Balanced.handOff_le {l : Limiter} {held : Nat} (h : Balanced l held) {i : Nat}
    (hi0 : 0 < i) (hi : i ≤ l.servable) : held + l.granted.length + i ≤ l.max := by
  have hk : l.servable ≤ l.available.toNat := min_le_right _ _
  have := h.count
  omega

/-! ### Runs -/

/-- The limiter with the number of slots that tasks hold. -/
structure Slots where
  limiter : Limiter
  held : Nat

/-- One atomic step of a task on the limiter: take a free slot, join the queue when none can
be taken, take the slot handed over, give up waiting, give a held slot back, or change the
limit to one that fits a signed word. -/
inductive Step : Slots → Slots → Prop
  | takeFree {s : Slots} {l : Limiter} : s.limiter.tryTake = some l → Step s ⟨l, s.held + 1⟩
  | join {s : Slots} (priority : Bool) : s.limiter.tryTake = none →
      Step s ⟨(s.limiter.enqueue priority).2, s.held⟩
  | takeGranted {s : Slots} (id : Nat) : s.limiter.isGranted id = true →
      Step s ⟨s.limiter.take id, s.held + 1⟩
  | abandon {s : Slots} (id : Nat) : Step s ⟨s.limiter.abandon id, s.held⟩
  | release {s : Slots} : 0 < s.held → Step s ⟨s.limiter.release, s.held - 1⟩
  | setMax {s : Slots} (n : Nat) : n ≤ 9223372036854775807 → Step s ⟨(s.limiter.setMax n).1, s.held⟩

/-- The states a limiter for `n` jobs reaches, from no slot held. -/
inductive Reachable (n : Nat) : Slots → Prop
  | init : Reachable n ⟨make n, 0⟩
  | tail {s s' : Slots} : Reachable n s → Step s s' → Reachable n s'

theorem Inv.step {s s' : Slots} (h : Inv s.limiter s.held) (hs : Step s s') :
    Inv s'.limiter s'.held := by
  cases hs with
  | takeFree ht => exact h.tryTake ht
  | join priority ht => exact h.enqueue ht priority
  | takeGranted id hg => exact h.take hg
  | abandon id => exact h.abandon id
  | release hp => exact h.release hp
  | setMax n hn => exact h.setMax n hn

theorem inv_reachable {n : Nat} (hn : n ≤ 9223372036854775807) {s : Slots} (h : Reachable n s) :
    Inv s.limiter s.held := by
  induction h with
  | init => exact inv_make n hn
  | tail _ hs ih => exact ih.step hs

/-- The limiter's safety, with every limit at most 2^63 - 1: every state it reaches keeps the
invariant; a dispatch hands slots to the head of the queue, as many as wait and are free, each
within the limit; a slot is taken at once only when one is free and nobody waits; and giving a
slot back or changing the limit serves the queue from the free count that results, which does
not wrap. -/
theorem serves_in_order_within_limit (n : Nat) (hn : n ≤ 9223372036854775807) :
    (∀ s, Reachable n s → Inv s.limiter s.held) ∧
    (∀ (l : Limiter) (held : Nat), Balanced l held →
      l.dispatch = (l.serve (min l.waiters.length l.available.toNat),
        min l.waiters.length l.available.toNat) ∧
      ∀ i, 0 < i → i ≤ min l.waiters.length l.available.toNat →
        held + l.granted.length + i ≤ l.max) ∧
    (∀ l l' : Limiter, l.tryTake = some l' ↔
      0 < l.available ∧ l.waiters = [] ∧ l' = { l with available := l.available - 1 }) ∧
    (∀ (l : Limiter) (held : Nat), Balanced l held → 0 < held →
      l.release = ({ l with available := l.available + 1 } : Limiter).serve
        (min l.waiters.length (l.available + 1).toNat)) ∧
    (∀ (l : Limiter) (held n : Nat), Balanced l held → n ≤ 9223372036854775807 →
      l.max ≠ Nat.max n 1 →
      (l.setMax n).1 =
        ({ l with max := Nat.max n 1, available := l.available + (Nat.max n 1 : Nat) - l.max } : Limiter).serve
          (min l.waiters.length (l.available + (Nat.max n 1 : Nat) - l.max).toNat) ∧
      (l.setMax n).2.1 = min l.waiters.length (l.available + (Nat.max n 1 : Nat) - l.max).toNat) := by
  refine ⟨fun _ => inv_reachable hn, fun l _ h => ⟨dispatch_eq l, fun _ hi0 hi => h.handOff_le hi0 hi⟩,
    fun _ _ => tryTake_eq_some, fun l held h hp => ?_, fun l held n h hn' hm => ?_⟩
  · rw [release_eq, h.release_available hp]
    rfl
  · have hresized : l.resized (Nat.max n 1) =
        { l with max := Nat.max n 1, available := l.available + (Nat.max n 1 : Nat) - l.max } := by
      rw [← h.resized_available (Nat.max_le.2 ⟨hn', by decide⟩)]
      rfl
    simp only [setMax_eq, if_neg hm, hresized]
    exact ⟨rfl, rfl⟩

/-- With one slot held, an ordinary waiter and then a priority waiter queue; the slot given back
goes to the priority waiter. -/
theorem serves_priority_first :
    Reachable 1 ⟨(((({ make 1 with available := 0 } : Limiter).enqueue false).2.enqueue true).2).release, 0⟩ ∧
    Inv (((({ make 1 with available := 0 } : Limiter).enqueue false).2.enqueue true).2).release 0 ∧
    ((((({ make 1 with available := 0 } : Limiter).enqueue false).2.enqueue true).2).release).granted = [1] := by
  have h1 : Reachable 1 ⟨{ make 1 with available := 0 }, 1⟩ := .tail .init (.takeFree rfl)
  have h4 := ((h1.tail (.join false rfl)).tail (.join true rfl)).tail (.release Nat.one_pos)
  exact ⟨h4, (serves_in_order_within_limit 1 (by decide)).1 _ h4, rfl⟩

end Limiter

end SubtitleQueue.Concurrency
