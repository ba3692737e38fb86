import Mathlib
import SubtitleQueue.Cancel.Registry

/-!
The cancellation registry over a history of calls: registrations with and without a guard,
drops of guards, cancellations and removals, played by `Session.run` from an empty registry.
A guard is named by the registration that made it, counted from zero, and registration `k`
hands out token `k`.

Main statement (`registry_follows_history`): a request is registered exactly when its latest
registration is `Live`, no later call having removed the request, registered it again or
dropped that registration's own guard; cancelling a request sets the token of that
registration and no other, and answers whether there was one; a stale guard leaves a newer
registration alone; the registry's size is the number of requests with a live registration;
and cancelling after a removal, cancelling twice and removing twice change nothing.
-/

namespace SubtitleQueue.Cancel

/-- A call on the registry. -/
inductive Op where
  | register (request : Int)
  | guarded (request : Int)
  | drop (registration : Nat)
  | cancel (request : Int)
  | unregister (request : Int)
  deriving DecidableEq, Repr

/-- The request a call registers, if it registers one. -/
def Op.registers : Op → Option Int
  | .register r | .guarded r => some r
  | _ => none

/-- The number of registrations a history makes, which is the number the next one gets. -/
def registrations (ops : List Op) : Nat := (ops.filterMap Op.registers).length

/-- Whether call `o'` ends registration `k` of `request`, made by call `o`: it removes the
request, registers it again, or drops the guard of that registration. -/
def Ends (request : Int) (k : Nat) (o : Op) : Op → Prop
  | .register r | .guarded r | .unregister r => r = request
  | .drop j => j = k ∧ o = .guarded request
  | .cancel _ => False

/-- Registration `k` of `request`, made by call `o`, is live after a history: the history made
it and no later call ended it. -/
def LiveBy (ops : List Op) (request : Int) (k : Nat) (o : Op) : Prop :=
  ∃ pre post, ops = pre ++ o :: post ∧ o.registers = some request ∧ registrations pre = k ∧
    ∀ o' ∈ post, ¬ Ends request k o o'

/-- Registration `k` of `request` is live after a history. -/
def Live (ops : List Op) (request : Int) (k : Nat) : Prop := ∃ o, LiveBy ops request k o

/-- The registry, its tokens, and the guards held, each with its registration's number and its
request. -/
structure Session where
  registry : Registry := {}
  tokens : Tokens := {}
  guards : List (Nat × Int) := []

namespace Session

/-- Registers a request under a fresh token; also the registration's number. -/
def enroll (s : Session) (request : Int) : Session × Nat :=
  let (t, tokens) := s.tokens.fresh
  let (g, registry) := s.registry.register request t
  ({ s with registry, tokens }, g)

/-- One call. Dropping a guard that is not held does nothing. -/
def step (s : Session) : Op → Session
  | .register r => (s.enroll r).1
  | .guarded r => { (s.enroll r).1 with guards := s.guards ++ [((s.enroll r).2, r)] }
  | .drop k =>
    match s.guards.find? (·.1 == k) with
    | some (_, r) => { s with registry := s.registry.release r k, guards := s.guards.filter (·.1 != k) }
    | none => s
  | .cancel r => { s with tokens := (cancelRequest s.registry s.tokens r).2 }
  | .unregister r => { s with registry := s.registry.unregister r }

/-- A history played from an empty registry. -/
def run (ops : List Op) : Session := ops.foldl step {}

theorem run_append_singleton (ops : List Op) (o : Op) : run (ops ++ [o]) = (run ops).step o := by
  simp [run]

end Session

/-! ### Tokens and the registry -/

namespace Tokens

@[simp] theorem fresh_fst (ts : Tokens) : ts.fresh.1 = ts.flags.size := rfl

@[simp] theorem size_fresh (ts : Tokens) : ts.fresh.2.flags.size = ts.flags.size + 1 := by
  simp [fresh]

@[simp] theorem size_cancel (ts : Tokens) (t : Nat) : (ts.cancel t).flags.size = ts.flags.size := by
  simp [cancel]

/-- Setting a token that exists sets it and no other. -/
theorem isCancelled_cancel (ts : Tokens) {t : Nat} (h : t < ts.flags.size) (t' : Nat) :
    (ts.cancel t).isCancelled t' = (ts.isCancelled t' || t' == t) := by
  by_cases ht : t = t'
  · subst ht
    simp [isCancelled, cancel, Array.getD_eq_getD_getElem?, h]
  · have hne : (t' == t) = false := beq_eq_false_iff_ne.2 (Ne.symm ht)
    simp [isCancelled, cancel, Array.getD_eq_getD_getElem?, ht, hne]

theorem cancel_cancel (ts : Tokens) (t : Nat) : (ts.cancel t).cancel t = ts.cancel t := by
  simp [cancel, Array.setIfInBounds_setIfInBounds]

end Tokens

namespace Registry

variable (reg : Registry) (q r : Int) (t g : Nat) (e : Entry)

@[simp] theorem register_fst : (reg.register q t).1 = reg.nextGeneration := rfl

@[simp] theorem nextGeneration_register :
    (reg.register q t).2.nextGeneration = reg.nextGeneration + 1 := rfl

@[simp] theorem mem_register :
    e ∈ (reg.register q t).2.entries ↔
      (e ∈ reg.entries ∧ e.request ≠ q) ∨ e = ⟨q, reg.nextGeneration, t⟩ := by
  simp [register]

@[simp] theorem mem_unregister : e ∈ (reg.unregister q).entries ↔ e ∈ reg.entries ∧ e.request ≠ q := by
  simp [unregister]

@[simp] theorem mem_release :
    e ∈ (reg.release q g).entries ↔ e ∈ reg.entries ∧ (e.request = q → e.generation ≠ g) := by
  simp [release, imp_iff_not_or]

@[simp] theorem nextGeneration_unregister : (reg.unregister q).nextGeneration = reg.nextGeneration := rfl

@[simp] theorem nextGeneration_release : (reg.release q g).nextGeneration = reg.nextGeneration := rfl

theorem isRegistered_iff : reg.isRegistered q = true ↔ ∃ e ∈ reg.entries, e.request = q := by
  simp [isRegistered]

/-- With one entry per request, a request's token is the token of its entry. -/
theorem token?_eq_some_iff (h : (reg.entries.map (·.request)).Nodup) :
    reg.token? q = some t ↔ ∃ e ∈ reg.entries, e.request = q ∧ e.token = t := by
  constructor
  · intro ht
    obtain ⟨e, he, rfl⟩ := Option.map_eq_some_iff.1 ht
    exact ⟨e, List.mem_of_find?_eq_some he, by simpa using List.find?_some he, rfl⟩
  · rintro ⟨e, he, rfl, rfl⟩
    obtain ⟨e', he'⟩ := Option.isSome_iff_exists.1
      ((List.find?_isSome (p := fun x => x.request == e.request)).2 ⟨e, he, by simp⟩)
    have hq : e'.request = e.request := by simpa using List.find?_some he'
    have : e' = e := List.inj_on_of_nodup_map h (List.mem_of_find?_eq_some he') he hq
    simp [token?, he', this]

theorem token?_eq_none_iff : reg.token? q = none ↔ reg.isRegistered q = false := by
  simp [token?, isRegistered, List.find?_eq_none]

theorem token?_unregister : (reg.unregister q).token? q = none := by
  simp [token?, unregister, List.find?_eq_none]

theorem unregister_unregister : (reg.unregister q).unregister q = reg.unregister q := by
  simp [unregister, List.filter_filter]

end Registry

/-! ### Histories -/

theorem registrations_append (a b : List Op) :
    registrations (a ++ b) = registrations a + registrations b := by
  simp [registrations]

theorem registrations_singleton (o : Op) :
    registrations [o] = if o.registers.isSome then 1 else 0 := by
  cases h : o.registers <;> simp [registrations, h]

theorem registrations_lt {o : Op} (ho : o.registers.isSome) (pre mid : List Op) :
    registrations pre < registrations (pre ++ o :: mid) := by
  have : registrations [o] = 1 := by simp [registrations_singleton, ho]
  rw [show pre ++ o :: mid = pre ++ [o] ++ mid by simp, registrations_append,
    registrations_append]
  omega

/-- A history has one registration of each number: two registering calls at the same count
are the same call. -/
theorem split_unique {pre pre' post post' : List Op} {o o' : Op}
    (h : pre ++ o :: post = pre' ++ o' :: post') (ho : o.registers.isSome)
    (ho' : o'.registers.isSome) (hk : registrations pre = registrations pre') :
    pre = pre' ∧ o = o' ∧ post = post' := by
  rcases List.append_eq_append_iff.1 h with ⟨a, rfl, ha⟩ | ⟨c, rfl, hc⟩
  · cases a with
    | nil => simp_all
    | cons b a =>
      obtain ⟨rfl, -⟩ := List.cons_eq_cons.1 ha
      exact absurd hk (Nat.ne_of_lt (registrations_lt ho pre a))
  · cases c with
    | nil => simp_all
    | cons b c =>
      obtain ⟨rfl, -⟩ := List.cons_eq_cons.1 hc
      exact absurd hk.symm (Nat.ne_of_lt (registrations_lt ho' pre' c))

/-- A split of a history with one more call: at that call, or inside the history. -/
theorem exists_split_append_singleton {ops : List Op} {x o : Op} {P : List Op → List Op → Prop} :
    (∃ pre post, ops ++ [x] = pre ++ o :: post ∧ P pre post) ↔
      (o = x ∧ P ops []) ∨ ∃ pre post, ops = pre ++ o :: post ∧ P pre (post ++ [x]) := by
  constructor
  · rintro ⟨pre, post, heq, hp⟩
    rcases List.eq_nil_or_concat post with rfl | ⟨post, y, rfl⟩
    · obtain ⟨rfl, h⟩ := List.append_inj' heq rfl
      exact .inl ⟨(List.cons_eq_cons.1 h).1.symm, hp⟩
    · have h2 : ops ++ [x] = (pre ++ o :: post) ++ [y] := by simp [heq]
      obtain ⟨rfl, h⟩ := List.append_inj' h2 rfl
      obtain ⟨rfl, -⟩ := List.cons_eq_cons.1 h
      exact .inr ⟨pre, post, rfl, by simpa using hp⟩
  · rintro (⟨rfl, hp⟩ | ⟨pre, post, rfl, hp⟩)
    · exact ⟨ops, [], by simp, hp⟩
    · exact ⟨pre, post ++ [x], by simp, hp⟩

theorem liveBy_nil (r : Int) (k : Nat) (o : Op) : ¬ LiveBy [] r k o := by
  rintro ⟨pre, post, h, -⟩
  simp at h

/-- One more call keeps a live registration unless it ends it, and may make a new one. -/
theorem live_append_singleton {ops : List Op} {x : Op} {r : Int} {k : Nat} :
    Live (ops ++ [x]) r k ↔
      (x.registers = some r ∧ registrations ops = k) ∨ ∃ o, LiveBy ops r k o ∧ ¬ Ends r k o x := by
  simp only [Live, LiveBy]
  constructor
  · rintro ⟨o, hsplit⟩
    rcases (exists_split_append_singleton (P := fun pre post => o.registers = some r ∧
        registrations pre = k ∧ ∀ o' ∈ post, ¬ Ends r k o o')).1 hsplit with
      ⟨rfl, hreg, hk, -⟩ | ⟨pre, post, rfl, hreg, hk, hpost⟩
    · exact .inl ⟨hreg, hk⟩
    · refine .inr ⟨o, ⟨pre, post, rfl, hreg, hk, fun o' h => hpost o' (by simp [h])⟩, ?_⟩
      exact hpost x (by simp)
  · rintro (⟨hreg, hk⟩ | ⟨o, ⟨pre, post, rfl, hreg, hk, hpost⟩, hx⟩)
    · exact ⟨x, ops, [], by simp, hreg, hk, by simp⟩
    · refine ⟨o, pre, post ++ [x], by simp, hreg, hk, fun o' ho' => ?_⟩
      rcases List.mem_append.1 ho' with h | h
      · exact hpost o' h
      · rw [List.mem_singleton.1 h]
        exact hx

/-- A registering call ends every other registration of its request, and only those. -/
theorem live_append_registers {ops : List Op} {x : Op} {q : Int} (hx : x.registers = some q)
    (r : Int) (k : Nat) :
    Live (ops ++ [x]) r k ↔ (q = r ∧ registrations ops = k) ∨ (Live ops r k ∧ q ≠ r) := by
  have hends : ∀ o, Ends r k o x ↔ q = r := by
    intro o
    cases x <;> simp_all [Op.registers, Ends]
  rw [live_append_singleton, hx]
  simp only [Option.some.injEq, hends, Live]
  constructor
  · rintro (h | ⟨o, ho, hq⟩)
    · exact .inl h
    · exact .inr ⟨⟨o, ho⟩, hq⟩
  · rintro (h | ⟨⟨o, ho⟩, hq⟩)
    · exact .inl h
    · exact .inr ⟨o, ho, hq⟩

/-- A call that neither registers nor drops ends the registrations it removes. -/
theorem live_append_of_registers_none {ops : List Op} {x : Op} (hx : x.registers = none)
    (hdrop : ∀ j, x ≠ .drop j) (r : Int) (k : Nat) :
    Live (ops ++ [x]) r k ↔ Live ops r k ∧ x ≠ .unregister r := by
  have hends : ∀ o, Ends r k o x ↔ x = .unregister r := by
    intro o
    cases x <;> simp_all [Op.registers, Ends]
  rw [live_append_singleton, hx]
  simp only [reduceCtorEq, false_and, false_or, hends, Live]
  constructor
  · rintro ⟨o, ho, hq⟩
    exact ⟨⟨o, ho⟩, hq⟩
  · rintro ⟨⟨o, ho⟩, hq⟩
    exact ⟨o, ho, hq⟩

/-- A call that is not a drop of guard `k` keeps the guarded registrations whose guard `k` is
not dropped, and a guarded registration adds its own. -/
theorem guarded_append_singleton {ops : List Op} {x : Op} {k : Nat} {r : Int} :
    (∃ pre post, ops ++ [x] = pre ++ .guarded r :: post ∧ registrations pre = k ∧ .drop k ∉ post) ↔
      (x = .guarded r ∧ registrations ops = k) ∨
        ((∃ pre post, ops = pre ++ .guarded r :: post ∧ registrations pre = k ∧ .drop k ∉ post) ∧
          x ≠ .drop k) := by
  rw [exists_split_append_singleton (P := fun pre post => registrations pre = k ∧ .drop k ∉ post)]
  constructor
  · rintro (⟨rfl, hk, -⟩ | ⟨pre, post, rfl, hk, hpost⟩)
    · exact .inl ⟨rfl, hk⟩
    · simp only [List.mem_append, List.mem_singleton, not_or] at hpost
      exact .inr ⟨⟨pre, post, rfl, hk, hpost.1⟩, Ne.symm hpost.2⟩
  · rintro (⟨rfl, hk⟩ | ⟨⟨pre, post, rfl, hk, hpost⟩, hx⟩)
    · exact .inl ⟨rfl, hk, List.not_mem_nil⟩
    · exact .inr ⟨pre, post, rfl, hk, by simp [hpost, Ne.symm hx]⟩

/-! ### What a session keeps of its history -/

/-- The registry and the tokens follow a history: registrations and tokens are numbered as the
history counts them, each entry's token is its generation, there is one entry per request, and
the entries are exactly the live registrations. -/
structure Tracks (reg : Registry) (ts : Tokens) (ops : List Op) : Prop where
  next : reg.nextGeneration = registrations ops
  size : ts.flags.size = registrations ops
  token : ∀ e ∈ reg.entries, e.token = e.generation
  below : ∀ e ∈ reg.entries, e.generation < registrations ops
  nodup : (reg.entries.map (·.request)).Nodup
  entry : ∀ r k, (∃ e ∈ reg.entries, e.request = r ∧ e.generation = k) ↔ Live ops r k

/-- The guards held are those of the guarded registrations whose guard was not dropped. -/
def Guards (guards : List (Nat × Int)) (ops : List Op) : Prop :=
  ∀ k r, (k, r) ∈ guards ↔
    ∃ pre post, ops = pre ++ .guarded r :: post ∧ registrations pre = k ∧ .drop k ∉ post

/-- A session follows the history that made it. -/
structure Follows (s : Session) (ops : List Op) : Prop where
  tracks : Tracks s.registry s.tokens ops
  guards : Guards s.guards ops

namespace Session

variable (s : Session) (r : Int) (k : Nat)

@[simp] theorem enroll_fst : (s.enroll r).1 =
    { s with registry := (s.registry.register r s.tokens.flags.size).2, tokens := s.tokens.fresh.2 } := rfl

@[simp] theorem step_register : s.step (.register r) = (s.enroll r).1 := rfl

@[simp] theorem step_guarded :
    s.step (.guarded r) = { (s.enroll r).1 with guards := s.guards ++ [(s.registry.nextGeneration, r)] } :=
  rfl

@[simp] theorem step_cancel :
    s.step (.cancel r) = { s with tokens := (cancelRequest s.registry s.tokens r).2 } := rfl

@[simp] theorem step_unregister :
    s.step (.unregister r) = { s with registry := s.registry.unregister r } := rfl

theorem step_drop_of_none (h : s.guards.find? (·.1 == k) = none) : s.step (.drop k) = s := by
  simp [step, h]

theorem step_drop_of_some {j : Nat} (h : s.guards.find? (·.1 == k) = some (j, r)) :
    s.step (.drop k) =
      { s with registry := s.registry.release r k, guards := s.guards.filter (·.1 != k) } := by
  simp [step, h]

end Session

section Steps

variable {reg : Registry} {ts : Tokens} {ops : List Op}

theorem tracks_empty : Tracks {} {} [] where
  next := rfl
  size := rfl
  token := by simp
  below := by simp
  nodup := by simp
  entry r k := by simp [Live, liveBy_nil]

theorem Tracks.register (h : Tracks reg ts ops) {x : Op} {q : Int} (hx : x.registers = some q) :
    Tracks (reg.register q ts.flags.size).2 ts.fresh.2 (ops ++ [x]) := by
  have hcount : registrations (ops ++ [x]) = registrations ops + 1 := by
    simp [registrations_append, registrations_singleton, hx]
  refine ⟨by simp [h.next, hcount], by simp [h.size, hcount], ?_, ?_, ?_, ?_⟩
  · intro e he
    rcases (Registry.mem_register ..).1 he with ⟨he, -⟩ | rfl
    · exact h.token e he
    · simp [h.next, h.size]
  · intro e he
    rcases (Registry.mem_register ..).1 he with ⟨he, -⟩ | rfl
    · have := h.below e he
      omega
    · simp [h.next, hcount]
  · simp only [Registry.register, List.map_append, List.map_cons, List.map_nil]
    refine List.nodup_append.2 ⟨h.nodup.sublist ((List.filter_sublist).map _), by simp, ?_⟩
    simpa using fun _ _ _ hq ha => ha ▸ hq
  · intro r k
    rw [live_append_registers hx, ← h.entry]
    simp only [Registry.mem_register]
    constructor
    · rintro ⟨e, (⟨he, hq⟩ | rfl), rfl, rfl⟩
      · exact .inr ⟨⟨e, he, rfl, rfl⟩, Ne.symm hq⟩
      · exact .inl ⟨rfl, h.next.symm⟩
    · rintro (⟨rfl, rfl⟩ | ⟨⟨e, he, rfl, rfl⟩, hq⟩)
      · exact ⟨_, .inr rfl, rfl, h.next⟩
      · exact ⟨e, .inl ⟨he, Ne.symm hq⟩, rfl, rfl⟩

theorem Tracks.unregister (h : Tracks reg ts ops) (q : Int) :
    Tracks (reg.unregister q) ts (ops ++ [.unregister q]) := by
  have hcount : registrations (ops ++ [.unregister q]) = registrations ops := by
    simp [registrations_append, registrations_singleton, Op.registers]
  refine ⟨by simp [h.next, hcount], by simp [h.size, hcount], fun e he => h.token e ((Registry.mem_unregister ..).1 he).1,
    fun e he => hcount ▸ h.below e ((Registry.mem_unregister ..).1 he).1,
    h.nodup.sublist ((List.filter_sublist).map _), fun r k => ?_⟩
  rw [live_append_of_registers_none rfl (by simp), ← h.entry]
  simp only [Registry.mem_unregister, ne_eq, Op.unregister.injEq]
  constructor
  · rintro ⟨e, ⟨he, hq⟩, rfl, rfl⟩
    exact ⟨⟨e, he, rfl, rfl⟩, Ne.symm hq⟩
  · rintro ⟨⟨e, he, rfl, rfl⟩, hq⟩
    exact ⟨e, ⟨he, Ne.symm hq⟩, rfl, rfl⟩

theorem Tracks.cancel (h : Tracks reg ts ops) (q : Int) (ts' : Tokens)
    (hsize : ts'.flags.size = ts.flags.size) : Tracks reg ts' (ops ++ [.cancel q]) := by
  have hcount : registrations (ops ++ [.cancel q]) = registrations ops := by
    simp [registrations_append, registrations_singleton, Op.registers]
  refine ⟨by simp [h.next, hcount], by simp [hsize, h.size, hcount], h.token,
    fun e he => hcount ▸ h.below e he, h.nodup, fun r k => ?_⟩
  rw [live_append_of_registers_none rfl (by simp), h.entry]
  simp

/-- Dropping a guard that is not held changes nothing: the registration it would end was never
guarded, or its guard is gone already. -/
theorem Tracks.drop_none (h : Tracks reg ts ops) {guards : List (Nat × Int)} (hg : Guards guards ops)
    {j : Nat} (hnone : guards.find? (·.1 == j) = none) : Tracks reg ts (ops ++ [.drop j]) := by
  have hcount : registrations (ops ++ [.drop j]) = registrations ops := by
    simp [registrations_append, registrations_singleton, Op.registers]
  refine ⟨by simp [h.next, hcount], by simp [h.size, hcount], h.token,
    fun e he => hcount ▸ h.below e he, h.nodup, fun r k => ?_⟩
  rw [h.entry, live_append_singleton]
  simp only [Op.registers, reduceCtorEq, false_and, false_or]
  constructor
  · rintro ⟨o, ho⟩
    refine ⟨o, ho, ?_⟩
    rintro ⟨rfl, rfl⟩
    -- the registration is live, so its guard is still held
    obtain ⟨pre, post, rfl, -, hk, hpost⟩ := ho
    have hheld := (hg j r).2 ⟨pre, post, rfl, hk, fun hd => hpost _ hd ⟨rfl, rfl⟩⟩
    exact List.find?_eq_none.1 hnone _ hheld (by simp)
  · rintro ⟨o, ho, -⟩
    exact ⟨o, ho⟩

/-- Dropping a held guard ends its own registration, if that is still live, and no other. -/
theorem Tracks.drop_some (h : Tracks reg ts ops) {guards : List (Nat × Int)} (hg : Guards guards ops)
    {j : Nat} {q : Int} (hheld : (j, q) ∈ guards) : Tracks (reg.release q j) ts (ops ++ [.drop j]) := by
  have hcount : registrations (ops ++ [.drop j]) = registrations ops := by
    simp [registrations_append, registrations_singleton, Op.registers]
  obtain ⟨pre₁, post₁, hops, hk₁, -⟩ := (hg j q).1 hheld
  -- the registration numbered `j` is the guarded registration of `q`
  have hsame : ∀ r k o, LiveBy ops r k o → ((j = k ∧ o = .guarded r) ↔ (r = q ∧ k = j)) := by
    rintro r k o ⟨pre, post, rfl, hreg, hk, -⟩
    constructor
    · rintro ⟨rfl, rfl⟩
      obtain ⟨-, ho, -⟩ := split_unique hops (by simp [Op.registers]) (by simp [Op.registers])
        (hk.trans hk₁.symm)
      exact ⟨Op.guarded.inj ho, rfl⟩
    · rintro ⟨rfl, rfl⟩
      obtain ⟨-, ho, -⟩ := split_unique hops (by simp [hreg]) (by simp [Op.registers])
        (hk.trans hk₁.symm)
      exact ⟨rfl, ho⟩
  refine ⟨by simp [h.next, hcount], by simp [h.size, hcount],
    fun e he => h.token e ((Registry.mem_release ..).1 he).1,
    fun e he => hcount ▸ h.below e ((Registry.mem_release ..).1 he).1,
    h.nodup.sublist ((List.filter_sublist).map _), fun r k => ?_⟩
  rw [live_append_singleton]
  simp only [Registry.mem_release, Op.registers, reduceCtorEq, false_and, false_or, Ends]
  constructor
  · rintro ⟨e, ⟨he, hne⟩, rfl, rfl⟩
    obtain ⟨o, ho⟩ := (h.entry _ _).1 ⟨e, he, rfl, rfl⟩
    refine ⟨o, ho, fun hend => ?_⟩
    obtain ⟨rfl, rfl⟩ := (hsame _ _ o ho).1 hend
    exact hne rfl rfl
  · rintro ⟨o, ho, hend⟩
    obtain ⟨e, he, rfl, rfl⟩ := (h.entry r k).2 ⟨o, ho⟩
    exact ⟨e, ⟨he, fun hq hj => hend ((hsame _ _ o ho).2 ⟨hq, hj⟩)⟩, rfl, rfl⟩

end Steps

section Guarding

variable {guards : List (Nat × Int)} {ops : List Op}

theorem guards_empty : Guards [] [] := by
  intro k r
  simp

/-- A call that neither makes a guard nor drops one keeps the guards. -/
theorem Guards.keep (h : Guards guards ops) {x : Op} (hg : ∀ r, x ≠ .guarded r)
    (hd : ∀ j, x ≠ .drop j) : Guards guards (ops ++ [x]) := by
  intro k r
  rw [guarded_append_singleton, h k r]
  simp [hg r, hd k]

theorem Guards.guarded (h : Guards guards ops) (q : Int) :
    Guards (guards ++ [(registrations ops, q)]) (ops ++ [.guarded q]) := by
  intro k r
  rw [guarded_append_singleton, List.mem_append, h k r]
  simp only [List.mem_singleton, Prod.mk.injEq, Op.guarded.injEq, ne_eq, reduceCtorEq,
    not_false_eq_true, and_true]
  constructor
  · rintro (hk | ⟨rfl, rfl⟩)
    · exact .inr hk
    · exact .inl ⟨rfl, rfl⟩
  · rintro (⟨rfl, rfl⟩ | hk)
    · exact .inr ⟨rfl, rfl⟩
    · exact .inl hk

theorem Guards.drop_none (h : Guards guards ops) {j : Nat} (hnone : guards.find? (·.1 == j) = none) :
    Guards guards (ops ++ [.drop j]) := by
  intro k r
  rw [guarded_append_singleton, ← h k r]
  simp only [reduceCtorEq, false_and, false_or, ne_eq, Op.drop.injEq]
  constructor
  · intro hk
    exact ⟨hk, fun hjk => List.find?_eq_none.1 hnone _ hk (by simp [hjk])⟩
  · exact And.left

theorem Guards.drop_some (h : Guards guards ops) (j : Nat) :
    Guards (guards.filter (·.1 != j)) (ops ++ [.drop j]) := by
  intro k r
  rw [guarded_append_singleton, ← h k r, List.mem_filter]
  simp only [reduceCtorEq, false_and, false_or, ne_eq, Op.drop.injEq, bne_iff_ne]
  exact and_congr_right fun _ => not_congr eq_comm

end Guarding

@[simp] theorem size_cancelRequest (reg : Registry) (ts : Tokens) (r : Int) :
    (cancelRequest reg ts r).2.flags.size = ts.flags.size := by
  unfold cancelRequest
  split <;> simp

/-- Each call keeps a session following its history. -/
theorem Follows.step {s : Session} {ops : List Op} (h : Follows s ops) (x : Op) :
    Follows (s.step x) (ops ++ [x]) := by
  cases x with
  | register q => exact ⟨h.tracks.register rfl, h.guards.keep (by simp) (by simp)⟩
  | guarded q =>
    refine ⟨h.tracks.register rfl, ?_⟩
    simpa [h.tracks.next] using h.guards.guarded q
  | drop j =>
    cases hfind : s.guards.find? (·.1 == j) with
    | none =>
      rw [Session.step_drop_of_none s j hfind]
      exact ⟨h.tracks.drop_none h.guards hfind, h.guards.drop_none hfind⟩
    | some g =>
      obtain ⟨j', q⟩ := g
      have hj : j' = j := by simpa using List.find?_some hfind
      subst hj
      rw [Session.step_drop_of_some s q j' hfind]
      exact ⟨h.tracks.drop_some h.guards (List.mem_of_find?_eq_some hfind), h.guards.drop_some j'⟩
  | cancel q => exact ⟨h.tracks.cancel q _ (by simp), h.guards.keep (by simp) (by simp)⟩
  | unregister q => exact ⟨h.tracks.unregister q, h.guards.keep (by simp) (by simp)⟩

/-- A session played from an empty registry follows its history. -/
theorem follows_run (ops : List Op) : Follows (Session.run ops) ops := by
  induction ops using List.reverseRecOn with
  | nil => exact ⟨tracks_empty, guards_empty⟩
  | append_singleton ops x ih =>
    rw [Session.run_append_singleton]
    exact ih.step x

/-! ### What a follower answers -/

section Answers

variable {reg : Registry} {ts : Tokens} {ops : List Op}

theorem Tracks.isRegistered_iff (h : Tracks reg ts ops) (r : Int) :
    reg.isRegistered r = true ↔ ∃ k, Live ops r k := by
  rw [Registry.isRegistered_iff]
  constructor
  · rintro ⟨e, he, rfl⟩
    exact ⟨e.generation, (h.entry _ _).1 ⟨e, he, rfl, rfl⟩⟩
  · rintro ⟨k, hk⟩
    obtain ⟨e, he, rfl, -⟩ := (h.entry r k).2 hk
    exact ⟨e, he, rfl⟩

theorem Tracks.token?_eq_some_iff (h : Tracks reg ts ops) (r : Int) (k : Nat) :
    reg.token? r = some k ↔ Live ops r k := by
  rw [Registry.token?_eq_some_iff _ _ _ h.nodup, ← h.entry]
  constructor
  · rintro ⟨e, he, hr, rfl⟩
    exact ⟨e, he, hr, (h.token e he).symm⟩
  · rintro ⟨e, he, hr, rfl⟩
    exact ⟨e, he, hr, h.token e he⟩

theorem cancelRequest_fst (reg : Registry) (ts : Tokens) (r : Int) :
    (cancelRequest reg ts r).1 = reg.isRegistered r := by
  unfold cancelRequest
  cases hk : reg.token? r with
  | none => exact ((Registry.token?_eq_none_iff reg r).1 hk).symm
  | some k =>
    have hsome : (reg.token? r).isSome = true := by simp [hk]
    simp only [Registry.token?, Option.isSome_map, List.find?_isSome] at hsome
    simpa [Registry.isRegistered, List.any_eq_true] using hsome

/-- Cancelling a request sets the token of its live registration and no other. -/
theorem Tracks.cancel_isCancelled (h : Tracks reg ts ops) (r : Int) (t : Nat) :
    (cancelRequest reg ts r).2.isCancelled t = true ↔ ts.isCancelled t = true ∨ Live ops r t := by
  unfold cancelRequest
  cases hk : reg.token? r with
  | none =>
    have hdead : ¬ Live ops r t := fun hl => by
      rw [(h.token?_eq_some_iff r t).2 hl] at hk
      cases hk
    simp [hdead]
  | some k =>
    have hl := (h.token?_eq_some_iff r k).1 hk
    have hlt : k < ts.flags.size := by
      obtain ⟨e, he, rfl, rfl⟩ := (h.entry r k).2 hl
      rw [h.size]
      exact h.below e he
    have hsame : Live ops r t ↔ t = k := by
      rw [← h.token?_eq_some_iff, hk, Option.some.injEq, eq_comm]
    simp only [Tokens.isCancelled_cancel ts hlt, Bool.or_eq_true, beq_iff_eq, hsame]

/-- The registry counts the requests with a live registration. -/
theorem Tracks.size_eq (h : Tracks reg ts ops) : reg.size = {r | ∃ k, Live ops r k}.ncard := by
  have hset : {r | ∃ k, Live ops r k} = ↑(reg.entries.map (·.request)).toFinset := by
    ext r
    simp [← h.isRegistered_iff, Registry.isRegistered_iff]
  rw [hset, Set.ncard_coe_finset, List.toFinset_card_of_nodup h.nodup, List.length_map]
  rfl

end Answers

namespace Session

variable (s : Session) (r : Int)

/-- Cancelling a removed request finds nothing and changes nothing. -/
theorem cancel_after_unregister :
    (cancelRequest (s.step (.unregister r)).registry (s.step (.unregister r)).tokens r).1 = false ∧
      (s.step (.unregister r)).step (.cancel r) = s.step (.unregister r) := by
  simp [cancelRequest, Registry.token?_unregister]

/-- A second cancel answers as the first and changes nothing. -/
theorem cancel_twice :
    (cancelRequest (s.step (.cancel r)).registry (s.step (.cancel r)).tokens r).1 =
        (cancelRequest s.registry s.tokens r).1 ∧
      (s.step (.cancel r)).step (.cancel r) = s.step (.cancel r) := by
  simp only [step_cancel, cancelRequest_fst, true_and]
  unfold cancelRequest
  cases s.registry.token? r <;> simp [Tokens.cancel_cancel]

/-- A second removal changes nothing. -/
theorem unregister_twice : (s.step (.unregister r)).step (.unregister r) = s.step (.unregister r) := by
  simp [Registry.unregister_unregister]

end Session

/-- Dropping the guard of another registration does not end the one a request holds. -/
theorem token?_after_stale_drop (ops : List Op) (r : Int) (j k : Nat)
    (hk : (Session.run ops).registry.token? r = some k) (hjk : j ≠ k) :
    ((Session.run ops).step (.drop j)).registry.token? r = some k := by
  have h := (follows_run ops).tracks
  have h' := (follows_run (ops ++ [.drop j])).tracks
  rw [Session.run_append_singleton] at h'
  rw [h'.token?_eq_some_iff, live_append_singleton]
  obtain ⟨o, ho⟩ := (h.token?_eq_some_iff r k).1 hk
  exact .inr ⟨o, ho, fun hend => hjk hend.1⟩

/-- The registry over any history of calls: a request is registered exactly when its latest
registration is live; that registration's number is the token it was handed; cancelling
answers whether the request is registered and sets that token and no other; dropping a stale
guard leaves the newer registration in place; the size counts the live requests; and a cancel
after a removal, a second cancel and a second removal change nothing. -/
theorem registry_follows_history (ops : List Op) (r : Int) :
    let s := Session.run ops
    ((s.registry.isRegistered r = true ↔ ∃ k, Live ops r k) ∧
      (∀ k, s.registry.token? r = some k ↔ Live ops r k) ∧
      s.tokens.fresh.1 = registrations ops ∧
      (cancelRequest s.registry s.tokens r).1 = s.registry.isRegistered r ∧
      (∀ t, (cancelRequest s.registry s.tokens r).2.isCancelled t = true ↔
        s.tokens.isCancelled t = true ∨ Live ops r t) ∧
      (∀ j k, s.registry.token? r = some k → j ≠ k → (s.step (.drop j)).registry.token? r = some k) ∧
      s.registry.size = {q | ∃ k, Live ops q k}.ncard) ∧
    ((cancelRequest (s.step (.unregister r)).registry (s.step (.unregister r)).tokens r).1 = false ∧
      (s.step (.unregister r)).step (.cancel r) = s.step (.unregister r)) ∧
    (s.step (.cancel r)).step (.cancel r) = s.step (.cancel r) ∧
    (s.step (.unregister r)).step (.unregister r) = s.step (.unregister r) := by
  intro s
  have h := (follows_run ops).tracks
  exact ⟨⟨h.isRegistered_iff r, h.token?_eq_some_iff r, h.size,
    cancelRequest_fst _ _ r, h.cancel_isCancelled r, token?_after_stale_drop ops r, h.size_eq⟩,
    Session.cancel_after_unregister s r, (Session.cancel_twice s r).2, Session.unregister_twice s r⟩

end SubtitleQueue.Cancel
