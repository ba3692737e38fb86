import Mathlib
import SubtitleQueue.Proofs.Sql.Statement
import SubtitleQueue.Store.Access

/-!
What an operation on the store does to its connection. `StoreOp.Spec P op Q` says that every
run of `op` from a store whose connection `P` holds of ends with a result and a connection that
`Q` holds of; the clock, the stamps and the log of the store are left free.

The rules follow the operations' own parts: the monad's steps, one statement, the rows of a
query, a loop, a caught failure, and a transaction, which on failure puts the connection back
where it was.
-/

namespace SubtitleQueue.Store

open Sql

namespace StoreOp

variable {α β : Type}

/-! How the parts of an operation run. -/

theorem run_get_bind (f : Store → StoreOp β) (s : Store) :
    (ExceptT.run (get >>= f)).run s = (ExceptT.run (f s)).run s := rfl

/-- One statement runs on the connection at the store's time. -/
theorem run_run (sql : String) (params : List Value) (s : Store) :
    (ExceptT.run (run sql params)).run s =
      ((s.conn.run sql params.toArray s.now).2.mapError SqlFailure.fault,
        { s with conn := (s.conn.run sql params.toArray s.now).1 }) := by
  unfold run
  rw [run_get_bind]
  cases s.conn.run sql params.toArray s.now with
  | mk c r => cases r <;> rfl

theorem run_tryCatch (x : StoreOp α) (h : Fault → StoreOp α) (s : Store) :
    (ExceptT.run (tryCatch x h)).run s = match (ExceptT.run x).run s with
      | (.ok a, s') => (.ok a, s')
      | (.error e, s') => (ExceptT.run (h e)).run s' := by
  simp only [tryCatch, MonadExcept.tryCatch, tryCatchThe, MonadExceptOf.tryCatch, ExceptT.tryCatch,
    ExceptT.mk, ExceptT.run, StateT.run_bind]
  cases StateT.run x s with
  | mk r s' => cases r <;> rfl

/-- A transaction is refused inside another; otherwise its body runs, and a failure of the body
puts the connection back. -/
theorem run_transaction (body : StoreOp α) (s : Store) :
    (ExceptT.run (transaction body)).run s =
      if s.conn.saved.isSome then
        (.error (SqlFailure.fault
          { error := { message := "cannot start a transaction within a transaction" } }), s)
      else match (ExceptT.run body).run s with
        | (.ok a, s') => (.ok a, s')
        | (.error e, s') => (.error e, { s' with conn := s.conn }) := by
  unfold transaction
  rw [run_get_bind]
  by_cases h : s.conn.saved.isSome = true
  · simp only [h, if_true]
    rfl
  · simp only [h, Bool.false_eq_true, if_false]
    show (ExceptT.run (tryCatch body _)).run s = _
    rw [run_tryCatch]
    cases (ExceptT.run body).run s with
    | mk r s' => cases r <;> rfl

end StoreOp

/-- Every run of `op` from a store whose connection `P` holds of ends with a result and a
connection that `Q` holds of. -/
def StoreOp.Spec {α : Type} (P : Connection → Prop) (op : StoreOp α)
    (Q : Except Fault α → Connection → Prop) : Prop :=
  ∀ s : Store, P s.conn → Q ((ExceptT.run op).run s).1 ((ExceptT.run op).run s).2.conn

namespace StoreOp

variable {α β : Type} {P : Connection → Prop} {Q : Except Fault α → Connection → Prop}

theorem spec_mono {op : StoreOp α} {P' : Connection → Prop} {Q' : Except Fault α → Connection → Prop}
    (h : Spec P op Q) (hP : ∀ c, P' c → P c) (hQ : ∀ r c, Q r c → Q' r c) : Spec P' op Q' :=
  fun s hs => hQ _ _ (h s (hP _ hs))

theorem spec_pure (a : α) (h : ∀ c, P c → Q (.ok a) c) : Spec P (pure a) Q :=
  fun s hs => h s.conn hs

theorem spec_throw (e : Fault) (h : ∀ c, P c → Q (.error e) c) : Spec P (throw e) Q :=
  fun s hs => h s.conn hs

/-- A failure followed by anything is that failure. -/
theorem spec_throw_bind {f : α → StoreOp β} {Q : Except Fault β → Connection → Prop} (e : Fault)
    (h : ∀ c, P c → Q (.error e) c) : Spec P (throw e >>= f) Q :=
  fun s hs => h s.conn hs

/-- The rule of sequence: the rest starts from what the first part ends with; a failure of the
first part is the failure of the whole. -/
theorem spec_bind {x : StoreOp α} {f : α → StoreOp β} {R : Except Fault α → Connection → Prop}
    {Q : Except Fault β → Connection → Prop} (hx : Spec P x R) (hf : ∀ a, Spec (R (.ok a)) (f a) Q)
    (he : ∀ e c, R (.error e) c → Q (.error e) c) : Spec P (x >>= f) Q := by
  intro s hs
  have h := hx s hs
  simp only [ExceptT.run_bind, StateT.run_bind]
  cases hr : (ExceptT.run x).run s with
  | mk r s' =>
    rw [hr] at h
    cases r with
    | ok a => exact hf a s' h
    | error e => exact he e s'.conn h

/-- What follows a read of the store knows the connection it read. -/
theorem spec_get_bind {f : Store → StoreOp β} {Q : Except Fault β → Connection → Prop}
    (h : ∀ s, Spec (fun c => P c ∧ c = s.conn) (f s) Q) : Spec P (get >>= f) Q :=
  fun s hs => by
    rw [run_get_bind]
    exact h s s ⟨hs, rfl⟩

theorem spec_modify {f : Store → Store} {Q : Except Fault PUnit → Connection → Prop}
    (h : ∀ s, P s.conn → Q (.ok ⟨⟩) (f s).conn) : Spec P (modify f : StoreOp PUnit) Q :=
  fun s hs => h s hs

theorem spec_lift (r : Except Fault α) (h : ∀ c, P c → Q r c) : Spec P (lift r) Q := by
  intro s hs
  cases r <;> exact h s.conn hs

theorem spec_stamp : Spec P stamp (fun _ c => P c) :=
  fun _ hs => hs

theorem spec_log (level : Log.Level) (message : String) : Spec P (log level message) (fun _ c => P c) :=
  fun _ hs => hs

/-- One statement ends with the result and the connection of the connection's own run, at
whatever time the store's clock reads. -/
theorem spec_run {sql : String} {params : List Value} {Q : Except Fault Outcome → Connection → Prop}
    (h : ∀ c now, P c → Q ((c.run sql params.toArray now).2.mapError SqlFailure.fault)
      (c.run sql params.toArray now).1) : Spec P (run sql params) Q := by
  intro s hs
  rw [run_run]
  exact h s.conn s.now hs

theorem spec_execute {sql : String} {params : List Value} {Q : Except Fault Nat → Connection → Prop}
    (h : ∀ c now, P c →
      Q (((c.run sql params.toArray now).2.mapError SqlFailure.fault).map (·.changes))
        (c.run sql params.toArray now).1) : Spec P (execute sql params) Q :=
  spec_bind (spec_run h : Spec P (run sql params) fun r c => Q (r.map (·.changes)) c)
    (fun _ => spec_pure _ fun _ h => h) fun _ _ h => h

/-- A statement whose step succeeds from every connection `P` holds of: the outcome and the
database of the step, or a failure to resolve that changes nothing. -/
theorem spec_run_of_exec {text : String} {st : RowStmt} {n : Nat}
    (hp : prepareRows text = some (some st, n)) {params : List Value}
    {Q : Except Fault Outcome → Connection → Prop}
    (h : ∀ c now, P c → ∃ o d, (st.exec { params := params.toArray, now }).run c.db = .ok (o, d) ∧
      Q (.ok o) { c with db := d } ∧ ∀ e, Q (.error e) c) : Spec P (run text params) Q := by
  refine spec_run fun c now hc => ?_
  obtain ⟨o, d, hx, hok, herr⟩ := h c now hc
  rcases Connection.run_of_exec_cases c _ now hp hx with hrun | ⟨e, hrun⟩
  · rw [hrun]; exact hok
  · rw [hrun]; exact herr _

/-- A resolved statement whose step succeeds ends with the step's outcome and database. -/
theorem spec_run_of_resolved {text : String} {st : RowStmt} {n : Nat}
    (hp : prepareRows text = some (some st, n)) {params : List Value}
    {Q : Except Fault Outcome → Connection → Prop}
    (h : ∀ c now, P c → Resolve.statement c.db [] false st.toStmt = none ∧ ∃ o d,
      (st.exec { params := params.toArray, now }).run c.db = .ok (o, d) ∧ Q (.ok o) { c with db := d }) :
    Spec P (run text params) Q := by
  refine spec_run fun c now hc => ?_
  obtain ⟨hr, o, d, hx, hok⟩ := h c now hc
  rw [Connection.run_of_exec c _ now hp hr hx]
  exact hok

/-! Reading rows changes nothing. -/

theorem spec_run_select {text : String} {q : Select} {n : Nat}
    (hp : prepareRows text = some (some (.select q), n)) (params : List Value) :
    Spec P (run text params) (fun _ c => P c) :=
  spec_run fun c now hc => by rw [Connection.run_select c _ now hp]; exact hc

theorem spec_rows_select {text : String} {q : Select} {n : Nat}
    (hp : prepareRows text = some (some (.select q), n)) (params : List Value) :
    Spec P (rows text params) (fun _ c => P c) :=
  spec_bind (spec_run_select hp params) (fun _ => spec_pure _ fun _ h => h) fun _ _ h => h

theorem spec_firstRow?_select {text : String} {q : Select} {n : Nat}
    (hp : prepareRows text = some (some (.select q), n)) (params : List Value)
    (f : Row → Except Fault α) : Spec P (firstRow? text params f) (fun _ c => P c) := by
  refine spec_bind (spec_rows_select hp params) (fun rs => ?_) fun _ _ h => h
  split
  · exact spec_bind (spec_lift _ fun _ h => h : Spec (fun c => P c) (lift _) fun _ c => P c)
      (fun _ => spec_pure _ fun _ h => h) fun _ _ h => h
  · exact spec_pure _ fun _ h => h

/-! Failures that are caught, and transactions. -/

/-- A caught failure goes on with its handler, from where the failing part left the
connection. -/
theorem spec_tryCatch {x : StoreOp α} {handler : Fault → StoreOp α}
    {R : Except Fault α → Connection → Prop} (hx : Spec P x R)
    (hok : ∀ a c, R (.ok a) c → Q (.ok a) c) (hh : ∀ e, Spec (R (.error e)) (handler e) Q) :
    Spec P (tryCatch x handler) Q := by
  intro s hs
  have h := hx s hs
  rw [run_tryCatch]
  cases hr : (ExceptT.run x).run s with
  | mk r s' =>
    rw [hr] at h
    cases r with
    | ok a => exact hok a s'.conn h
    | error e => exact hh e s' h

/-- A transaction refused inside another, or whose body fails, fails and leaves the connection
as it was; a body that succeeds ran outside any transaction. -/
theorem spec_transaction {body : StoreOp α} {R : Except Fault α → Connection → Prop}
    (hb : Spec (fun c => P c ∧ c.saved = none) body R) (hok : ∀ a c, R (.ok a) c → Q (.ok a) c)
    (he : ∀ e c, P c → Q (.error e) c) : Spec P (transaction body) Q := by
  intro s hs
  rw [run_transaction]
  split
  · exact he _ _ hs
  · rename_i hsv
    have h := hb s ⟨hs, by simpa using hsv⟩
    cases hr : (ExceptT.run body).run s with
    | mk r s' =>
      rw [hr] at h
      cases r with
      | ok a => exact hok a s'.conn h
      | error e => exact he e s.conn hs

/-- A loop every turn of which keeps `I` keeps it. -/
theorem spec_forIn {γ : Type} {I : Connection → Prop} (xs : List γ) (b : β)
    {body : γ → β → StoreOp (ForInStep β)} (h : ∀ x b, Spec I (body x b) (fun _ c => I c)) :
    Spec I (forIn xs b body) (fun _ c => I c) := by
  induction xs generalizing b with
  | nil => exact spec_pure _ fun _ h => h
  | cons x xs ih =>
    rw [List.forIn_cons]
    refine spec_bind (h x b) (fun r => ?_) fun _ _ h => h
    cases r with
    | done b' => exact spec_pure _ fun _ h => h
    | yield b' => exact ih b'

end StoreOp

end SubtitleQueue.Store
