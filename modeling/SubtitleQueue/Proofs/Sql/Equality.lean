import SubtitleQueue.Sql.Parser.Statement

/-!
Equality of syntax trees, decided by walking both trees at once. With it the statements the
store reads from its fixed texts can be computed once and named: `prepare text = .ok (...)`
closes by `decide`.
-/

namespace SubtitleQueue.Sql

mutual

/-- Whether two expressions are the same tree. -/
def Expr.same : Expr → Expr → Bool
  | .lit v, .lit w => v == w
  | .param i, .param j => i == j
  | .column t n o, .column t' n' o' => t == t' && n == n' && o == o'
  | .neg a, .neg b => a.same b
  | .not a, .not b => a.same b
  | .binary op a b, .binary op' a' b' => op == op' && a.same a' && b.same b'
  | .isNull a n, .isNull b m => a.same b && n == m
  | .inList a xs n, .inList b ys m => a.same b && Expr.sameList xs ys && n == m
  | .between a l h n, .between b l' h' m => a.same b && l.same l' && h.same h' && n == m
  | .like a p n, .like b q m => a.same b && p.same q && n == m
  | .call f xs s o, .call g ys s' o' => f == g && Expr.sameList xs ys && s == s' && o == o'
  | .case o arms d, .case o' arms' d' =>
    Expr.sameOption o o' && Expr.sameArms arms arms' && Expr.sameOption d d'
  | .cast a t, .cast b u => a.same b && t == u
  | .raise k m, .raise k' m' => k == k' && m == m'
  | _, _ => false
termination_by structural a => a

/-- Whether two lists of expressions are the same. -/
def Expr.sameList : List Expr → List Expr → Bool
  | [], [] => true
  | a :: as, b :: bs => a.same b && Expr.sameList as bs
  | _, _ => false
termination_by structural xs => xs

/-- Whether two optional expressions are the same. -/
def Expr.sameOption : Option Expr → Option Expr → Bool
  | none, none => true
  | some a, some b => a.same b
  | _, _ => false
termination_by structural o => o

/-- Whether two lists of `CASE` arms are the same. -/
def Expr.sameArms : List (Expr × Expr) → List (Expr × Expr) → Bool
  | [], [] => true
  | (a, b) :: r, (a', b') :: r' => a.same a' && b.same b' && Expr.sameArms r r'
  | _, _ => false
termination_by structural r => r

end

mutual

theorem Expr.same_self : (a : Expr) → a.same a = true
  | .lit _ | .param _ | .column _ _ _ | .raise _ _ => by simp [Expr.same]
  | .neg a | .not a => by simp [Expr.same, Expr.same_self a]
  | .binary _ a b => by simp [Expr.same, Expr.same_self a, Expr.same_self b]
  | .isNull a _ | .cast a _ => by simp [Expr.same, Expr.same_self a]
  | .inList a xs _ => by simp [Expr.same, Expr.same_self a, Expr.sameList_self xs]
  | .between a l h _ => by simp [Expr.same, Expr.same_self a, Expr.same_self l, Expr.same_self h]
  | .like a p _ => by simp [Expr.same, Expr.same_self a, Expr.same_self p]
  | .call _ xs _ _ => by simp [Expr.same, Expr.sameList_self xs]
  | .case o arms d => by
    simp [Expr.same, Expr.sameOption_self o, Expr.sameArms_self arms, Expr.sameOption_self d]

theorem Expr.sameList_self : (xs : List Expr) → Expr.sameList xs xs = true
  | [] => by simp [Expr.sameList]
  | a :: as => by simp [Expr.sameList, Expr.same_self a, Expr.sameList_self as]

theorem Expr.sameOption_self : (o : Option Expr) → Expr.sameOption o o = true
  | none => by simp [Expr.sameOption]
  | some a => by simp [Expr.sameOption, Expr.same_self a]

theorem Expr.sameArms_self : (arms : List (Expr × Expr)) → Expr.sameArms arms arms = true
  | [] => by simp [Expr.sameArms]
  | (a, b) :: r => by simp [Expr.sameArms, Expr.same_self a, Expr.same_self b, Expr.sameArms_self r]

end

mutual

theorem Expr.eq_of_same : (a b : Expr) → a.same b = true → a = b
  | .lit v, b, h => by cases b <;> simp_all [Expr.same]
  | .param i, b, h => by cases b <;> simp_all [Expr.same]
  | .column t n o, b, h => by cases b <;> simp_all [Expr.same]
  | .raise k m, b, h => by cases b <;> simp_all [Expr.same]
  | .neg a, b, h => by
    cases b with
    | neg b => rw [Expr.eq_of_same a b (by simpa [Expr.same] using h)]
    | _ => simp [Expr.same] at h
  | .not a, b, h => by
    cases b with
    | not b => rw [Expr.eq_of_same a b (by simpa [Expr.same] using h)]
    | _ => simp [Expr.same] at h
  | .binary op a c, b, h => by
    cases b with
    | binary op' b d =>
      simp only [Expr.same, Bool.and_eq_true, beq_iff_eq] at h
      rw [h.1.1, Expr.eq_of_same a b h.1.2, Expr.eq_of_same c d h.2]
    | _ => simp [Expr.same] at h
  | .isNull a n, b, h => by
    cases b with
    | isNull b m =>
      simp only [Expr.same, Bool.and_eq_true, beq_iff_eq] at h
      rw [Expr.eq_of_same a b h.1, h.2]
    | _ => simp [Expr.same] at h
  | .cast a t, b, h => by
    cases b with
    | cast b u =>
      simp only [Expr.same, Bool.and_eq_true, beq_iff_eq] at h
      rw [Expr.eq_of_same a b h.1, h.2]
    | _ => simp [Expr.same] at h
  | .inList a xs n, b, h => by
    cases b with
    | inList b ys m =>
      simp only [Expr.same, Bool.and_eq_true, beq_iff_eq] at h
      rw [Expr.eq_of_same a b h.1.1, Expr.eq_of_sameList xs ys h.1.2, h.2]
    | _ => simp [Expr.same] at h
  | .between a l u n, b, h => by
    cases b with
    | between b l' u' m =>
      simp only [Expr.same, Bool.and_eq_true, beq_iff_eq] at h
      rw [Expr.eq_of_same a b h.1.1.1, Expr.eq_of_same l l' h.1.1.2, Expr.eq_of_same u u' h.1.2,
        h.2]
    | _ => simp [Expr.same] at h
  | .like a p n, b, h => by
    cases b with
    | like b q m =>
      simp only [Expr.same, Bool.and_eq_true, beq_iff_eq] at h
      rw [Expr.eq_of_same a b h.1.1, Expr.eq_of_same p q h.1.2, h.2]
    | _ => simp [Expr.same] at h
  | .call f xs s o, b, h => by
    cases b with
    | call g ys s' o' =>
      simp only [Expr.same, Bool.and_eq_true, beq_iff_eq] at h
      rw [h.1.1.1, Expr.eq_of_sameList xs ys h.1.1.2, h.1.2, h.2]
    | _ => simp [Expr.same] at h
  | .case o arms d, b, h => by
    cases b with
    | case o' arms' d' =>
      simp only [Expr.same, Bool.and_eq_true] at h
      rw [Expr.eq_of_sameOption o o' h.1.1, Expr.eq_of_sameArms arms arms' h.1.2,
        Expr.eq_of_sameOption d d' h.2]
    | _ => simp [Expr.same] at h

theorem Expr.eq_of_sameList : (xs ys : List Expr) → Expr.sameList xs ys = true → xs = ys
  | [], [], _ => rfl
  | a :: as, b :: bs, h => by
    simp only [Expr.sameList, Bool.and_eq_true] at h
    rw [Expr.eq_of_same a b h.1, Expr.eq_of_sameList as bs h.2]
  | [], _ :: _, h | _ :: _, [], h => by simp [Expr.sameList] at h

theorem Expr.eq_of_sameOption : (o o' : Option Expr) → Expr.sameOption o o' = true → o = o'
  | none, none, _ => rfl
  | some a, some b, h => by rw [Expr.eq_of_same a b (by simpa [Expr.sameOption] using h)]
  | none, some _, h | some _, none, h => by simp [Expr.sameOption] at h

theorem Expr.eq_of_sameArms :
    (r r' : List (Expr × Expr)) → Expr.sameArms r r' = true → r = r'
  | [], [], _ => rfl
  | (a, b) :: r, (a', b') :: r', h => by
    simp only [Expr.sameArms, Bool.and_eq_true] at h
    rw [Expr.eq_of_same a a' h.1.1, Expr.eq_of_same b b' h.1.2, Expr.eq_of_sameArms r r' h.2]
  | [], _ :: _, h | _ :: _, [], h => by simp [Expr.sameArms] at h

end

theorem Expr.same_iff {a b : Expr} : a.same b = true ↔ a = b :=
  ⟨Expr.eq_of_same a b, fun h => h ▸ Expr.same_self a⟩

instance : DecidableEq Expr := fun _ _ => decidable_of_iff _ Expr.same_iff

deriving instance DecidableEq for ResultColumn, Select, Rows, Upsert

/-- A statement that reads or changes rows, apart from the other kinds of statement. -/
inductive RowStmt where
  | select (s : Select)
  | insert (resolution : Resolution) (table : String) (columns : Option (List String))
      (rows : Rows) (upsert : Option Upsert)
  | update (resolution : Resolution) (table : String) (sets : List (String × Expr))
      (filter : Option Expr)
  | delete (table : String) (filter : Option Expr)
  deriving DecidableEq

/-- The statement a row statement is. -/
def RowStmt.toStmt : RowStmt → Stmt
  | .select s => .select s
  | .insert r t c v u => .insert r t c v u
  | .update r t s f => .update r t s f
  | .delete t f => .delete t f

/-- A statement as a row statement, if it is one. -/
def Stmt.rowStmt? : Stmt → Option RowStmt
  | .select s => some (.select s)
  | .insert r t c v u => some (.insert r t c v u)
  | .update r t s f => some (.update r t s f)
  | .delete t f => some (.delete t f)
  | _ => none

theorem Stmt.eq_of_rowStmt? {s : Stmt} {r : RowStmt} (h : s.rowStmt? = some r) : s = r.toStmt := by
  cases s <;> simp [Stmt.rowStmt?] at h <;> subst h <;> rfl

/-- The row statement a text starts with, and where the rest of the text begins. -/
def prepareRows (text : String) : Option (Option RowStmt × Nat) :=
  (prepare text).toOption.map fun (s, n) => (s.bind Stmt.rowStmt?, n)

/-- A text whose first statement reads or changes rows reads as that statement. Its premise is
a comparison of finite trees, which `decide` settles for a fixed text. -/
theorem prepare_eq_of_prepareRows {text : String} {r : RowStmt} {n : Nat}
    (h : prepareRows text = some (some r, n)) : prepare text = .ok (some r.toStmt, n) := by
  unfold prepareRows at h
  cases hp : prepare text with
  | error e => simp [hp, Except.toOption] at h
  | ok p =>
    obtain ⟨s, m⟩ := p
    simp only [hp, Except.toOption, Option.map_some, Option.some.injEq, Prod.mk.injEq] at h
    obtain ⟨hs, rfl⟩ := h
    cases s with
    | none => simp at hs
    | some s =>
      simp only [Option.bind_some] at hs
      rw [Stmt.eq_of_rowStmt? hs]

end SubtitleQueue.Sql
