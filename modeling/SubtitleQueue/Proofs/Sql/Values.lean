import SubtitleQueue.Sql.Eval

/-!
How the comparisons of conditions come out on the values a table stores: whole numbers
compare as numbers, text compares by its bytes and so is equal exactly when it is the same
text, and null compares with nothing. Conditions built from these are true or false, never
null, once neither side is null.
-/

namespace SubtitleQueue.Sql

theorem ByteArray.toList_loop (bs : ByteArray) (i : Nat) (r : List UInt8) :
    ByteArray.toList.loop bs i r = r.reverse ++ bs.data.toList.drop i := by
  fun_induction ByteArray.toList.loop bs i r with
  | case1 i r h ih =>
    rw [ih, List.reverse_cons, List.append_assoc]
    congr 1
    have hi : i < bs.data.toList.length := by simpa using h
    have hs : i < bs.data.size := h
    rw [List.drop_eq_getElem_cons hi]
    simp [ByteArray.get!, Array.getElem!_eq_getD, Array.getD_eq_getD_getElem?,
      Array.getElem?_eq_getElem hs]
  | case2 i r h =>
    have hi : bs.data.toList.length ≤ i := by simpa using h
    simp [List.drop_eq_nil_of_le hi]

theorem ByteArray.toList_eq (bs : ByteArray) : bs.toList = bs.data.toList := by
  simp [ByteArray.toList, ByteArray.toList_loop]

theorem String.toByteArray_toList_inj {x y : String} :
    x.toByteArray.toList = y.toByteArray.toList ↔ x = y := by
  constructor
  · intro h
    rw [ByteArray.toList_eq, ByteArray.toList_eq, Array.toList_inj] at h
    exact String.toByteArray_inj.mp (ByteArray.ext h)
  · rintro rfl
    rfl

theorem Value.compareBytes_eq_iff {a b : List UInt8} : Value.compareBytes a b = .eq ↔ a = b := by
  induction a generalizing b with
  | nil => cases b <;> simp [Value.compareBytes]
  | cons x xs ih =>
    cases b with
    | nil => simp [Value.compareBytes]
    | cons y ys =>
      simp only [Value.compareBytes, List.cons.injEq]
      by_cases hxy : x < y
      · simp only [hxy, if_true, reduceCtorEq, false_iff, not_and]
        intro h
        exact absurd hxy (by simp [h])
      · by_cases hyx : y < x
        · simp only [hxy, hyx, if_false, if_true, reduceCtorEq, false_iff, not_and]
          intro h
          exact absurd hyx (by simp [h])
        · have : x = y := UInt8.le_antisymm (UInt8.not_lt.mp hyx) (UInt8.not_lt.mp hxy)
          simp [ih, this]

@[simp] theorem Value.order_int (x y : Int) : Value.order (.int x) (.int y) = compare x y := by
  simp [Value.order, Value.rank, Value.fraction?]

theorem Value.order_text_eq {x y : String} : Value.order (.text x) (.text y) = .eq ↔ x = y := by
  simp [Value.order, Value.rank, Value.compareBytes_eq_iff, String.toByteArray_toList_inj]

@[simp] theorem Value.isTrue_truth (b : Bool) : (truth b).isTrue = b := by
  cases b <;> simp [truth, Value.isTrue, Value.asNumber]

@[simp] theorem Value.isTrue_null : Value.null.isTrue = false := rfl

@[simp] theorem andValue_truth (a b : Bool) : andValue (truth a) (truth b) = truth (a && b) := by
  cases a <;> cases b <;> rfl

@[simp] theorem truth_ne_null (b : Bool) : truth b ≠ .null := by
  cases b <;> simp [truth]

/-- A whole-number column against a parameter: equal exactly when the numbers are. -/
@[simp] theorem compareWith_eq_int (x y : Int) :
    compareWith .eq (.int x) (.int y) (some .integer) none = truth (x == y) := by
  have h : (compare x y == .eq) = (x == y) := by
    rw [Bool.eq_iff_iff, beq_iff_eq, beq_iff_eq, Int.compare_eq_eq]
  simp [compareWith, compareOperands, Affinity.isNumeric, Value.withAffinity, h]

/-- A text column against a parameter or a literal: equal exactly when the texts are. -/
@[simp] theorem compareWith_eq_text (x y : String) :
    compareWith .eq (.text x) (.text y) (some .text) none = truth (x == y) := by
  have h : (Value.order (.text x) (.text y) == .eq) = (x == y) := by
    rw [Bool.eq_iff_iff, beq_iff_eq, beq_iff_eq, Value.order_text_eq]
  simp [compareWith, compareOperands, Affinity.isNumeric, Value.withAffinity, h]

@[simp] theorem compareWith_null_left (op : BinOp) (b : Value) (fa fb : Option Affinity) :
    compareWith op .null b fa fb = .null := rfl

@[simp] theorem compareWith_null_right (op : BinOp) (a : Value) (fa fb : Option Affinity) :
    compareWith op a .null fa fb = .null := by
  cases a <;> rfl

end SubtitleQueue.Sql
