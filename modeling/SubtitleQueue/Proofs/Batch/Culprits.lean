import Mathlib
import SubtitleQueue.Backend.Mock
import SubtitleQueue.Proofs.Batch.Fallback

/-!
Graduated splitting against the scripted backend when some lines are culprits: a batch that
holds one of the listed positions fails (`failChunks`), or the listed positions are left out
of every answer (`omit`). With at least as many split levels as there are lines to send, the
last level sends every pending line alone, so every innocent line is translated and the lines
left over are exactly the culprits, in their order.
-/

namespace SubtitleQueue.Batch

open Backend

/-- The scripted backend answering batches: it refuses batches when it takes none, counts the
calls before through its gate, and otherwise answers as it answers a batch. -/
def mockOracle (m : Mock) (target : String) : Oracle := fun log chunk =>
  if !m.batches then .error (.backend .batchUnsupported) else
  match m.gate log.length with
  | .error e => .error (.backend e)
  | .ok () => (m.batchAnswer chunk target).mapError .backend

/-! ### The answers of the scripted backend -/

section Answers

variable {target : String} {left : List Nat} {items : List Item}

/-- A translation is never blank: it starts with the bracketed target language. -/
theorem translated_not_blank (text : String) : Text.isBlankText (Mock.translated text target) = false := by
  simp [Text.isBlankText, Mock.translated, Text.isBlank]

/-- Every answer of a batch is the translation of one of its lines that was not left out. -/
theorem mem_answerAll {e : Nat × String} (he : e ∈ Mock.batchAnswer.answerAll target left items) :
    ∃ it ∈ items, it.1 ∉ left ∧ e = (it.1, Mock.translated it.2 target) := by
  unfold Mock.batchAnswer.answerAll at he
  rw [List.mem_mergeSort] at he
  -- the answers gathered so far are translations of lines kept before
  have hfold : ∀ (kept : List Item) (acc : List (Nat × String)),
      e ∈ kept.foldl (fun acc it => acc.filter (·.1 != it.1) ++ [(it.1, Mock.translated it.2 target)]) acc →
        e ∈ acc ∨ ∃ it ∈ kept, e = (it.1, Mock.translated it.2 target) := by
    intro kept
    induction kept with
    | nil => exact fun acc h => .inl h
    | cons x xs ih =>
      intro acc h
      rcases ih _ h with h | ⟨it, hit, rfl⟩
      · rw [List.mem_append, List.mem_singleton] at h
        rcases h with h | rfl
        · exact .inl (List.mem_of_mem_filter h)
        · exact .inr ⟨x, List.mem_cons_self, rfl⟩
      · exact .inr ⟨it, List.mem_cons_of_mem _ hit, rfl⟩
  rcases hfold _ [] he with h | ⟨it, hit, rfl⟩
  · simp at h
  · obtain ⟨hmem, hkeep⟩ := List.mem_filter.mp hit
    exact ⟨it, hmem, by simpa using hkeep, rfl⟩

theorem get?_eq_some_mem {m : List (Nat × String)} {p : Nat} {v : String}
    (h : Translations.get? m p = some v) :
    (p, v) ∈ m := by
  unfold Translations.get? at h
  obtain ⟨e, he, rfl⟩ := Option.map_eq_some_iff.mp h
  have hp : e.1 = p := by simpa using List.find?_some he
  rw [← hp]
  exact List.mem_of_find?_eq_some he

theorem get?_eq_none {m : List (Nat × String)} {p : Nat} (h : ∀ e ∈ m, e.1 ≠ p) :
    Translations.get? m p = none := by
  unfold Translations.get?
  rw [List.find?_eq_none.mpr fun e he => by simpa using h e he, Option.map_none]

/-- A position left out is not answered. -/
theorem get?_answerAll_of_mem {p : Nat} (hp : p ∈ left) :
    Translations.get? (Mock.batchAnswer.answerAll target left items) p = none :=
  get?_eq_none fun e he => by
    obtain ⟨it, -, hleft, rfl⟩ := mem_answerAll he
    rintro rfl
    exact hleft hp

/-- A line sent alone, and not left out, is answered with its translation. -/
theorem answerAll_singleton {it : Item} (hit : it.1 ∉ left) :
    Mock.batchAnswer.answerAll target left [it] = [(it.1, Mock.translated it.2 target)] := by
  simp [Mock.batchAnswer.answerAll, hit]

end Answers

section Scripted

variable {B : List Nat} {target : String}

/-- The scripted backend with one of the two culprit behaviours. -/
def Culprits (B : List Nat) (beh : Behavior) : Prop := beh = .failChunks B ∨ beh = .omit B

theorem batchAnswer_failChunks (chunk : List Item) :
    Mock.batchAnswer { behavior := .failChunks B } chunk target =
      if chunk.any (fun it => B.contains it.1) then .error (.refused 500 "simulated batch failure")
      else .ok (Mock.batchAnswer.answerAll target [] chunk) := rfl

theorem batchAnswer_omit (chunk : List Item) :
    Mock.batchAnswer { behavior := .omit B } chunk target =
      .ok (Mock.batchAnswer.answerAll target B chunk) := rfl

variable {beh : Behavior} (hbeh : Culprits B beh)
include hbeh

theorem gate_culprits (n : Nat) : Mock.gate { behavior := beh } n = .ok () := by
  rcases hbeh with rfl | rfl <;> rfl

/-- The scripted backend with a culprit behaviour answers a chunk as it answers a batch. -/
theorem mockOracle_culprits (log : List Call) (chunk : List Item) :
    mockOracle { behavior := beh } target log chunk =
      (Mock.batchAnswer { behavior := beh } chunk target).mapError .backend := by
  simp only [mockOracle, gate_culprits hbeh, Bool.not_true, Bool.false_eq_true, if_false]

/-- Either behaviour answers with the translations of the lines not left out, or fails. -/
theorem batchAnswer_culprits (chunk : List Item) :
    ∃ left, ∀ r, Mock.batchAnswer { behavior := beh } chunk target = .ok r →
      r = Mock.batchAnswer.answerAll target left chunk := by
  rcases hbeh with rfl | rfl
  · refine ⟨[], fun r hr => ?_⟩
    rw [batchAnswer_failChunks] at hr
    split_ifs at hr
    exact (Except.ok.inj hr).symm
  · refine ⟨B, fun r hr => ?_⟩
    rw [batchAnswer_omit] at hr
    exact (Except.ok.inj hr).symm

/-- The scripted backend with a culprit behaviour always answers, or fails in a way that a
smaller chunk may mend. -/
theorem settles_culprits : Settles (mockOracle { behavior := beh } target) := by
  intro log chunk
  rw [mockOracle_culprits hbeh]
  rcases hbeh with rfl | rfl
  · rw [batchAnswer_failChunks]
    split_ifs
    · exact .inr ⟨_, rfl, rfl⟩
    · exact .inl ⟨_, rfl⟩
  · exact .inl ⟨_, rfl⟩

/-- A culprit is translated by no call. -/
theorem textIn_culprit (log : List Call) (chunk : List Item) {it : Item} (hit : it ∈ chunk)
    (hB : it.1 ∈ B) : textIn (mockOracle { behavior := beh } target log chunk) it.1 = none := by
  rw [mockOracle_culprits hbeh]
  rcases hbeh with rfl | rfl
  · have hany : chunk.any (fun x => B.contains x.1) = true :=
      List.any_eq_true.mpr ⟨it, hit, by simpa using hB⟩
    rw [batchAnswer_failChunks, if_pos hany]
    rfl
  · rw [batchAnswer_omit]
    simp [Except.mapError, textIn, get?_answerAll_of_mem hB]

/-- An innocent line sent alone is translated. -/
theorem textIn_alone (log : List Call) {it : Item} (hB : it.1 ∉ B) :
    textIn (mockOracle { behavior := beh } target log [it]) it.1 =
      some (Mock.translated it.2 target) := by
  rw [mockOracle_culprits hbeh]
  rcases hbeh with rfl | rfl
  · have hany : [it].any (fun x => B.contains x.1) = false := by simpa using hB
    rw [batchAnswer_failChunks, if_neg (by simp [hB]), answerAll_singleton List.not_mem_nil]
    simp [Except.mapError, textIn, Translations.get?, translated_not_blank]
  · rw [batchAnswer_omit, answerAll_singleton hB]
    simp [Except.mapError, textIn, Translations.get?, translated_not_blank]

/-- What a call translates a line to is the line's own translation. -/
theorem textIn_eq_some (log : List Call) (chunk : List Item) {p : Nat} {v : String}
    (h : textIn (mockOracle { behavior := beh } target log chunk) p = some v) :
    ∃ it ∈ chunk, it.1 = p ∧ v = Mock.translated it.2 target := by
  rw [mockOracle_culprits hbeh] at h
  obtain ⟨left, hleft⟩ : ∃ left, ∀ r, Mock.batchAnswer { behavior := beh } chunk target = .ok r →
      r = Mock.batchAnswer.answerAll target left chunk := batchAnswer_culprits hbeh chunk
  cases hr : Mock.batchAnswer { behavior := beh } chunk target with
  | error e => simp [hr, Except.mapError, textIn] at h
  | ok r =>
    simp only [hr, Except.mapError, textIn] at h
    obtain ⟨hget, -⟩ := Option.filter_eq_some_iff.mp h
    obtain ⟨it, hit, -, he⟩ := mem_answerAll (hleft r hr ▸ get?_eq_some_mem hget)
    obtain ⟨rfl, rfl⟩ := Prod.mk.inj he
    exact ⟨it, hit, rfl, rfl⟩

end Scripted

/-! ### The last level sends every line alone -/

theorem chunksOf_one {α : Type} (xs : List α) : chunksOf 1 xs = xs.map ([·]) := by
  fun_induction chunksOf 1 xs with
  | case1 => omega
  | case2 => rfl
  | case3 _ x rest ih => simpa using ih

/-- With at least as many chunks as lines, each line is a chunk of its own. -/
theorem split_of_length_le {α : Type} {xs : List α} {lvl : Nat} (hne : xs ≠ [])
    (hlen : xs.length ≤ lvl) : split xs lvl = xs.map ([·]) := by
  have hn : 0 < xs.length := List.length_pos_of_ne_nil hne
  have hone : (xs.length + max lvl 1 - 1) / max lvl 1 = 1 :=
    Nat.div_eq_of_lt_le (by omega) (by omega)
  simp [split, List.isEmpty_iff, hne, hone, chunksOf_one]

/-! ### The lines left over -/

namespace Levels

variable {B : List Nat} {beh : Behavior} {target : String} {maxSplits : Nat}

/-- The lines left over are culprits. A level ends with only culprits pending once it sends
every line alone, which the last level does when there are no more lines than levels; the
induction carries that fact to the end of the run. -/
theorem left_culprits (hbeh : Culprits B beh) {lvl : Nat} {pending left : List Item}
    {R : List (List Call)} (h : Levels maxSplits lvl pending R left)
    (hans : Answered (mockOracle { behavior := beh } target) R.flatten)
    (hnd : (pending.map (·.1)).Nodup) (hlen : pending.length ≤ maxSplits)
    (hlast : maxSplits < lvl → ∀ it ∈ pending, it.1 ∈ B) : ∀ it ∈ left, it.1 ∈ B := by
  induction h with
  | finished => simp
  | spent hlt => exact hlast hlt
  | @next lvl pending calls R left hne hle hsplit _ ih =>
    rw [List.flatten_cons] at hans
    have hnext := next_eq hsplit hnd
    have hsub : (calls.flatMap Call.missed).Sublist pending := hnext ▸ List.filter_sublist
    refine ih (fun c hc => hans c (List.mem_append_right _ hc)) (hsub.map _ |>.nodup hnd)
      (hsub.length_le.trans hlen) fun hlt it hit => ?_
    -- at the last level every pending line went alone, so an innocent one was translated
    have hsolo : calls.map (·.1) = pending.map ([·]) := hsplit.trans (split_of_length_le hne (by omega))
    rw [hnext] at hit
    obtain ⟨hmem, hnone⟩ := List.mem_filter.mp hit
    by_contra hB
    obtain ⟨c, hc, hc1⟩ : ∃ c ∈ calls, c.1 = [it] := by
      have : [it] ∈ calls.map (·.1) := hsolo ▸ List.mem_map_of_mem hmem
      simpa using this
    obtain ⟨log, hlog⟩ := hans c (List.mem_append_left _ hc)
    have htr : c.translates it.1 = some (Mock.translated it.2 target) := by
      rw [translates_of_mem (hc1 ▸ List.mem_singleton_self it), Call.answer, hlog, hc1]
      exact textIn_alone hbeh log hB
    have := List.all_eq_true.mp hnone c hc
    simp [htr] at this

/-- No call translates a culprit. -/
theorem translates_culprit (hbeh : Culprits B beh) {cs : List Call}
    (hans : Answered (mockOracle { behavior := beh } target) cs) {p : Nat} (hB : p ∈ B) :
    ∀ c ∈ cs, c.translates p = none := by
  intro c hc
  unfold Call.translates
  split_ifs with hp
  · obtain ⟨it, hit, rfl⟩ := List.mem_map.mp hp
    obtain ⟨log, hlog⟩ := hans c hc
    rw [Call.answer, hlog]
    exact textIn_culprit hbeh log c.1 hit hB
  · rfl

end Levels

/-- In lines with distinct positions, the line found by a position is the line there. -/
theorem find?_key_of_mem {l : List Item} (hnd : (l.map (·.1)).Nodup) {x : Item} (hx : x ∈ l) :
    l.find? (·.1 == x.1) = some x := by
  have hsome : (l.find? (·.1 == x.1)).isSome := List.find?_isSome.mpr ⟨x, hx, by simp⟩
  obtain ⟨y, hy⟩ := Option.isSome_iff_exists.mp hsome
  have hyx : y.1 = x.1 := by
    have := List.find?_some hy
    simpa using this
  rw [hy, List.inj_on_of_nodup_map hnd (List.mem_of_find?_eq_some hy) hx hyx]

namespace Levels

variable {B : List Nat} {beh : Behavior} {target : String} {maxSplits : Nat}
  {lines left : List Item} {R : List (List Call)}

/-- With no more lines than levels, the lines left over are exactly the culprits, in order. -/
theorem left_eq_culprits (hbeh : Culprits B beh) (h : Levels maxSplits 1 lines R left)
    (hans : Answered (mockOracle { behavior := beh } target) R.flatten)
    (hnd : (lines.map (·.1)).Nodup) (hlen : lines.length ≤ maxSplits) :
    left = lines.filter (·.1 ∈ B) := by
  have hfew : maxSplits < 1 → ∀ it ∈ lines, it.1 ∈ B :=
    fun h it hit => absurd (List.length_pos_of_mem hit) (by omega)
  rw [h.left_eq hnd]
  refine List.filter_congr fun it hit => ?_
  by_cases hB : it.1 ∈ B
  · simp only [hB, decide_true]
    exact List.all_eq_true.mpr fun c hc => by simp [translates_culprit hbeh hans hB c hc]
  · simp only [hB, decide_false]
    by_contra hall
    have hmem : it ∈ left := by
      rw [h.left_eq hnd]
      exact List.mem_filter.mpr ⟨hit, by simpa using hall⟩
    exact hB (h.left_culprits hbeh hans hnd hlen hfew it hmem)

/-- When the culprits are left over, each innocent line reads its own translation, and no
other position reads one. -/
theorem get?_culprits (hbeh : Culprits B beh) (h : Levels maxSplits 1 lines R left)
    (hans : Answered (mockOracle { behavior := beh } target) R.flatten)
    (hnd : (lines.map (·.1)).Nodup) (hleft : left = lines.filter (·.1 ∈ B)) (p : Nat) :
    (R.flatten.foldl record []).get? p =
      ((lines.filter (·.1 ∉ B)).find? (·.1 == p)).map fun it => Mock.translated it.2 target := by
  have hcol := collected_record h hnd
  cases ht : (R.flatten.foldl record []).get? p with
  | none =>
    -- an innocent line with the position would have been translated
    symm
    rw [Option.map_eq_none_iff, List.find?_eq_none]
    intro it hit hp
    obtain ⟨hmem, hB⟩ := List.mem_filter.mp hit
    have hB : it.1 ∉ B := by simpa using hB
    obtain rfl : it.1 = p := by simpa using hp
    have hnotleft : it.1 ∉ left.map (·.1) := by
      rw [hleft]
      intro hl
      obtain ⟨it', hit', heq⟩ := List.mem_map.mp hl
      obtain rfl := List.inj_on_of_nodup_map hnd (List.mem_of_mem_filter hit') hmem heq
      exact hB (by simpa using (List.mem_filter.mp hit').2)
    have hsome := (hcol.keys it.1).mpr ⟨List.mem_map_of_mem hmem, hnotleft⟩
    simp [ht] at hsome
  | some v =>
    -- the one call that translated the position gave the line's own translation
    rw [hcol.get?_eq, List.head?_eq_some_iff] at ht
    obtain ⟨rest, hrest⟩ := ht
    obtain ⟨c, hc, hcv⟩ := List.mem_filterMap.mp (hrest ▸ List.mem_cons_self)
    unfold Call.translates at hcv
    split_ifs at hcv
    obtain ⟨log, hlog⟩ := hans c hc
    rw [Call.answer, hlog] at hcv
    obtain ⟨it, hit, rfl, rfl⟩ := textIn_eq_some hbeh log c.1 hcv
    have hB : it.1 ∉ B := fun hB => by
      rw [textIn_culprit hbeh log c.1 hit hB] at hcv
      cases hcv
    have hinno : it ∈ lines.filter (·.1 ∉ B) :=
      List.mem_filter.mpr ⟨h.sent c hc it hit, by simpa using hB⟩
    rw [find?_key_of_mem (nodup_filter hnd _) hinno, Option.map_some]

end Levels

/-- Graduated splitting against the scripted backend that fails every batch holding a culprit
position, or leaves the culprit positions out of its answers: given at least as many split
levels as lines to send, with distinct positions, the answer is a success exactly when no line
to send is a culprit, and otherwise names the culprit lines to send, in their order; either way
every other line to send is translated, to its own translation, and nothing else is. -/
theorem fallback_isolates_culprits (B : List Nat) (beh : Behavior) (hbeh : Culprits B beh)
    (target : String) (maxSplits : Nat) (items : List Item) (hpos : (items.map (·.1)).Nodup)
    (hsplits : (toSend items).length ≤ maxSplits) :
    ∃ t : Translations,
      ((fallback (recorded (mockOracle { behavior := beh } target)) maxSplits items).run []).1 =
        (if (toSend items).filter (·.1 ∈ B) = [] then .ok t
          else .error (.batchExhausted ((toSend items).filter (·.1 ∈ B)).length
            (((toSend items).filter (·.1 ∈ B)).map (·.1)) t)) ∧
      ∀ p, t.get? p = (((toSend items).filter (·.1 ∉ B)).find? (·.1 == p)).map
        fun it => Mock.translated it.2 target := by
  have hsettles : Settles (mockOracle { behavior := beh } target) := settles_culprits hbeh
  obtain ⟨R, left, hR, hans, hrun⟩ := run_fallback_answered hsettles maxSplits items
  have hnd : ((toSend items).map (·.1)).Nodup := Levels.nodup_filter hpos _
  have hleft : left = (toSend items).filter (·.1 ∈ B) := hR.left_eq_culprits hbeh hans hnd hsplits
  exact ⟨_, by rw [hrun, hleft], hR.get?_culprits hbeh hans hnd hleft⟩

/-- Three lines against a backend that fails every batch holding the second: three levels
isolate it, and the first and third are translated. -/
theorem fallback_isolates_second_line :
    Culprits [2] (.failChunks [2]) ∧
      (([(1, "Hello"), (2, "World"), (3, "Again")] : List Item).map (·.1)).Nodup ∧
      (toSend [(1, "Hello"), (2, "World"), (3, "Again")]).length ≤ 3 ∧
      ∃ t : Translations,
        ((fallback (recorded (mockOracle { behavior := .failChunks [2] } "fr")) 3
            [(1, "Hello"), (2, "World"), (3, "Again")]).run []).1 =
          (if (toSend [(1, "Hello"), (2, "World"), (3, "Again")]).filter (·.1 ∈ [2]) = [] then .ok t
            else .error (.batchExhausted
              ((toSend [(1, "Hello"), (2, "World"), (3, "Again")]).filter (·.1 ∈ [2])).length
              (((toSend [(1, "Hello"), (2, "World"), (3, "Again")]).filter (·.1 ∈ [2])).map (·.1)) t)) ∧
        ∀ p, t.get? p =
          (((toSend [(1, "Hello"), (2, "World"), (3, "Again")]).filter (·.1 ∉ [2])).find? (·.1 == p)).map
            fun it => Mock.translated it.2 "fr" :=
  ⟨.inl rfl, by decide, List.length_filter_le _ _,
    fallback_isolates_culprits [2] _ (.inl rfl) "fr" 3 _ (by decide) (List.length_filter_le _ _)⟩

end SubtitleQueue.Batch
