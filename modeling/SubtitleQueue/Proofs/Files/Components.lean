import Mathlib
import SubtitleQueue.Files.Path

/-!
Paths as lists of components. Everything follows from one equation: splitting at a slash
splits the components (`pieces_append_slash`). So a name that does not start at the root,
appended to a directory, adds its components to the directory's (`components_join`); a path
with a file name has a parent holding the components but the last (`parent_of_fileName`);
and every component is a piece between two slashes, so none holds a slash.

Two paths are the same path (`SamePath`) when they start at the same place and have the same
components: `a//b/./c/` and `a/b/c` are one path.
-/

namespace SubtitleQueue.Files

/-- Two paths are the same path when both start at the root or neither does, and they have the
same components. -/
def SamePath (a b : String) : Prop := isAbsolute a = isAbsolute b ∧ components a = components b

/-- A name that can be a component of a path: not empty, not `.`, and without a slash. -/
structure IsComponent (c : String) : Prop where
  ne_empty : c ≠ ""
  ne_dot : c ≠ "."
  no_slash : '/' ∉ c.toList

/-- The components read off a list of characters. -/
def pieces (cs : List Char) : List String :=
  ((cs.splitOn '/').map String.ofList).filter fun c => !c.isEmpty && c != "."

theorem components_eq_pieces (p : String) : components p = pieces p.toList := rfl

@[simp] theorem components_empty : components "" = [] := rfl

@[simp] theorem isAbsolute_empty : isAbsolute "" = false := rfl

/-- No piece of a split holds the element split on. -/
theorem not_mem_of_mem_splitOn {α : Type} [BEq α] [LawfulBEq α] {a : α} :
    ∀ {xs l : List α}, l ∈ xs.splitOn a → a ∉ l
  | [], l, h => by simp_all
  | x :: xs, l, h => by
    rw [List.splitOn_cons_eq_if_modifyHead] at h
    split at h
    · rcases List.mem_cons.mp h with rfl | h
      · simp
      · exact not_mem_of_mem_splitOn h
    · rename_i hx
      obtain ⟨r, rs, hr⟩ := List.exists_cons_of_ne_nil (List.splitOn_ne_nil a xs)
      rw [hr, List.modifyHead_cons] at h
      rcases List.mem_cons.mp h with rfl | h
      · rintro (_ | ⟨_, hm⟩)
        · simp at hx
        · exact not_mem_of_mem_splitOn (hr ▸ List.mem_cons_self ..) hm
      · exact not_mem_of_mem_splitOn (hr ▸ List.mem_cons_of_mem _ h)

theorem isComponent_of_mem_pieces {cs : List Char} {c : String} (h : c ∈ pieces cs) :
    IsComponent c := by
  obtain ⟨hc, hk⟩ := List.mem_filter.mp h
  obtain ⟨l, hl, rfl⟩ := List.mem_map.mp hc
  simp only [Bool.and_eq_true, Bool.not_eq_true', String.isEmpty_eq_false_iff, bne_iff_ne,
    ne_eq] at hk
  exact ⟨hk.1, hk.2, by simpa using not_mem_of_mem_splitOn hl⟩

theorem isComponent_of_mem_components {p c : String} (h : c ∈ components p) : IsComponent c :=
  isComponent_of_mem_pieces h

/-- Splitting at a slash splits the components. -/
theorem pieces_append_slash (xs ys : List Char) :
    pieces (xs ++ '/' :: ys) = pieces xs ++ pieces ys := by
  unfold pieces
  rw [List.splitOn_append_cons_self, List.map_append, List.filter_append]

@[simp] theorem pieces_nil : pieces [] = [] := by decide

theorem pieces_slash_cons (ys : List Char) : pieces ('/' :: ys) = pieces ys := by
  simpa using pieces_append_slash [] ys

/-- A component is its own only component. -/
theorem pieces_component {c : String} (h : IsComponent c) : pieces c.toList = [c] := by
  unfold pieces
  rw [List.splitOn_eq_singleton h.no_slash]
  simp [h.ne_empty, h.ne_dot]

theorem pieces_intercalate {cs : List String} (h : ∀ c ∈ cs, IsComponent c) :
    pieces (['/'].intercalate (cs.map String.toList)) = cs := by
  rcases eq_or_ne cs [] with rfl | hne
  · rfl
  unfold pieces
  rw [List.splitOn_intercalate '/' (by simpa using fun c hc => (h c hc).no_slash)
    (by simpa using hne), List.map_map, List.filter_eq_self.mpr]
  · simp
  · intro c hc
    obtain ⟨d, hd, rfl⟩ := List.mem_map.mp hc
    simp [(h d hd).ne_empty, (h d hd).ne_dot]

/-- Writing components back and reading them again gives them back. -/
theorem components_ofComponents (abs : Bool) {cs : List String} (h : ∀ c ∈ cs, IsComponent c) :
    components (ofComponents abs cs) = cs := by
  cases abs <;>
    simp [components_eq_pieces, ofComponents, String.toList_intercalate, pieces_slash_cons,
      pieces_intercalate h]

theorem isAbsolute_ofComponents (abs : Bool) {cs : List String} (h : ∀ c ∈ cs, IsComponent c) :
    isAbsolute (ofComponents abs cs) = abs := by
  cases abs with
  | true => simp [isAbsolute, ofComponents]
  | false =>
    cases cs with
    | nil => rfl
    | cons c cs =>
      -- the path starts with the first letter of its first component, which is no slash
      have hc := h c (List.mem_cons_self ..)
      obtain ⟨x, xs, hx⟩ := List.exists_cons_of_ne_nil (mt String.toList_eq_nil_iff.mp hc.ne_empty)
      have hxs : x ≠ '/' := fun e => hc.no_slash (by simp [hx, e])
      simp [isAbsolute, ofComponents, String.toList_intercalate, hx, hxs]

section Join

variable {name : String}

/-- A name that does not start at the root adds its components to the directory's. -/
theorem components_join (dir : String) (h : isAbsolute name = false) :
    components (join dir name) = components dir ++ components name := by
  unfold join
  simp only [h, Bool.false_eq_true, if_false]
  split
  · rename_i he
    simp [String.isEmpty_iff.mp he]
  split
  · -- the directory already ends with its slash
    rename_i hl
    have hd : dir.toList = dir.toList.dropLast ++ ['/'] :=
      (List.dropLast_append_getLast? '/' (by simpa using hl)).symm
    rw [components_eq_pieces, components_eq_pieces, components_eq_pieces, String.toList_append, hd,
      List.append_assoc, List.singleton_append, pieces_append_slash, pieces_append_slash,
      pieces_nil, List.append_nil]
  · rw [components_eq_pieces, components_eq_pieces, components_eq_pieces]
    simp [pieces_append_slash]

theorem isAbsolute_join (dir : String) (h : isAbsolute name = false) :
    isAbsolute (join dir name) = isAbsolute dir := by
  unfold join
  simp only [h, Bool.false_eq_true, if_false]
  split
  · rename_i he
    simp [String.isEmpty_iff.mp he, h]
  have hne : dir.toList ≠ [] := by simpa using (show dir ≠ "" by simpa using ‹¬dir.isEmpty = true›)
  obtain ⟨x, xs, hx⟩ := List.exists_cons_of_ne_nil hne
  split <;> simp [isAbsolute, hx]

end Join

/-- The file name of a path is its last component. -/
theorem getLast?_components {p n : String} (h : fileName p = some n) :
    (components p).getLast? = some n := by
  unfold fileName at h
  split at h <;> simp_all

/-- A last component other than `..` is the file name. -/
theorem fileName_of_getLast? {p n : String} (h : (components p).getLast? = some n) (hn : n ≠ "..") :
    fileName p = some n := by
  unfold fileName
  rw [h]
  split
  · rename_i he
    exact absurd (Option.some.inj he) hn
  · rename_i he
    exact he.symm
  · contradiction

/-- A path with a file name has a parent: its components but the last, from the same start. -/
theorem parent_of_fileName {p n : String} (h : fileName p = some n) :
    ∃ q, parent p = some q ∧ components q ++ [n] = components p ∧ isAbsolute q = isAbsolute p := by
  have hl := getLast?_components h
  have hne : components p ≠ [] := by
    intro he
    simp [he] at hl
  have hcs : ∀ c ∈ (components p).dropLast, IsComponent c :=
    fun c hc => isComponent_of_mem_components (List.dropLast_subset _ hc)
  refine ⟨ofComponents (isAbsolute p) (components p).dropLast, ?_, ?_, ?_⟩
  · unfold parent
    split
    · contradiction
    · rfl
  · rw [components_ofComponents _ hcs]
    exact List.dropLast_append_getLast? n (by simpa using hl)
  · exact isAbsolute_ofComponents _ hcs

/-! The parts of a file name are pieces of it. -/

theorem subset_of_splitAtDot_fst {n x : String} (h : (splitAtDot n).1 = some x) :
    x.toList ⊆ n.toList := by
  unfold splitAtDot at h
  split at h
  · simp_all
  · dsimp only at h
    split at h
    · simp_all
    · split at h <;> simp only [Option.some.injEq] at h <;> subst h <;> simp [List.take_subset]

theorem subset_of_splitAtDot_snd {n x : String} (h : (splitAtDot n).2 = some x) :
    x.toList ⊆ n.toList := by
  unfold splitAtDot at h
  split at h
  · simp_all
  · dsimp only at h
    split at h
    · simp_all
    · split at h
      · simp at h
      · simp only [Option.some.injEq] at h
        subst h
        simp [List.drop_subset]

/-- The stem of a path is a piece of its file name. -/
theorem subset_of_fileStem {p st : String} (h : fileStem p = some st) :
    ∃ n, fileName p = some n ∧ st.toList ⊆ n.toList := by
  unfold fileStem at h
  obtain ⟨n, hn, hs⟩ := Option.bind_eq_some_iff.mp h
  refine ⟨n, hn, ?_⟩
  cases h1 : (splitAtDot n).1 with
  | none =>
    simp only [h1, Option.orElse_none] at hs
    exact subset_of_splitAtDot_snd hs
  | some b =>
    simp only [h1, Option.orElse_some, Option.some.injEq] at hs
    exact hs ▸ subset_of_splitAtDot_fst h1

theorem subset_of_splitLast {s h t : String} {c : Char} (hs : splitLast s c = some (h, t)) :
    h.toList ⊆ s.toList := by
  unfold splitLast at hs
  dsimp only at hs
  split at hs
  · simp at hs
  · simp only [Option.some.injEq, Prod.mk.injEq] at hs
    simp [← hs.1, List.take_subset]

end SubtitleQueue.Files
