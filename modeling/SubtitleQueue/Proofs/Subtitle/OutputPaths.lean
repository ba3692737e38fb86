import Mathlib
import SubtitleQueue.Subtitle.Naming
import SubtitleQueue.Proofs.Files.Components

/-!
Where a translation is written. Every candidate is the output name `<base stem>.<target>.srt`
appended to a directory, and the output name never starts at the root, so a candidate's
components end with the output name's. A candidate can then be the source's own path only when
the source's path ends the same way; for a target without a slash, only when the source's file
name is the output name. That does happen: the base stem drops a trailing language tag, so the
source `Movie.fr.srt` translated into `fr` has itself as its first candidate.
-/

namespace SubtitleQueue.Subtitle

open Files

/-- The base stem is a piece of one component of the path, or the word `subtitle`. -/
theorem slash_not_mem_baseStem (p : String) : '/' ∉ (baseStem p).toList := by
  have hstem : '/' ∉ ((fileStem p).getD "subtitle").toList := by
    cases hf : fileStem p with
    | none => decide
    | some st =>
      obtain ⟨n, hn, hsub⟩ := subset_of_fileStem hf
      have hc : IsComponent n := isComponent_of_mem_components
        (List.mem_of_getLast? (getLast?_components hn))
      exact fun hm => hc.no_slash (hsub hm)
  unfold baseStem
  dsimp only
  split
  · rename_i head tag hsplit
    split
    · exact fun hm => hstem (subset_of_splitLast hsplit hm)
    · exact hstem
  · exact hstem

theorem isAbsolute_outputName (source target : String) :
    isAbsolute (outputName source target) = false := by
  have hb := slash_not_mem_baseStem source
  unfold outputName isAbsolute
  cases hc : (baseStem source).toList with
  | nil => simp [hc]
  | cons x xs =>
    have : x ≠ '/' := fun e => hb (by simp [hc, e])
    simp [hc, this]

/-- For a target whose lower case has no slash, the output name is one component. -/
theorem isComponent_outputName (source : String) {target : String}
    (h : '/' ∉ (Text.lower target).toList) : IsComponent (outputName source target) := by
  have hb := slash_not_mem_baseStem source
  have hl : (outputName source target).toList =
      (baseStem source).toList ++ '.' :: ((Text.lower target).toList ++ ['.', 's', 'r', 't']) := by
    simp [outputName]
  refine ⟨fun he => ?_, fun he => ?_, ?_⟩
  · simp [he] at hl
  · have := congrArg List.length hl
    simp [he] at this
    omega
  · rw [hl]
    simp [hb, h]

/-- Every candidate is the output name appended to a directory. -/
theorem exists_join_of_mem_outputCandidates {dataDir : Option String} {tempDir source target c : String}
    (h : c ∈ outputCandidates dataDir tempDir source target) :
    ∃ dir, c = join dir (outputName source target) := by
  unfold outputCandidates at h
  simp only [List.mem_append, List.mem_singleton] at h
  rcases h with (h | h) | h
  · split at h
    · exact ⟨_, List.mem_singleton.mp h⟩
    · simp at h
  · split at h
    · exact ⟨_, List.mem_singleton.mp h⟩
    · simp at h
  · exact ⟨_, h⟩

/-- The first candidate lies beside the source. -/
theorem outputCandidates_head? {dataDir : Option String} {tempDir source target p : String}
    (hp : parent source = some p) :
    (outputCandidates dataDir tempDir source target).head? =
      some (join p (outputName source target)) := by
  unfold outputCandidates
  simp only [hp, List.cons_append, List.head?_cons]

/-- A candidate that is the source's own path leaves the output name's components at the end of
the source's. -/
theorem suffix_of_samePath_candidate {dataDir : Option String} {tempDir source target c : String}
    (hc : c ∈ outputCandidates dataDir tempDir source target) (hs : SamePath c source) :
    components (outputName source target) <:+ components source := by
  obtain ⟨dir, hdir⟩ := exists_join_of_mem_outputCandidates hc
  rw [← hs.2, hdir, components_join dir (isAbsolute_outputName source target)]
  exact List.suffix_append _ _

/-- No candidate is the source's own path, unless the source's path ends with the output name's
components; for a target whose lower case has no slash, unless the source's file name is the
output name. A source whose file name is the output name is its own first candidate. -/
theorem outputCandidate_is_source_only_when_named_so (dataDir : Option String)
    (tempDir source target : String) :
    (∀ c ∈ outputCandidates dataDir tempDir source target, SamePath c source →
      components (outputName source target) <:+ components source) ∧
    ('/' ∉ (Text.lower target).toList →
      ∀ c ∈ outputCandidates dataDir tempDir source target, SamePath c source →
        fileName source = some (outputName source target)) ∧
    (fileName source = some (outputName source target) →
      ∃ c, (outputCandidates dataDir tempDir source target).head? = some c ∧ SamePath c source) := by
  have hn := isAbsolute_outputName source target
  refine ⟨fun c hc hs => suffix_of_samePath_candidate hc hs, fun ht c hc hs => ?_, fun hf => ?_⟩
  · -- the output name is one component, so it is the source's last
    have hone := isComponent_outputName source ht
    have hsuf := suffix_of_samePath_candidate hc hs
    rw [components_eq_pieces (outputName _ _), pieces_component hone] at hsuf
    obtain ⟨init, hinit⟩ := hsuf
    refine fileName_of_getLast? (by simp [← hinit]) fun he => ?_
    have := congrArg (·.toList.length) he
    simp [outputName] at this
    omega
  · obtain ⟨p, hp, hcs, habs⟩ := parent_of_fileName hf
    have hc : IsComponent (outputName source target) :=
      isComponent_of_mem_components (List.mem_of_getLast? (getLast?_components hf))
    refine ⟨_, outputCandidates_head? hp, ?_, ?_⟩
    · rw [isAbsolute_join p hn, habs]
    · rw [components_join p hn, components_eq_pieces (outputName _ _), pieces_component hc, hcs]

/-- A subtitle already named for the target language is its own first candidate: translating
`/media/Movie.fr.srt` into `fr` writes over it. -/
theorem outputCandidates_overwrite_tagged_source :
    "/media/Movie.fr.srt" ∈
      outputCandidates (some "/home/user/.local/share") "/tmp" "/media/Movie.fr.srt" "fr" := by
  decide +kernel

end SubtitleQueue.Subtitle
