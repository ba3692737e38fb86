/-!
Suggestions for mistyped names, by the Jaro similarity of two words. Two characters match when
they are equal and no further apart than half the longer word's length less one; each
character matches at most once, the first free one in order. With `m` matches, of which `t`
pairs are out of order, the similarity is `(m/|a| + m/|b| + (m - t)/m) / 3`, and zero without
matches.

A name is suggested when its similarity to the word is above `0.7`; candidates are ordered by
similarity, least similar first, keeping the given order among equals. The similarity is kept
as an exact fraction, so the comparisons are exact.
-/

namespace SubtitleQueue.Cli

/-- A similarity as a fraction. -/
structure Ratio where
  num : Nat
  den : Nat
  deriving Inhabited

/-- Whether one fraction is below another. -/
def Ratio.lt (a b : Ratio) : Bool := a.num * b.den < b.num * a.den

/-- Marks the first unmatched character of `b` equal to `c` within the window `[lo, hi)`;
none when there is none. -/
def claimIn (c : Char) (lo hi : Nat) : List (Char × Bool) → Nat → Option (List (Char × Bool))
  | [], _ => none
  | (d, used) :: rest, j =>
    if lo ≤ j && j < hi && d == c && !used then some ((d, true) :: rest)
    else ((claimIn c lo hi rest (j + 1)).map fun r => (d, used) :: r)

/-- The matching step: for each character of `a`, whether it matched, and the characters of
`b` with whether they were matched. -/
def matchAll (range : Nat) (bLen : Nat) : List Char → Nat → List (Char × Bool) →
    List Bool × List (Char × Bool)
  | [], _, bs => ([], bs)
  | c :: rest, i, bs =>
    let lo := i - range
    let hi := min bLen (i + range + 1)
    match claimIn c lo hi bs 0 with
    | some bs' =>
      let (flags, final) := matchAll range bLen rest (i + 1) bs'
      (true :: flags, final)
    | none =>
      let (flags, final) := matchAll range bLen rest (i + 1) bs
      (false :: flags, final)

/-- The Jaro similarity of two words. -/
def jaro (a b : String) : Ratio :=
  let as := a.toList
  let bs := b.toList
  if as.isEmpty && bs.isEmpty then ⟨1, 1⟩
  else if as.isEmpty || bs.isEmpty then ⟨0, 1⟩
  else
    let range := max as.length bs.length / 2 - 1
    let (flags, marked) := matchAll range bs.length as 0 (bs.map (·, false))
    let fromA := (as.zip flags).filterMap fun (c, f) => if f then some c else none
    let fromB := marked.filterMap fun (c, f) => if f then some c else none
    let m := fromA.length
    if m == 0 then ⟨0, 1⟩
    else
      let t := ((fromA.zip fromB).filter fun (x, y) => x != y).length / 2
      -- (m/|a| + m/|b| + (m-t)/m) / 3 over the common denominator 3·|a|·|b|·m
      ⟨m * m * bs.length + m * m * as.length + (m - t) * as.length * bs.length,
       3 * as.length * bs.length * m⟩

/-- The names similar to a word, least similar first. -/
def similar (word : String) (names : List String) : List String :=
  let scored := (names.map fun n => (jaro word n, n)).filter fun (r, _) =>
    -- above 0.7
    10 * r.num > 7 * r.den
  (scored.mergeSort fun x y => !(y.1.lt x.1)).map (·.2)

/-- The name most similar to a word, when one is similar enough. -/
def mostSimilar? (word : String) (names : List String) : Option String :=
  (similar word names).getLast?

end SubtitleQueue.Cli
