/-!
Reading bytes as UTF-8 text. Strict reading refuses anything that is not well-formed;
lenient reading replaces each maximal ill-formed piece (a byte that cannot start a
character, or the longest start of a character that breaks off) by U+FFFD.
-/

namespace SubtitleQueue.Text

/-- The allowed range of the second byte after a leading byte, and the number of further
continuation bytes. -/
def leadShape (b : Nat) : Option ((Nat × Nat) × Nat) :=
  if 0xC2 ≤ b && b ≤ 0xDF then some ((0x80, 0xBF), 0)
  else if b == 0xE0 then some ((0xA0, 0xBF), 1)
  else if (0xE1 ≤ b && b ≤ 0xEC) || b == 0xEE || b == 0xEF then some ((0x80, 0xBF), 1)
  else if b == 0xED then some ((0x80, 0x9F), 1)
  else if b == 0xF0 then some ((0x90, 0xBF), 2)
  else if 0xF1 ≤ b && b ≤ 0xF3 then some ((0x80, 0xBF), 2)
  else if b == 0xF4 then some ((0x80, 0x8F), 2)
  else none

/-- Whether a byte continues a character. -/
def isContinuation (b : Nat) : Bool := 0x80 ≤ b && b ≤ 0xBF

/-- How many bytes at the front form one piece, and the character they make (none for an
ill-formed piece). -/
def frontPiece : List Nat → Nat × Option Char
  | [] => (0, none)
  | b :: rest =>
    if b < 0x80 then (1, some (Char.ofNat b))
    else match leadShape b with
      | none => (1, none)
      | some ((lo, hi), more) =>
        match rest with
        | c :: rest' =>
          if lo ≤ c && c ≤ hi then
            let tail := rest'.take more
            let good := tail.takeWhile isContinuation
            if good.length == more then
              let init := b % (if more == 0 then 0x20 else if more == 1 then 0x10 else 0x08)
              let v := (c % 0x40 :: good.map (· % 0x40)).foldl (fun acc x => acc * 64 + x) init
              (2 + more, some (Char.ofNat v))
            else (2 + good.length, none)
          else (1, none)
        | [] => (1, none)

/-- The characters of bytes, each ill-formed piece replaced, or `none` at the first
ill-formed piece when `strict`. -/
def decodeWith (strict : Bool) (bytes : List Nat) : Option (List Char) :=
  go bytes.length bytes
where
  go : Nat → List Nat → Option (List Char)
    | 0, _ => some []
    | _, [] => some []
    | fuel + 1, bs =>
      let (n, c) := frontPiece bs
      match c with
      | some c => (go fuel (bs.drop (max n 1))).map (c :: ·)
      | none => if strict then none else (go fuel (bs.drop (max n 1))).map ('\uFFFD' :: ·)

/-- Well-formed UTF-8 bytes as text. -/
def decodeStrict (bytes : ByteArray) : Option String :=
  (decodeWith true (bytes.toList.map (·.toNat))).map String.ofList

/-- Bytes as text, ill-formed pieces replaced. -/
def decodeLossy (bytes : ByteArray) : String :=
  String.ofList ((decodeWith false (bytes.toList.map (·.toNat))).getD [])

end SubtitleQueue.Text
