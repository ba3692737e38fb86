import SubtitleQueue.Files.Disk
import SubtitleQueue.Text.Utf8
import SubtitleQueue.Service.Request

/-!
Files in service requests. Each request works in a fresh temporary folder, written `$DIR`;
file contents come as text or as `{"hex": …}` for bytes that are not UTF-8.
-/

namespace SubtitleQueue.Service

open Files

/-- The request's temporary folder. -/
def tempRoot : String := "$DIR"

/-- A disk holding only the temporary folder. -/
def freshDisk : Disk := (Disk.put {} tempRoot .dir)

/-- The value of a hexadecimal digit. -/
def hexDigit? (c : Char) : Option Nat :=
  if c.isDigit then some (c.toNat - 48)
  else if 'a' ≤ c && c ≤ 'f' then some (c.toNat - 87)
  else if 'A' ≤ c && c ≤ 'F' then some (c.toNat - 55)
  else none

/-- Bytes written as pairs of hexadecimal digits. -/
def hexBytes? : List Char → Option (List UInt8)
  | [] => some []
  | a :: b :: rest => do
    let hi ← hexDigit? a
    let lo ← hexDigit? b
    let more ← hexBytes? rest
    pure ((hi * 16 + lo).toUInt8 :: more)
  | [_] => none

/-- File contents: text, `{"hex": …}`, or any other value as its JSON text. -/
def bytes? (j : Json) : Option ByteArray :=
  match j with
  | .str s => some s.toUTF8
  | .obj [("hex", .str h)] => (hexBytes? h.toList).map fun bs => ⟨bs.toArray⟩
  | _ => none

/-- A path under the temporary folder. -/
def underTemp (name : String) : String := join tempRoot name

/-- A path as printed: the part under the temporary folder, or the whole path. -/
def relativeToTemp (p : String) : String :=
  if p.startsWith (tempRoot ++ "/") then (p.drop (tempRoot.length + 1)).toString else p

end SubtitleQueue.Service
