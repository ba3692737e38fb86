/-!
Paths as text, split at slashes. A path's components are its non-empty pieces other than
`.`; the file name is the last one, the parent is what comes before it, and the stem and
extension split the file name at its last dot, where a dot at the very front does not count.
-/

namespace SubtitleQueue.Files

/-- Whether a path starts at the root. -/
def isAbsolute (p : String) : Bool := p.toList.head? == some '/'

/-- The components of a path. -/
def components (p : String) : List String :=
  ((p.toList.splitOn '/').map String.ofList).filter fun c => !c.isEmpty && c != "."

/-- Writes components back, from the root when `absolute`. -/
def ofComponents (absolute : Bool) (cs : List String) : String :=
  (if absolute then "/" else "") ++ "/".intercalate cs

/-- The last component, unless it is `..`. -/
def fileName (p : String) : Option String :=
  match (components p).getLast? with
  | some ".." => none
  | some c => some c
  | none => none

/-- The path without its last component; none for the root and the empty path. -/
def parent (p : String) : Option String :=
  match components p with
  | [] => none
  | cs => some (ofComponents (isAbsolute p) cs.dropLast)

/-- Appends a name to a directory path. -/
def join (dir name : String) : String :=
  if isAbsolute name then name
  else if dir.isEmpty then name
  else if dir.toList.getLast? == some '/' then dir ++ name
  else dir ++ "/" ++ name

/-- A file name split at its last dot: the part before (when not empty) and after. A name
starting with its only dot has no extension. -/
def splitAtDot (name : String) : Option String × Option String :=
  if name == ".." then (some name, none)
  else
    let cs := name.toList
    match cs.reverse.findIdx? (· == '.') with
    | none => (none, some name)
    | some k =>
      let cut := cs.length - 1 - k
      let before := String.ofList (cs.take cut)
      let after := String.ofList (cs.drop (cut + 1))
      if before.isEmpty then (some name, none) else (some before, some after)

/-- The file name without its extension. -/
def fileStem (p : String) : Option String :=
  (fileName p).bind fun n => let (b, a) := splitAtDot n; b.orElse fun _ => a

/-- The extension of the file name. -/
def extension (p : String) : Option String :=
  (fileName p).bind fun n => let (b, a) := splitAtDot n; b.bind fun _ => a

/-- Splits a text at its last occurrence of `c`. -/
def splitLast (s : String) (c : Char) : Option (String × String) :=
  let cs := s.toList
  match cs.reverse.findIdx? (· == c) with
  | none => none
  | some k =>
    let cut := cs.length - 1 - k
    some (String.ofList (cs.take cut), String.ofList (cs.drop (cut + 1)))

end SubtitleQueue.Files
