import SubtitleQueue.Files.Disk
import SubtitleQueue.Language.Code
import SubtitleQueue.Text.Case

/-!
Names of subtitle files. A subtitle for a media file shares its stem: `Movie.2020.mkv` has
`Movie.2020.fr.srt` beside it. The stem of a file drops a trailing language tag, so a
translated file is named after its source's stem and the target code in lower case. When the
media folder cannot be written, the same name is tried in the user's data folder and then in
the temporary folder.
-/

namespace SubtitleQueue.Subtitle

open Files

/-- The file stem without a trailing language tag; `subtitle` for a path with no file name. -/
def baseStem (path : String) : String :=
  let stem := (fileStem path).getD "subtitle"
  match splitLast stem '.' with
  | some (head, tag) => if !head.isEmpty && Language.isLanguageTag tag then head else stem
  | none => stem

/-- The file name of a translation of `source` into `target`. -/
def outputName (source target : String) : String :=
  baseStem source ++ "." ++ Text.lower target ++ ".srt"

/-- Where a translation may be written, in order: beside the source (when it has a folder),
the user's data folder, the temporary folder. -/
def outputCandidates (dataDir : Option String) (tempDir : String) (source target : String) :
    List String :=
  let name := outputName source target
  let beside := match parent source with
    | some p => [join p name]
    | none => []
  let data := match dataDir with
    | some d => [join (join (join d "yastq") "subtitles") name]
    | none => []
  beside ++ data ++ [join (join tempDir "yastq") name]

/-- A subtitle file found beside a media file, and the language its name gives. -/
structure Found where
  path : String
  language : Option String
  deriving Repr, DecidableEq

/-- The SubRip files in the media file's folder (not below it) whose names start with the
media's stem, sorted by path. -/
def discover (disk : Disk) (media : String) : List Found :=
  match parent media with
  | none => []
  | some dir =>
    let stem := baseStem media
    let files := (disk.children dir).filterMap fun n =>
      let p := join dir n
      let isSrt := (extension p).any (fun e => e.toList.map Char.toLower == "srt".toList)
      if disk.isFile p && isSrt && n.startsWith stem then
        let tag := (fileStem p).bind fun s => (splitLast s '.').map (·.2)
        some { path := p, language := (tag.filter Language.isLanguageTag).map Text.lower }
      else none
    files.mergeSort (fun a b => decide (a.path ≤ b.path))

end SubtitleQueue.Subtitle
