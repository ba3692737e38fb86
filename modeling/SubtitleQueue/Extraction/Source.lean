import SubtitleQueue.Extraction.Tools

/-!
Where the subtitles embedded in a media file come from. An extractor lists the subtitle
tracks of a file and turns one track into a SubRip file in a given folder, named after the
media file, the track and its language.

An extractor either runs the media tools, or answers from a script: the tracks it lists (or
the failure of listing), and the bytes a track becomes (none fails the way a converter that
exits with an error does; it may also produce no file at all).
-/

namespace SubtitleQueue.Extraction

open Files

/-- A scripted extractor. -/
structure Script where
  tracks : List Track := []
  listError : Option String := none
  content : Option ByteArray := none
  noOutput : Bool := false
  deriving Inhabited

/-- Where embedded subtitles come from. -/
inductive Extractor where
  | scripted (s : Script)
  | tools (t : Tools)
  deriving Inhabited

/-- The file a track becomes: the media file's stem, the track's index and its language. -/
def outputFile (media : String) (index : Nat) (language : Option String) : String :=
  (fileStem media).getD "" ++ "." ++ toString index ++ "." ++ language.getD "und" ++ ".srt"

namespace Extractor

/-- The subtitle tracks of a media file. -/
def tracks (e : Extractor) (media : String) : Run (Except Fault (List Track)) := do
  modify fun w => { w with listings := w.listings + 1 }
  match e with
  | .scripted s =>
    match s.listError with
    | some m => return .error (Fault.msg m)
    | none => return .ok s.tracks
  | .tools t => t.tracks media

/-- Turns a track into a SubRip file in `outDir`; the file, if one was made. -/
def extract (e : Extractor) (media : String) (index : Nat) (outDir codec : String)
    (language : Option String) : Run (Except Fault (Option String)) := do
  modify fun w => { w with extractions := w.extractions.push (index, codec, language) }
  match e with
  | .scripted s =>
    if s.noOutput then return .ok none
    match s.content with
    | none => return .error (Fault.msg "ffmpeg exited with status 1")
    | some bytes =>
      let path := join outDir (outputFile media index language)
      match (← get).disk.write path bytes with
      | .ok disk => modify (fun w => { w with disk }); return .ok (some path)
      | .error err => return .error (Fault.msg err.message)
  | .tools t => t.extract media index outDir codec language

end Extractor

end SubtitleQueue.Extraction
