import SubtitleQueue.Language.Code
import SubtitleQueue.Text.Case

/-!
Subtitle tracks embedded in a video, and the choice of the one to extract. Bitmap tracks
cannot become text and are passed over. A track suits a language when its language tag names
it, or when its title contains the language's English name (ignoring case). The preferred
language is tried first, then English, then the first text track.
-/

namespace SubtitleQueue.Extraction

/-- An embedded subtitle stream. -/
structure Track where
  index : Nat
  codec : String
  language : Option String := none
  title : Option String := none
  deriving Repr, DecidableEq, Inhabited

/-- Codecs that store subtitles as pictures. -/
def bitmapCodecs : List String := ["hdmv_pgs_subtitle", "dvd_subtitle", "dvb_subtitle", "xsub"]

/-- Whether a track stores pictures. -/
def Track.isBitmap (t : Track) : Bool := bitmapCodecs.contains t.codec

/-- Whether a track suits the language `code`. -/
def Track.suits (t : Track) (code : String) : Bool :=
  (t.language.any fun l => Language.sameLanguage l code) ||
    match t.title, Language.name code with
    | some title, .ok n => Text.containsText (Text.lower title) (Text.lower n)
    | _, _ => false

/-- The track to extract for `preferred`. -/
def select (tracks : List Track) (preferred : String) : Option Track :=
  let text := tracks.filter (!·.isBitmap)
  match text.find? (·.suits preferred) with
  | some t => some t
  | none =>
    match text.find? (·.suits "en") with
    | some t => some t
    | none => text.head?

end SubtitleQueue.Extraction
