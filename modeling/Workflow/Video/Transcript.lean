import Workflow.Http
import Workflow.Text.Replace
/-!
# Transcripts of videos

The page of a video lists caption tracks. The track in the wanted language leads to a document of
timed text, and its words make up the transcript.

## Main definitions

* `Transcript.tracks?` — the caption tracks that a page lists.
* `Transcript.text` — the words of a document of timed text.
* `Transcript.fetch` — the transcript of a video.
-/

namespace Workflow.Transcript

/-- What stands in a page before its caption tracks. -/
def marker : List Char := "\"captionTracks\":".toList

/-- The caption tracks that a page lists behind the first marker; an empty list counts as none. -/
def tracks? (page : String) : Option (List Json) := do
  let (_, rest) ← Text.cut marker page.toList
  let (tracks, _) ← Json.Reader.value Json.Reader.maxDepth (Json.Reader.skipSpace rest)
  (← tracks.array?) |> fun tracks => if tracks.isEmpty then none else some tracks

/-- Where the track in a language is to be found. -/
def trackAddress? (tracks : List Json) (language : String) : Option String := do
  (← tracks.find? fun track => track.text? "languageCode" == some language).text? "baseUrl"

/-- The text of an event, its segments put together; nothing if it has no segments. -/
def eventText? (event : Json) : Option String :=
  ((event.member? "segs").bind Json.array?).map fun segments =>
    String.join (segments.filterMap (·.text? "utf8"))

/-- Words with one space between them. -/
def spaced (s : String) : List Char := Text.joinWith [' '] (Text.words s.toList)

/-- The words of a document of timed text, with one space between them. -/
def text (document : Json) : String :=
  let events := ((document.member? "events").bind Json.array?).getD []
  let lines := (events.filterMap eventText?).map spaced
  String.ofList (Text.joinWith [' '] (lines.filter (! ·.isEmpty)))

def service (patience : Nat) : Service := ⟨"YouTube", patience⟩

def pageCall (base videoId language : String) : HttpCall where
  method := .get
  address := HttpCall.below base "/watch"
  query := [("v", videoId), ("hl", language)]

/-- An address that starts with a slash is one below the base. -/
def trackCall (base address : String) : HttpCall where
  method := .get
  address := if address.startsWith "/" then HttpCall.below base address else address
  query := [("fmt", "json3")]

def badStatus (call : HttpCall) (status : Nat) : Failure :=
  let side := if HttpStatus.isClientError status then "client" else "server"
  let url := (call.target?.map fun url => (HttpCall.withoutLogin url).text).getD ""
  .execution ("YouTube request failed: HTTP status " ++ side ++ " error ("
    ++ HttpStatus.text status ++ ") for url (" ++ url ++ ")")

def noTracks (videoId : String) : Failure :=
  .execution ("No transcripts available for video " ++ videoId)

def noTrack (videoId language : String) : Failure :=
  .execution ("No '" ++ language ++ "' transcript available for video " ++ videoId)

/-- The page of a video. A page that does not come in time is a lost connection. -/
def page (base videoId language : String) (patience : Nat) : Action String := do
  let call := pageCall base videoId language
  match ← Service.send call with
  | .answered status body =>
    if HttpStatus.isClientError status || HttpStatus.isServerError status then
      Action.fail (badStatus call status)
    else match body with
      | some page => return page
      | none => Action.fail (service patience).unreadable
  | _ => Action.fail (service patience).unreachable

/-- The transcript of a video. -/
def fetch (base videoId language : String) (patience : Nat := 120) : Action String := do
  let page ← page base videoId language patience
  match tracks? page with
  | none => Action.fail (noTracks videoId)
  | some tracks =>
    match trackAddress? tracks language with
    | none => Action.fail (noTrack videoId language)
    | some address =>
      let document ← (service patience).json (trackCall base address)
      let transcript := text document
      if transcript.isEmpty then Action.fail (.execution "Empty transcript returned")
      else return transcript

end Workflow.Transcript
