import Workflow.Completion.Chat
import Workflow.Video.Transcript
/-!
# Summaries of videos

A failure is put out and recorded; the node itself does not fail once its options are accepted.

## Main definitions

* `VideoOptions` — which video, and in which language.
* `videoSummary youTube openAi` — the node that summarises a video's transcript.
-/

namespace Workflow

structure VideoOptions where
  videoId : String
  language : String
  deriving DecidableEq, Repr

namespace VideoOptions

def defaultLanguage : String := "en"

/-- Identifiers are made of letters, digits, hyphens and underscores. -/
def isIdentifier (s : String) : Bool := s.toList.all fun c => c.isAlphanum || c == '-' || c == '_'

def ofParams (params : Params) : Except Failure VideoOptions := do
  let videoId := Text.trimString (← params.requiredString "video_id")
  if ! isIdentifier videoId then throw (.invalidParam "video_id" "expected a YouTube video id")
  let language := (← params.filledString "language").getD defaultLanguage
  return { videoId, language }

end VideoOptions

namespace VideoSummary

def model : String := "gpt-3.5-turbo"

def instruction : String := "Summarize this in 3 bullet points:"

/-- The summary of a video. The credential is looked at after the transcript has come. -/
def summary (youTube openAi : String) (options : VideoOptions) : Action String := do
  let transcript ← Transcript.fetch youTube options.videoId options.language
  let key ← (← Action.state).credentials.requiredString "openai"
  Chat.complete openAi key (Chat.body model [⟨.system, instruction⟩, ⟨.user, transcript⟩])

def succeeded (videoId summary : String) : Value :=
  .ofFields [("summary", .string summary), ("video_id", .string videoId),
    ("status", .string "success")]

def failed (reason : String) : Value :=
  .ofFields [("status", .string "failed"), ("reason", .string reason)]

/-- The node's work. -/
def run (youTube openAi : String) (context : Context) : Action Unit := do
  let options ← VideoOptions.ofParams context.params
  Action.info ("Fetching transcript for video " ++ options.videoId)
  match ← (summary youTube openAi options).attempt with
  | .ok summary => Action.modifyState (·.withOutput (succeeded options.videoId summary))
  | .error failure => Action.modifyState fun state =>
      (state.withError failure.detail).withOutput (failed failure.detail)

end VideoSummary

def videoSummary (youTube openAi : String) : Node where
  id := "video_summary"
  run := VideoSummary.run youTube openAi
  check params := (VideoOptions.ofParams params).map fun _ => ()
  description := {
    text := "Summarise a YouTube video's transcript with OpenAI"
    category := "llm"
    params := [
      ⟨"video_id", "YouTube video id", true⟩,
      ⟨"language", "Transcript language code (default en)", false⟩] }

end Workflow
