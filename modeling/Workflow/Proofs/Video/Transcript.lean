import Workflow.Proofs.Text.Spacing
import Workflow.Video.Transcript

/-!
# What a transcript says

A document of timed text is a list of events, and an event a list of segments. Segments are put
together as they are, so a word may run over several of them; between events there is a space. The
transcript has the words of the whole, and single spaces for all of its white space.

## Main definitions

* `Transcript.said`, `Transcript.uttered?`, `Transcript.utterances` — the text of a segment, of an
  event, and of all events.
* `Transcript.Transcribes utterances transcript` — what a transcript is for the texts of the events.
* `Transcript.transcribes_text` — the transcript of any document.
-/

namespace Workflow.Transcript
open Text (isBlank words joinWith IsSpaced)

/-- What a segment says. It says nothing without a text, or if the text is something else. -/
def said : Json → List Char
  | .object members =>
    match members.lookup "utf8" with
    | some (.string s) => s.toList
    | _ => []
  | _ => []

/-- What an event says, its segments one right behind the other, if it has an array of them. -/
def uttered? : Json → Option (List Char)
  | .object members =>
    match members.lookup "segs" with
    | some (.array segments) => some (segments.flatMap said)
    | _ => none
  | _ => none

/-- What the events of a document say, those with segments, in order. -/
def utterances : Json → List (List Char)
  | .object members =>
    match members.lookup "events" with
    | some (.array events) => events.filterMap uttered?
    | _ => []
  | _ => []

/-- A transcript of events with the given texts. -/
structure Transcribes (utterances : List (List Char)) (transcript : List Char) : Prop where
  /-- It has the words of the whole with one space between them. -/
  normal : transcript = joinWith [' '] (words (joinWith [' '] utterances))
  spaced : IsSpaced transcript
  /-- No character is lost that is not blank. -/
  kept : transcript.filter (! isBlank ·) = utterances.flatten.filter (! isBlank ·)
  /-- Its words are those of the events one after another: none is split, and none are merged. -/
  words_eq : words transcript = utterances.flatMap words
  empty_iff : transcript = [] ↔ ∀ utterance ∈ utterances, ∀ c ∈ utterance, isBlank c = true

/-! ## Reading a document -/

theorem toList_text? (segment : Json) :
    ((segment.text? "utf8").getD "").toList = said segment := by
  cases segment with
  | object members =>
      cases content : members.lookup "utf8" with
      | none => simp [Json.text?, Json.member?, said, content]
      | some json => cases json <;> simp [Json.text?, Json.member?, said, content, Json.string?]
  | _ => rfl

/-- A segment without a text makes no difference, like one that says nothing. -/
theorem flatMap_texts (segments : List Json) :
    (segments.filterMap (·.text? "utf8")).flatMap String.toList = segments.flatMap said := by
  rw [List.filterMap_eq_flatMap_toList, List.flatMap_assoc]
  refine List.flatMap_congr fun segment _ => ?_
  rw [← toList_text?]
  cases segment.text? "utf8" <;> simp

theorem map_eventText? (event : Json) :
    (eventText? event).map String.toList = uttered? event := by
  cases event with
  | object members =>
      cases content : members.lookup "segs" with
      | none => simp [eventText?, Json.member?, uttered?, content]
      | some json =>
          cases json <;>
            simp [eventText?, Json.member?, uttered?, content, Json.array?, flatMap_texts]
  | _ => rfl

theorem map_filterMap_eventText? (events : List Json) :
    (events.filterMap eventText?).map String.toList = events.filterMap uttered? := by
  rw [List.map_filterMap]
  exact List.filterMap_congr fun event _ => map_eventText? event

theorem map_texts (document : Json) :
    ((((document.member? "events").bind Json.array?).getD []).filterMap eventText?).map
      String.toList = utterances document := by
  rw [map_filterMap_eventText?]
  cases document with
  | object members =>
      cases content : members.lookup "events" with
      | none => simp [Json.member?, utterances, content]
      | some json => cases json <;> simp [Json.member?, utterances, content, Json.array?]
  | _ => rfl

/-! ## Its transcript -/

theorem toList_text (document : Json) :
    (text document).toList = joinWith [' '] ((utterances document).flatMap words) := by
  have lines : ∀ texts : List String, texts.map spaced =
      ((texts.map String.toList).map words).map (joinWith [' ']) := by
    intro texts
    simp [spaced, Function.comp_def]
  have filled : ∀ group ∈ (utterances document).map words, [] ∉ group := by
    simpa using fun utterance _ => Text.nil_not_mem_words utterance
  rw [text, String.toList_ofList, lines, map_texts, Text.joinWith_filter_map filled,
    List.flatMap_def]

/-- The transcript of a document has the words that its events utter, and one space between two. It
is empty only if the events utter nothing but white space. -/
theorem transcribes_text (document : Json) :
    Transcribes (utterances document) (text document).toList := by
  have blank : isBlank ' ' = true := by decide
  have normal : (text document).toList =
      joinWith [' '] (words (joinWith [' '] (utterances document))) := by
    rw [toList_text, Text.words_joinWith blank]
  have content : words (text document).toList = (utterances document).flatMap words := by
    rw [normal, Text.words_joinWith_words blank, Text.words_joinWith blank]
  refine ⟨normal, ?_, ?_, content, ?_⟩
  · rw [normal]
    refine Text.isSpaced_joinWith fun word member => ?_
    exact ⟨Text.ne_nil_of_mem_words member, fun c inside => (Text.of_mem_words member inside).2⟩
  · rw [normal, Text.filter_joinWith blank, Text.flatten_words, List.filter_filter]
    simp only [Bool.and_self, Text.filter_joinWith blank]
  · have filled : [] ∉ (utterances document).flatMap words := by
      simpa using fun utterance _ => Text.nil_not_mem_words utterance
    rw [toList_text, Text.joinWith_eq_nil_iff filled, List.flatMap_eq_nil_iff]
    simp only [Text.words_eq_nil_iff, Text.allBlank, List.all_eq_true]

/-- A word runs over two segments, an event is blank, and one has no segments at all. -/
example :
    let segment (s : String) : Json := .object [("utf8", .string s)]
    let event (segments : List Json) : Json := .object [("segs", .array segments)]
    text (.object [("events", .array [event [segment " over", .null, segment "all\n"],
      event [segment "\n"], .object [], event [segment "two"]])]) = "overall two" := by
  rfl

end Workflow.Transcript
