import Workflow.Pdf
import Workflow.Proofs.Pdf.Printed
import Workflow.Proofs.Pdf.Reader

/-!
# How the objects of a document read

Each object of a document is read back as it was meant: its lines are not mistaken for the ends or
the headings of objects, its references lead to objects of the document, and a page, the page tree
and a stream say what they were made from.

## Main definitions

* `Pdf.Legible count object` — what the reading of a file relies on, for one of `count` objects.
* `Pdf.legible_of_mem_objects` — all objects of a document are legible.
* `Pdf.lineTokens_pageTree`, `Pdf.lineTokens_page`, `Pdf.split_stream` — what objects say.
-/

namespace Workflow.Pdf

open Reader

/-- What the reading of a file relies on in the body of one of `count` objects. -/
structure Legible (count : Nat) (object : Object) : Prop where
  ascii : ∀ c ∈ object.body, isPrinted c = true ∨ c = '\n'
  inner : ∀ line ∈ split object.body, ¬ "obj".toList <:+ line
  /-- No stream is left open. -/
  closed : ∀ back, bare false (split object.body ++ back) =
    bare false (split object.body) ++ bare false back
  unsized : "/Size".toList ∉ tokens (split object.body)
  unstarted : "startxref".toList ∉ tokens (split object.body)
  resolved : ∀ label ∈ references (tokens (split object.body)),
    label.number ∈ List.range' 1 count ∧ label.generation = 0

/-! ## Bodies on one line -/

/-- A printed character that stands in none of the words `endobj`, `/Size`, `startxref` and `stream`
by which lines and keys are told apart. -/
def isIdle (c : Char) : Bool := isPrinted c && !(c == 'j' || c == 'z' || c == 'f' || c == 'm')

theorem isIdle_of_mem_digits {n : Nat} : ∀ c ∈ digits n, isIdle c = true := by
  intro c member
  have digit : c.isDigit = true :=
    Nat.isDigit_of_mem_toDigits (by decide) (by decide) member
  have differs : (c == 'j' || c == 'z' || c == 'f' || c == 'm') = false := by
    simp only [Bool.or_eq_false_iff, beq_eq_false_iff_ne]
    refine ⟨⟨⟨?_, ?_⟩, ?_⟩, ?_⟩ <;> (rintro rfl; exact absurd digit (by decide))
  simp [isIdle, isPrinted_of_isDigit digit, differs]

theorem not_mem_of_isIdle {cs : List Char} (idle : ∀ c ∈ cs, isIdle c = true) {c : Char}
    (other : isIdle c = false) : c ∉ cs := by
  intro member
  rw [idle c member] at other
  cases other

theorem not_stream_of_idle {line : List Char} (idle : ∀ c ∈ line, isIdle c = true) :
    "stream".toList ∉ [line] := by
  rw [List.mem_singleton]
  rintro rfl
  exact absurd (idle 'm' (by decide)) (by decide)

section Line

variable {count : Nat} {object : Object} {line : List Char}

theorem split_of_idle (idle : ∀ c ∈ line, isIdle c = true) : split line = [line] :=
  split_eq_singleton (not_mem_of_isIdle idle (by decide))

theorem bare_of_idle (idle : ∀ c ∈ line, isIdle c = true) (back : List (List Char)) :
    bare false (line :: back) = line :: bare false back :=
  bare_append (not_stream_of_idle idle) back

theorem tokens_of_idle (idle : ∀ c ∈ line, isIdle c = true) :
    tokens (split line) = lineTokens line := by
  rw [split_of_idle idle, tokens, bare_of_idle idle]
  simp [bare]

/-- A body of idle characters is legible if its references lead to objects. -/
theorem legible_of_idle (idle : ∀ c ∈ object.body, isIdle c = true)
    (resolved : ∀ label ∈ references (lineTokens object.body),
      label.number ∈ List.range' 1 count ∧ label.generation = 0) : Legible count object := by
  have absent : ∀ {word : List Char} (c : Char), c ∈ word → isIdle c = false →
      word ∉ lineTokens object.body := fun c inside other member =>
    not_mem_of_isIdle idle other (mem_of_mem_lineTokens member inside)
  constructor
  · intro c member
    have := idle c member
    simp only [isIdle, Bool.and_eq_true] at this
    exact .inl this.1
  · rw [split_of_idle idle]
    intro line member ends
    rw [List.mem_singleton.mp member] at ends
    exact not_mem_of_isIdle idle (c := 'j') (by decide) (ends.subset (by decide))
  · intro back
    rw [split_of_idle idle, List.singleton_append, bare_of_idle idle, bare_of_idle idle]
    rfl
  · rw [tokens_of_idle idle]
    exact absent 'z' (by decide) (by decide)
  · rw [tokens_of_idle idle]
    exact absent 'f' (by decide) (by decide)
  · rw [tokens_of_idle idle]
    exact resolved

end Line

/-! ## References -/

/-- The tokens of a reference. -/
def referenceTokens (id : Nat) : List (List Char) := [digits id, ['0'], ['R']]

theorem lineTokens_digits (n : Nat) : lineTokens (digits n) = [digits n] := lineTokens_toDigits n

theorem lineTokens_reference (id : Nat) : lineTokens (reference id) = referenceTokens id := by
  have apart : reference id = digits id ++ ' ' :: "0 R".toList := rfl
  rw [apart, lineTokens_append_space, lineTokens_digits]
  rfl

theorem references_append_tokens (ids : List Nat) (back : List (List Char)) :
    references (ids.flatMap referenceTokens ++ back) = ids.map (⟨·, 0⟩) ++ references back := by
  induction ids with
  | nil => rfl
  | cons id rest ih =>
      have first := references_cons_reference id (rest.flatMap referenceTokens ++ back)
      rw [List.flatMap_cons, List.append_assoc, List.map_cons, List.cons_append, ← ih, ← first]
      rfl

theorem ne_digits {word : List Char} {c : Char} (inside : c ∈ word) (other : c.isDigit = false)
    {n : Nat} : word ≠ digits n := by
  rintro rfl
  rw [Nat.isDigit_of_mem_toDigits (by decide) (by decide) inside] at other
  cases other

/-- A word with another character than digits and `R` stands in no reference. -/
theorem not_mem_referenceTokens {word : List Char} {c : Char} (inside : c ∈ word)
    (other : c.isDigit = false ∧ c ≠ 'R') (ids : List Nat) :
    word ∉ ids.flatMap referenceTokens := by
  intro member
  simp only [List.mem_flatMap, referenceTokens, List.mem_cons, List.not_mem_nil, or_false] at member
  obtain ⟨id, _, same | rfl | rfl⟩ := member
  · exact ne_digits inside other.1 same
  · rw [List.mem_singleton.mp inside] at other
    exact absurd other.1 (by decide)
  · exact other.2 (List.mem_singleton.mp inside)

/-! ## The page tree -/

theorem lineTokens_pageTree (pages : Nat) :
    lineTokens (pageTree pages).body =
      ["<<".toList, "/Type".toList, "/Pages".toList, "/Kids".toList, ['[']]
        ++ ((List.range pages).map pageId).flatMap referenceTokens
        ++ [[']'], "/Count".toList, digits pages, ">>".toList] := by
  let kids := Text.joinWith [' '] ((List.range pages).map fun i => reference (pageId i))
  have apart : (pageTree pages).body = "<< /Type /Pages /Kids".toList ++ ' ' ::
      (('[' :: kids ++ [']']) ++ ' ' :: ("/Count".toList ++ ' ' ::
        (digits pages ++ ' ' :: ">>".toList))) := by
    simp [pageTree, kids]
  have inner : lineTokens kids = ((List.range pages).map pageId).flatMap referenceTokens := by
    rw [lineTokens_joinWith (by decide), List.flatMap_map, List.flatMap_map]
    simp only [lineTokens_reference]
  rw [apart, lineTokens_append_space, lineTokens_append_space, lineTokens_append_space,
    lineTokens_append_space, lineTokens_brackets, inner, lineTokens_digits]
  have front : lineTokens "<< /Type /Pages /Kids".toList =
      ["<<".toList, "/Type".toList, "/Pages".toList, "/Kids".toList] := by decide
  have count : lineTokens "/Count".toList = ["/Count".toList] := by decide
  have close : lineTokens ">>".toList = [">>".toList] := by decide
  rw [front, count, close]
  simp

theorem valueAfter_count (pages : Nat) :
    valueAfter "/Count".toList (lineTokens (pageTree pages).body) = some pages := by
  let front := ["<<".toList, "/Type".toList, "/Pages".toList, "/Kids".toList, ['[']]
    ++ ((List.range pages).map pageId).flatMap referenceTokens ++ [[']']]
  have apart : lineTokens (pageTree pages).body =
      front ++ "/Count".toList :: digits pages :: [">>".toList] := by
    simp [lineTokens_pageTree, front]
  have first : "/Count".toList ∉ front := by
    rw [List.mem_append, List.mem_append]
    rintro ((member | member) | member)
    · exact absurd member (by decide)
    · exact not_mem_referenceTokens (c := '/') (by decide) (by decide) _ member
    · exact absurd member (by decide)
  rw [apart]
  exact valueAfter_append first pages _

/-- The page tree refers to the pages in order. -/
theorem kids_pageTree (pages : Nat) :
    kids (lineTokens (pageTree pages).body) =
      ((List.range pages).map pageId).map (⟨·, 0⟩) := by
  let front := ["<<".toList, "/Type".toList, "/Pages".toList]
  let refs := ((List.range pages).map pageId).flatMap referenceTokens
  have apart : lineTokens (pageTree pages).body = front ++ "/Kids".toList :: (['['] :: refs
      ++ [']'] :: ["/Count".toList, digits pages, ">>".toList]) := by
    simp [lineTokens_pageTree, front, refs]
  have inside : [']'] ∉ ['['] :: refs := by
    rw [List.mem_cons, not_or]
    exact ⟨by decide, not_mem_referenceTokens (c := ']') (by decide) (by decide) _⟩
  have inner := references_append_tokens ((List.range pages).map pageId) []
  have keyword : number? ['['] = none := by decide
  rw [kids, apart, after_append (by decide),
    List.takeWhile_append_of_pos (bne_of_not_mem inside)]
  simp only [bne_self_eq_false, Bool.false_eq_true, not_false_eq_true, List.takeWhile_cons_of_neg,
    List.append_nil]
  rw [references_cons_of_keyword keyword]
  simpa [references] using inner

theorem references_pageTree (pages : Nat) :
    references (lineTokens (pageTree pages).body) =
      ((List.range pages).map pageId).map (⟨·, 0⟩) := by
  have apart : lineTokens (pageTree pages).body =
      ["<<".toList, "/Type".toList, "/Pages".toList, "/Kids".toList] ++ ['['] ::
        (((List.range pages).map pageId).flatMap referenceTokens
          ++ [[']'], "/Count".toList, digits pages, ">>".toList]) := by
    simp [lineTokens_pageTree]
  have front : references ["<<".toList, "/Type".toList, "/Pages".toList, "/Kids".toList] = [] := by
    decide
  have back : references [[']'], "/Count".toList, digits pages, ">>".toList] = [] := by
    rw [references_cons_of_keyword (by decide), references_cons_of_keyword (by decide)]
    rfl
  rw [apart, references_append (by decide) (by decide), references_append_tokens, front, back]
  simp

theorem isIdle_of_mem_pageTree (pages : Nat) :
    ∀ c ∈ (pageTree pages).body, isIdle c = true := by
  simp only [pageTree, List.forall_mem_append]
  have kids : ∀ c ∈ Text.joinWith [' '] ((List.range pages).map fun i => reference (pageId i)),
      isIdle c = true := by
    refine Text.forall_mem_joinWith (Text.forall_mem_of_all (by decide)) fun text member => ?_
    obtain ⟨index, _, rfl⟩ := List.mem_map.mp member
    simp only [reference, List.forall_mem_append]
    exact ⟨isIdle_of_mem_digits, Text.forall_mem_of_all (by decide)⟩
  exact ⟨⟨⟨⟨Text.forall_mem_of_all (by decide), kids⟩, Text.forall_mem_of_all (by decide)⟩,
    isIdle_of_mem_digits⟩, Text.forall_mem_of_all (by decide)⟩

theorem legible_pageTree {count pages : Nat} (enough : 4 + 2 * pages ≤ count) :
    Legible count (pageTree pages) := by
  refine legible_of_idle (isIdle_of_mem_pageTree pages) fun label member => ?_
  simp only [references_pageTree, List.mem_map, List.mem_range] at member
  obtain ⟨_, ⟨index, below, rfl⟩, rfl⟩ := member
  simp only [List.mem_range'_1, pageId, and_true]
  omega

/-! ## Pages -/

/-- The tokens of a page before its reference to its content. -/
def pageTokens : List (List Char) :=
  ["<<", "/Type", "/Page", "/Parent", "2", "0", "R", "/MediaBox", "[", "0", "0", "612", "792", "]",
    "/Resources", "<<", "/Font", "<<", "/F1", "3", "0", "R", "/F2", "4", "0", "R", ">>",
    ">>"].map String.toList

theorem lineTokens_page (index : Nat) :
    lineTokens (page index).body =
      pageTokens ++ "/Contents".toList :: referenceTokens (pageId index + 1) ++ [">>".toList] := by
  let front := "<< /Type /Page /Parent 2 0 R /MediaBox [0 0 ".toList ++ digits pageWidth
    ++ ' ' :: digits pageHeight ++ "] /Resources << /Font << /F1 3 0 R /F2 4 0 R >> >>".toList
  have apart : (page index).body = front ++ ' ' :: ("/Contents".toList ++ ' ' ::
      (reference (pageId index + 1) ++ ' ' :: ">>".toList)) := by
    simp [page, front]
  have first : lineTokens front = pageTokens := by decide
  have contents : lineTokens "/Contents".toList = ["/Contents".toList] := by decide
  have close : lineTokens ">>".toList = [">>".toList] := by decide
  rw [apart, lineTokens_append_space, lineTokens_append_space, lineTokens_append_space, first,
    contents, lineTokens_reference, close]
  simp

theorem isPage_page (index : Nat) : isPage (lineTokens (page index).body) = true := by
  rw [lineTokens_page]
  rfl

/-- A page refers to its content. -/
theorem contents?_page (index : Nat) :
    contents? (lineTokens (page index).body) = some ⟨pageId index + 1, 0⟩ := by
  have first : "/Contents".toList ∉ pageTokens := by decide
  have found := references_append_tokens [pageId index + 1] []
  rw [contents?, lineTokens_page, List.append_assoc, List.cons_append, after_append first]
  simpa [referenceTokens, references] using congrArg List.head? found

theorem references_page (index : Nat) :
    references (lineTokens (page index).body) =
      [⟨2, 0⟩, ⟨3, 0⟩, ⟨4, 0⟩, ⟨pageId index + 1, 0⟩] := by
  have front : references pageTokens = [⟨2, 0⟩, ⟨3, 0⟩, ⟨4, 0⟩] := by decide
  have back := references_append_tokens [pageId index + 1] [">>".toList]
  have close : references [">>".toList] = [] := by decide
  rw [List.flatMap_singleton, close] at back
  rw [lineTokens_page, List.append_assoc, List.cons_append,
    references_append (by decide) (by decide), front, back]
  rfl

theorem isIdle_of_mem_page (index : Nat) : ∀ c ∈ (page index).body, isIdle c = true := by
  simp only [page, reference, List.forall_mem_append]
  have fixed : ∀ {cs : List Char}, (cs.all fun c => decide (isIdle c = true)) = true →
      ∀ c ∈ cs, isIdle c = true := Text.forall_mem_of_all
  exact ⟨⟨⟨⟨⟨⟨fixed (by decide), isIdle_of_mem_digits⟩, fixed (by decide)⟩, fixed (by decide)⟩,
    fixed (by decide)⟩, isIdle_of_mem_digits, fixed (by decide)⟩, fixed (by decide)⟩

theorem legible_page {count index : Nat} (enough : pageId index + 1 ≤ count) :
    Legible count (page index) := by
  refine legible_of_idle (isIdle_of_mem_page index) fun label member => ?_
  rw [pageId] at enough
  rw [references_page] at member
  simp only [List.mem_cons, List.not_mem_nil, or_false] at member
  rcases member with rfl | rfl | rfl | rfl <;>
    simp only [List.mem_range'_1, pageId, and_true] <;> omega

/-! ## The fixed objects -/

theorem legible_catalog {count : Nat} (enough : 4 ≤ count) : Legible count catalog := by
  have found : references (lineTokens catalog.body) = [⟨2, 0⟩] := by decide
  refine legible_of_idle (Text.forall_mem_of_all (by decide)) fun label member => ?_
  rw [found, List.mem_singleton] at member
  simp only [member, List.mem_range'_1, and_true]
  omega

theorem legible_font {count id : Nat} {name : String}
    (known : name ∈ ["Helvetica", "Helvetica-Bold"]) : Legible count ⟨id, fontBody name⟩ := by
  have fine : ∀ name ∈ ["Helvetica", "Helvetica-Bold"],
      (fontBody name).all isIdle = true ∧ references (lineTokens (fontBody name)) = [] := by
    decide
  refine legible_of_idle (List.all_eq_true.mp (fine name known).1) fun label member => ?_
  rw [(fine name known).2] at member
  cases member

/-! ## Streams -/

/-- The first line of a stream. -/
def lengthLine (length : Nat) : List Char := "<< /Length ".toList ++ digits length ++ " >>".toList

theorem isIdle_of_mem_lengthLine {n : Nat} : ∀ c ∈ lengthLine n, isIdle c = true := by
  unfold lengthLine
  simp only [List.forall_mem_append]
  exact ⟨⟨Text.forall_mem_of_all (by decide), isIdle_of_mem_digits⟩,
    Text.forall_mem_of_all (by decide)⟩

/-- The tokens of a stream of a length, its content left out. -/
def streamTokens (length : Nat) : List (List Char) :=
  ["<<".toList, "/Length".toList, digits length, ">>".toList, "stream".toList, "endstream".toList]

theorem not_mem_streamTokens {word : List Char} {c : Char} (inside : c ∈ word)
    (other : c.isDigit = false)
    (fixed : word ∉ ["<<".toList, "/Length".toList, ">>".toList, "stream".toList,
      "endstream".toList]) (n : Nat) : word ∉ streamTokens n := by
  have : word ≠ digits n := ne_digits inside other
  simp_all [streamTokens]

theorem lineTokens_lengthLine (n : Nat) :
    lineTokens (lengthLine n) = ["<<".toList, "/Length".toList, digits n, ">>".toList] := by
  have apart : lengthLine n = "<< /Length".toList ++ ' ' :: (digits n ++ ' ' :: ">>".toList) := by
    unfold lengthLine
    simp
  have front : lineTokens "<< /Length".toList = ["<<".toList, "/Length".toList] := by decide
  have close : lineTokens ">>".toList = [">>".toList] := by decide
  rw [apart, lineTokens_append_space, lineTokens_append_space, front, lineTokens_digits, close]
  rfl

section Stream

variable {content : List Char} {rows : List (List Char)}

/-- The lines of a stream around the rows of its content. -/
theorem split_stream (index : Nat) (some : rows ≠ []) (operates : ∀ row ∈ rows, Operates row)
    (joined : content = Text.joinWith ['\n'] rows) :
    split (stream index content).body =
      lengthLine content.length :: "stream".toList :: rows ++ ["endstream".toList] := by
  have apart : (stream index content).body = lengthLine content.length ++ '\n' ::
      ("stream".toList ++ '\n' :: (content ++ '\n' :: "endstream".toList)) := by
    unfold lengthLine
    simp [stream]
  have inner : split content = rows := by
    rw [joined]
    refine Text.pieces_joinWith some fun row member inside => ?_
    exact absurd ((operates row member).printed _ inside) (by decide)
  have first : split (lengthLine content.length) = [lengthLine content.length] :=
    split_eq_singleton (not_mem_of_isIdle isIdle_of_mem_lengthLine (by decide))
  have opening : split "stream".toList = ["stream".toList] := by decide
  have closing : split "endstream".toList = ["endstream".toList] := by decide
  rw [apart, split_append, split_append, split_append, inner, first, opening, closing]
  simp

/-- The rows of a content mean nothing to the file around them. -/
theorem bare_stream (operates : ∀ row ∈ rows, Operates row) (n : Nat) (back : List (List Char)) :
    bare false (lengthLine n :: "stream".toList :: rows ++ "endstream".toList :: back) =
      [lengthLine n, "stream".toList, "endstream".toList] ++ bare false back := by
  have first := not_stream_of_idle (@isIdle_of_mem_lengthLine n)
  have inner : "endstream".toList ∉ rows := fun member => (operates _ member).ne_endstream rfl
  have opening : ∀ rest, bare false ("stream".toList :: rest) = "stream".toList :: bare true rest :=
    fun _ => rfl
  have apart : lengthLine n :: "stream".toList :: rows ++ "endstream".toList :: back =
      [lengthLine n] ++ ("stream".toList :: (rows ++ "endstream".toList :: back)) := rfl
  rw [apart, bare_append first, opening, bare_inside inner]
  rfl

theorem tokens_stream (index : Nat) (some : rows ≠ []) (operates : ∀ row ∈ rows, Operates row)
    (joined : content = Text.joinWith ['\n'] rows) :
    tokens (split (stream index content).body) = streamTokens content.length := by
  have opening : lineTokens "stream".toList = ["stream".toList] := by decide
  have closing : lineTokens "endstream".toList = ["endstream".toList] := by decide
  rw [split_stream index some operates joined, tokens, bare_stream operates]
  simp only [bare, List.append_nil, List.flatMap_cons, List.flatMap_nil, lineTokens_lengthLine,
    opening, closing]
  rfl

/-- A stream holds the content that it was made from. -/
theorem streamText?_stream (index : Nat) (some : rows ≠ [])
    (operates : ∀ row ∈ rows, Operates row)
    (joined : content = Text.joinWith ['\n'] rows) :
    streamText? (split (stream index content).body) = .some content := by
  have first := not_stream_of_idle (@isIdle_of_mem_lengthLine content.length)
  have behind : after "stream".toList (split (stream index content).body) =
      rows ++ ["endstream".toList] := by
    rw [split_stream index some operates joined]
    exact after_append first _
  have plain : "endstream".toList ∉ rows := fun member => (operates _ member).ne_endstream rfl
  have inner : (rows ++ ["endstream".toList]).takeWhile (· != "endstream".toList) = rows := by
    rw [List.takeWhile_append_of_pos (bne_of_not_mem plain)]
    simp
  have opened : "stream".toList ∈ split (stream index content).body := by
    rw [split_stream index some operates joined]
    simp
  rw [streamText?, behind, inner, if_pos ⟨opened, by simp⟩, joined]

theorem legible_stream {count : Nat} (index : Nat) (some : rows ≠ [])
    (operates : ∀ row ∈ rows, Operates row) (joined : content = Text.joinWith ['\n'] rows) :
    Legible count (stream index content) := by
  have lines := split_stream index some operates joined
  have words := tokens_stream index some operates joined
  have idle := @isIdle_of_mem_lengthLine content.length
  constructor
  · have printed : ∀ c ∈ content, isPrinted c = true ∨ c = '\n' := by
      rw [joined]
      refine Text.forall_mem_joinWith (Text.forall_mem_of_all (by decide)) ?_
      exact fun row member c inside => .inl ((operates row member).printed c inside)
    have number : ∀ c ∈ digits content.length, isPrinted c = true ∨ c = '\n' :=
      fun c member => .inl (isPrinted_of_mem_toDigits c member)
    simp only [stream, List.forall_mem_append]
    exact ⟨⟨⟨⟨Text.forall_mem_of_all (by decide), number⟩, Text.forall_mem_of_all (by decide)⟩,
      printed⟩, Text.forall_mem_of_all (by decide)⟩
  · have first : ¬ "obj".toList <:+ lengthLine content.length := fun ends =>
      not_mem_of_isIdle idle (c := 'j') (by decide) (ends.subset (by decide))
    have inner : ∀ row ∈ rows, ¬ "obj".toList <:+ row := fun row member =>
      (operates row member).not_suffix (by decide) (by decide)
    rw [lines]
    simp only [List.cons_append, List.forall_mem_cons, List.forall_mem_append]
    exact ⟨first, by decide, inner, by decide⟩
  · intro back
    rw [lines, List.append_assoc, List.singleton_append, bare_stream operates, bare_stream operates]
    rfl
  · rw [words]
    exact not_mem_streamTokens (c := 'z') (by decide) (by decide) (by decide) _
  · rw [words]
    exact not_mem_streamTokens (c := 'f') (by decide) (by decide) (by decide) _
  · have none : ['R'] ∉ streamTokens content.length :=
      not_mem_streamTokens (c := 'R') (by decide) (by decide) (by decide) _
    rw [words, references_eq_nil none]
    simp

end Stream

/-! ## All objects -/

theorem objects_eq (contents : List (List Char)) : objects contents =
    [catalog, pageTree contents.length, ⟨3, fontBody "Helvetica"⟩, ⟨4, fontBody "Helvetica-Bold"⟩]
      ++ contents.zipIdx.flatMap fun entry => [page entry.2, stream entry.2 entry.1] := rfl

theorem mem_objects {contents : List (List Char)} {object : Object}
    (member : object ∈ objects contents) :
    object ∈ [catalog, pageTree contents.length, ⟨3, fontBody "Helvetica"⟩,
        ⟨4, fontBody "Helvetica-Bold"⟩] ∨
      ∃ index, ∃ content ∈ contents, index < contents.length ∧
        (object = page index ∨ object = stream index content) := by
  rcases List.mem_append.mp member with fixed | varying
  · exact .inl fixed
  · obtain ⟨⟨content, index⟩, among, here⟩ := List.mem_flatMap.mp varying
    have within := List.mem_zipIdx' among
    refine .inr ⟨index, content, within.2 ▸ List.getElem_mem within.1, within.1, ?_⟩
    simpa using here

theorem mem_objects_of_lt {contents : List (List Char)} {index : Nat}
    (below : index < contents.length) {object : Object}
    (member : object ∈ [page index, stream index contents[index]]) : object ∈ objects contents := by
  refine List.mem_append_right _ (List.mem_flatMap.mpr ⟨(contents[index], index), ?_, member⟩)
  rw [List.mem_zipIdx_iff_getElem?]
  exact List.getElem?_eq_getElem below

theorem page_mem_objects {contents : List (List Char)} {index : Nat}
    (below : index < contents.length) : page index ∈ objects contents :=
  mem_objects_of_lt below (by simp)

theorem stream_mem_objects {contents : List (List Char)} {index : Nat}
    (below : index < contents.length) : stream index contents[index] ∈ objects contents :=
  mem_objects_of_lt below (by simp)

/-- All objects of a document are legible. -/
theorem legible_of_mem_objects {contents : List (List Char)}
    (written : ∀ content ∈ contents, IsContent content) :
    ∀ object ∈ objects contents, Legible (4 + 2 * contents.length) object := by
  intro object member
  rcases mem_objects member with fixed | ⟨index, content, among, below, rfl | rfl⟩
  · simp only [List.mem_cons, List.not_mem_nil, or_false] at fixed
    rcases fixed with rfl | rfl | rfl | rfl
    · exact legible_catalog (by omega)
    · exact legible_pageTree (by omega)
    · exact legible_font (by simp)
    · exact legible_font (by simp)
  · exact legible_page (by rw [pageId]; omega)
  · obtain ⟨rows, some, joined, operates⟩ := written content among
    exact legible_stream index some operates joined

/-- The objects are numbered from 1 on. -/
theorem map_id_objects (contents : List (List Char)) :
    (objects contents).map Object.id = List.range' 1 (4 + 2 * contents.length) := by
  have varying : ∀ (contents : List (List Char)) (first : Nat),
      ((contents.zipIdx first).flatMap fun entry =>
        [page entry.2, stream entry.2 entry.1]).map Object.id =
        List.range' (pageId first) (2 * contents.length) := by
    intro contents
    induction contents with
    | nil => intro first; rfl
    | cons content rest ih =>
        intro first
        have next : pageId (first + 1) = pageId first + 1 + 1 := by simp only [pageId]; omega
        rw [List.zipIdx_cons, List.flatMap_cons, List.map_append, ih, next, List.length_cons,
          Nat.mul_succ, List.range'_succ, List.range'_succ]
        rfl
  rw [objects_eq, List.map_append, varying, ← List.range'_append_1]
  rfl

/-- Whether an object reads as a page. -/
def Object.readsAsPage (object : Object) : Bool := isPage (tokens (split object.body))

theorem readsAsPage_page (index : Nat) : (page index).readsAsPage = true := by
  rw [Object.readsAsPage, tokens_of_idle (isIdle_of_mem_page index), isPage_page]

theorem readsAsPage_stream {index : Nat} {content : List Char} (written : IsContent content) :
    (stream index content).readsAsPage = false := by
  obtain ⟨rows, some, joined, operates⟩ := written
  have absent : "/Type".toList ∉ streamTokens content.length :=
    not_mem_streamTokens (c := '/') (by decide) (by decide) (by decide) _
  rw [Object.readsAsPage, tokens_stream index some operates joined, isPage, after_eq_nil absent]
  rfl

/-- The pages among the objects of a document, in order. -/
theorem filter_readsAsPage_objects {contents : List (List Char)}
    (written : ∀ content ∈ contents, IsContent content) :
    (objects contents).filter Object.readsAsPage = (List.range contents.length).map page := by
  have varying : ∀ (contents : List (List Char)) (first : Nat),
      (∀ content ∈ contents, IsContent content) →
      ((contents.zipIdx first).flatMap fun entry =>
        [page entry.2, stream entry.2 entry.1]).filter Object.readsAsPage =
        (List.range' first contents.length).map page := by
    intro contents
    induction contents with
    | nil => intro first _; rfl
    | cons content rest ih =>
        intro first written
        have later := ih (first + 1) fun other member => written other (by simp [member])
        rw [List.zipIdx_cons, List.flatMap_cons, List.filter_append, later, List.length_cons,
          List.range'_succ, List.map_cons]
        simp [readsAsPage_page, readsAsPage_stream (written content (by simp))]
  have tree : (pageTree contents.length).readsAsPage = false := by
    rw [Object.readsAsPage, tokens_of_idle (isIdle_of_mem_pageTree _), lineTokens_pageTree]
    rfl
  have root : catalog.readsAsPage = false := by decide
  have body : (Object.mk 3 (fontBody "Helvetica")).readsAsPage = false := by decide
  have title : (Object.mk 4 (fontBody "Helvetica-Bold")).readsAsPage = false := by decide
  rw [objects_eq, List.filter_append, varying contents 0 written, List.range_eq_range']
  simp [tree, root, body, title]

end Workflow.Pdf
