import Workflow.Proofs.Pdf.Pagination
import Workflow.Proofs.Pdf.Showing
import Workflow.Proofs.Pdf.Structure

/-!
# The pages of a document

The pages of a file are followed from its trailer to the page tree and on to their contents, and
these are read for what they show. A rendered document shows the lines of its text page by page, one
below the other within the margins, and its title above the first of them.

## Main definitions

* `Reader.sheets? file` — what the pages of a file show.
* `Reader.textsIn font sheet` — the texts that a page shows in a font.
* `Pdf.Paginated title lines sheets` — pages show lines, spread in order, under a title.
* `Pdf.sheets?_assemble` — the pages of a file show what they were written for.
* `Pdf.paginated_of_render` — those of a rendered document show its title and its text.
-/

namespace Workflow.Pdf

namespace Reader

/-- The object with a label. -/
def object? (file : List Char) (label : Label) : Option Found :=
  (objects file).find? (·.label == label)

/-- The content of a page. -/
def content? (file : List Char) (page : Label) : Option (List Char) := do
  let page ← object? file page
  let content ← object? file (← contents? page.tokens)
  streamText? content.body

/-- The first reference behind a key. -/
def referenceAfter? (key : List Char) (ts : List (List Char)) : Option Label :=
  (references ((after key ts).take 3)).head?

/-- What the pages of a file show, in the order of the page tree. It is found by way of the trailer
and the catalog. -/
def sheets? (file : List Char) : Option (List (List Shown)) := do
  let catalog ← object? file (← referenceAfter? "/Root".toList (tokens (split file)))
  let tree ← object? file (← referenceAfter? "/Pages".toList catalog.tokens)
  (kids tree.tokens).mapM fun page => do shown? (← content? file page)

/-- The texts that a page shows in a font. -/
def textsIn (font : String) (sheet : List Shown) : List (List Char) :=
  (sheet.filter (·.font == font.toList)).map Shown.text

end Reader

open Reader

/-- Pages show lines in the one font and a title in the other. The lines are spread over them in
order, the title stands on the first, and on each page the texts stand one below the other, within
the margins of an inch. -/
structure Paginated (title : Option (List Char)) (lines : List (List Char))
    (sheets : List (List Shown)) : Prop where
  spread : Spread (Page.capacity title) lines (sheets.map (textsIn "F1"))
  count : sheets.length = if lines.length ≤ Page.capacity title 0 then 1
    else 1 + (lines.length - Page.capacity title 0 + 45) / 46
  titled : sheets.map (textsIn "F2") =
    title.toList.map displayed :: List.replicate (sheets.length - 1) []
  fonts : ∀ sheet ∈ sheets, ∀ shown ∈ sheet, shown.font = "F1".toList ∨ shown.font = "F2".toList
  below : ∀ sheet ∈ sheets, sheet.Pairwise fun upper lower => lower.baseline < upper.baseline
  inside : ∀ sheet ∈ sheets, ∀ shown ∈ sheet, 72 ≤ shown.baseline ∧ shown.baseline ≤ 792 - 72

/-! ## What a page is set to show -/

namespace Page

/-- Lines stand from their first baseline downwards, fourteen points apart. -/
theorem mem_placed {lines : List (List Char)} {baseline : Int} :
    ∀ shown ∈ placed baseline lines, shown.font = "F1".toList ∧ shown.baseline ≤ baseline ∧
      baseline < shown.baseline + 14 * lines.length := by
  induction lines generalizing baseline with
  | nil => simp [placed]
  | cons line rest ih =>
      rw [placed, List.forall_mem_cons, List.length_cons]
      refine ⟨⟨rfl, Int.le_refl _, by dsimp only; omega⟩, fun shown member => ?_⟩
      obtain ⟨font, below, above⟩ := ih shown member
      exact ⟨font, by omega, by omega⟩

theorem pairwise_placed (lines : List (List Char)) (baseline : Int) :
    (placed baseline lines).Pairwise fun upper lower => lower.baseline < upper.baseline := by
  induction lines generalizing baseline with
  | nil => exact .nil
  | cons line rest ih =>
      rw [placed, List.pairwise_cons]
      refine ⟨fun shown member => ?_, ih (baseline - 14)⟩
      have below := (mem_placed shown member).2.1
      dsimp only
      omega

/-- Lines are texts in the one font, and none of the other. -/
theorem textsIn_placed (lines : List (List Char)) (baseline : Int) :
    textsIn "F1" (placed baseline lines) = lines.map displayed ∧
      textsIn "F2" (placed baseline lines) = [] := by
  induction lines generalizing baseline with
  | nil => exact ⟨rfl, rfl⟩
  | cons line rest ih =>
      obtain ⟨body, none⟩ := ih (baseline - 14)
      exact ⟨congrArg (displayed line :: ·) body, none⟩

theorem set_none (lines : List (List Char)) : set ⟨none, lines⟩ = placed 720 lines := rfl

theorem set_some (title : List Char) (lines : List (List Char)) :
    set ⟨some title, lines⟩ = placedTitle title :: placed 692 lines := rfl

theorem baseline_placedTitle (title : List Char) : (placedTitle title).baseline = 720 := rfl

theorem textsIn_set (page : Page) :
    textsIn "F1" page.set = page.lines.map displayed ∧
      textsIn "F2" page.set = page.title.toList.map displayed := by
  rcases page with ⟨none | title, lines⟩
  · exact textsIn_placed lines 720
  · obtain ⟨body, none⟩ := textsIn_placed lines 692
    exact ⟨body, congrArg (displayed title :: ·) none⟩

/-- The texts of a page stand one below the other, in either font. -/
theorem pairwise_set (page : Page) :
    page.set.Pairwise fun upper lower => lower.baseline < upper.baseline := by
  rcases page with ⟨none | title, lines⟩
  · exact pairwise_placed lines 720
  · rw [set_some, List.pairwise_cons]
    refine ⟨fun shown member => ?_, pairwise_placed lines 692⟩
    have below := (mem_placed shown member).2.1
    rw [baseline_placedTitle]
    omega

/-- A page that is not too full shows its texts within the margins. -/
theorem mem_set {page : Page} (fits : page.lines.length ≤ firstCapacity page.title) :
    ∀ shown ∈ page.set, (shown.font = "F1".toList ∨ shown.font = "F2".toList) ∧
      72 ≤ shown.baseline ∧ shown.baseline ≤ 792 - 72 := by
  rcases page with ⟨none | title, lines⟩
  · have few : lines.length ≤ 46 := fits
    rw [set_none]
    intro shown member
    obtain ⟨font, below, above⟩ := mem_placed shown member
    exact ⟨.inl font, by omega, by omega⟩
  · have few : lines.length ≤ 44 := fits
    rw [set_some, List.forall_mem_cons]
    refine ⟨⟨.inr rfl, by rw [baseline_placedTitle]; decide⟩, fun shown member => ?_⟩
    obtain ⟨font, below, above⟩ := mem_placed shown member
    exact ⟨.inl font, by omega, by omega⟩

end Page

/-! ## From a file to its pages -/

variable {objs : List Object} {contents : List (List Char)}

/-- Among objects with different numbers each is found by its own. -/
theorem find?_foundFrom (distinct : (objs.map Object.id).Nodup) {object : Object}
    (member : object ∈ objs) (start : Nat) :
    ∃ place, (foundFrom start objs).find? (·.label == ⟨object.id, 0⟩) =
      some (object.foundAt place) := by
  induction objs generalizing start with
  | nil => cases member
  | cons head rest ih =>
      rw [List.map_cons, List.nodup_cons] at distinct
      rcases List.mem_cons.mp member with rfl | member
      · exact ⟨start, by simp [foundFrom, Object.foundAt]⟩
      · have other : head.id ≠ object.id := fun same =>
          distinct.1 (same ▸ List.mem_map_of_mem member)
        obtain ⟨place, later⟩ := ih distinct.2 member (start + head.write.length)
        exact ⟨place, by simpa [foundFrom, Object.foundAt, other] using later⟩

theorem object?_assemble (written : ∀ content ∈ contents, IsContent content) {object : Object}
    (member : object ∈ objects contents) :
    ∃ place, object? (assemble (objects contents)) ⟨object.id, 0⟩ =
      some (object.foundAt place) := by
  rw [object?, objects_assemble (legible_of_mem_objects written)]
  refine find?_foundFrom ?_ member _
  rw [map_id_objects]
  exact List.nodup_range'

/-- The key of the trailer stands in no object. -/
theorem root_not_mem_tokens (written : ∀ content ∈ contents, IsContent content) {object : Object}
    (member : object ∈ objects contents) : "/Root".toList ∉ tokens (split object.body) := by
  have noReference (ids : List Nat) : "/Root".toList ∉ ids.flatMap referenceTokens :=
    not_mem_referenceTokens (c := '/') (by decide) (by decide) ids
  rcases mem_objects member with fixed | ⟨index, content, among, -, rfl | rfl⟩
  · simp only [List.mem_cons, List.not_mem_nil, or_false] at fixed
    rcases fixed with rfl | rfl | rfl | rfl
    · decide
    · have noCount : "/Root".toList ≠ digits contents.length :=
        ne_digits (c := '/') (by decide) (by decide)
      rw [tokens_of_idle (isIdle_of_mem_pageTree _), lineTokens_pageTree, List.mem_append,
        List.mem_append, not_or, not_or]
      exact ⟨⟨by decide, noReference _⟩, by simp_all⟩
    · decide
    · decide
  · rw [tokens_of_idle (isIdle_of_mem_page index), lineTokens_page, List.mem_append,
      List.mem_append, List.mem_cons, not_or, not_or, not_or]
    exact ⟨⟨by decide, by decide, by simpa using noReference [pageId index + 1]⟩, by decide⟩
  · obtain ⟨rows, nonempty, joined, operates⟩ := written content among
    rw [tokens_stream index nonempty operates joined]
    exact not_mem_streamTokens (c := '/') (by decide) (by decide) (by decide) _

/-- The trailer leads to the catalog. -/
theorem referenceAfter?_root (written : ∀ content ∈ contents, IsContent content) :
    referenceAfter? "/Root".toList (tokens (split (assemble (objects contents)))) =
      some ⟨1, 0⟩ := by
  let objs := objects contents
  let start := (header ++ objs.flatMap Object.write).length
  let front := "%PDF-1.4".toList :: (objs.flatMap Object.tokens
    ++ lineTokens (table (offsets header.length objs) ++ "trailer".toList))
  have before : "/Root".toList ∉ front := not_mem_front (c := '/') (by decide) (by decide)
    (by decide) (fun _ => root_not_mem_tokens written) _
  have first : "/Root".toList ∉ front ++ (trailerTokens (objs.length + 1) start).take 3 := by
    have noSize : "/Root".toList ≠ digits (objs.length + 1) :=
      ne_digits (c := '/') (by decide) (by decide)
    rw [List.mem_append, not_or]
    exact ⟨before, by simp_all [trailerTokens]⟩
  have apart : tokens (split (assemble objs)) =
      (front ++ (trailerTokens (objs.length + 1) start).take 3) ++ "/Root".toList ::
        (trailerTokens (objs.length + 1) start).drop 4 := by
    rw [tokens_assemble (legible_of_mem_objects written)]
    simp [front, trailerTokens, start, objs]
  rw [referenceAfter?, apart, after_append first]
  rfl

/-- Every page of a file leads to the content that it was written for. -/
theorem content?_assemble (written : ∀ content ∈ contents, IsContent content) {index : Nat}
    (below : index < contents.length) :
    content? (assemble (objects contents)) ⟨pageId index, 0⟩ = some contents[index] := by
  obtain ⟨pagePlace, pageFound⟩ := object?_assemble written (page_mem_objects below)
  obtain ⟨streamPlace, streamFound⟩ := object?_assemble written (stream_mem_objects below)
  obtain ⟨rows, nonempty, joined, operates⟩ := written contents[index] (List.getElem_mem below)
  have leads : contents? ((page index).foundAt pagePlace).tokens = some ⟨pageId index + 1, 0⟩ := by
    rw [tokens_foundAt, tokens_of_idle (isIdle_of_mem_page index)]
    exact contents?_page index
  have text : streamText? ((stream index contents[index]).foundAt streamPlace).body =
      some contents[index] := streamText?_stream index nonempty operates joined
  have first : object? (assemble (objects contents)) ⟨pageId index, 0⟩ =
      some ((page index).foundAt pagePlace) := pageFound
  have second : object? (assemble (objects contents)) ⟨pageId index + 1, 0⟩ =
      some ((stream index contents[index]).foundAt streamPlace) := streamFound
  simp only [content?, Option.bind_eq_bind, first, leads, second, text, Option.bind_some]

/-- The pages of a file show what they were written for, in order. -/
theorem sheets?_assemble {pages : List Page} (done : pages.mapM Page.content = .ok contents) :
    sheets? (assemble (objects contents)) = some (pages.map Page.set) := by
  have written := forall_mem_of_mapM (fun _ _ => Page.isContent_of_content) done
  have each := forall₂_of_mapM done
  obtain ⟨place, tree⟩ := object?_assemble written
    (by simp [objects] : pageTree contents.length ∈ objects contents)
  have words : kids ((pageTree contents.length).foundAt place).tokens =
      ((List.range contents.length).map pageId).map (⟨·, 0⟩) := by
    rw [tokens_foundAt, tokens_of_idle (isIdle_of_mem_pageTree _), kids_pageTree]
  obtain ⟨rootPlace, root⟩ := object?_assemble written
    (by simp [objects] : catalog ∈ objects contents)
  have first : object? (assemble (objects contents)) ⟨1, 0⟩ =
      some (catalog.foundAt rootPlace) := root
  have second : object? (assemble (objects contents)) ⟨2, 0⟩ =
      some ((pageTree contents.length).foundAt place) := tree
  have leads : referenceAfter? "/Pages".toList (catalog.foundAt rootPlace).tokens =
      some ⟨2, 0⟩ := by
    rw [tokens_foundAt]
    decide
  simp only [sheets?, referenceAfter?_root written, Option.bind_eq_bind, Option.bind_some, first,
    leads, second, words]
  refine mapM_eq_some_of_forall₂ ?_
  rw [List.forall₂_map_left_iff, List.forall₂_map_left_iff, List.forall₂_map_right_iff,
    List.forall₂_iff_get]
  refine ⟨by rw [List.length_range, each.length_eq], fun index below inPages => ?_⟩
  have inContents : index < contents.length := by simpa using below
  have shows : shown? contents[index] = some pages[index].set :=
    shown?_content (each.get inPages inContents)
  simp [content?_assemble written inContents, shows]

/-! ## Rendered documents -/

/-- The pages of lines without tabs and carriage returns are set to show them. -/
theorem paginated_paginate (title : Option (List Char)) {lines : List (List Char)}
    (same : ∀ line ∈ lines, displayed line = line) :
    Paginated title lines ((paginate title lines).map Page.set) := by
  have spread := spread_paginate title lines
  constructor
  case spread =>
    have texts : ((paginate title lines).map Page.set).map (textsIn "F1") =
        (paginate title lines).map Page.lines := by
      rw [List.map_map]
      refine List.map_congr_left fun page among => (Page.textsIn_set page).1.trans ?_
      refine (List.map_congr_left fun line inside => same line ?_).trans (List.map_id _)
      rw [← spread.whole]
      exact List.mem_flatten_of_mem (List.mem_map_of_mem among) inside
    rwa [texts]
  case count => rw [List.length_map, length_paginate]
  case titled =>
    calc ((paginate title lines).map Page.set).map (textsIn "F2")
        = ((paginate title lines).map Page.title).map (·.toList.map displayed) := by
          rw [List.map_map, List.map_map]
          exact List.map_congr_left fun page _ => (Page.textsIn_set page).2
      _ = _ := by simp [map_title_paginate]
  case fonts =>
    intro sheet member shown inside
    obtain ⟨page, among, rfl⟩ := List.mem_map.mp member
    exact (Page.mem_set (length_le_of_mem_paginate among) shown inside).1
  case below =>
    intro sheet member
    obtain ⟨page, among, rfl⟩ := List.mem_map.mp member
    exact page.pairwise_set
  case inside =>
    intro sheet member shown inside
    obtain ⟨page, among, rfl⟩ := List.mem_map.mp member
    exact (Page.mem_set (length_le_of_mem_paginate among) shown inside).2

/-- The pages of a rendered document, as they are read from its bytes, show its title and the lines
of its text. -/
theorem paginated_of_render {title : Option String} {text : String} {pdf : Pdf}
    (rendered : render title text = .ok pdf) :
    ∃ sheets, sheets? (chars (Utf8.encode pdf.text.toList)) = some sheets ∧
      sheets.length = pdf.pages ∧
      Paginated (title.map String.toList) (Text.wrap 90 text.toList) sheets := by
  obtain ⟨contents, done, rfl⟩ := exists_contents_of_render rendered
  have written := forall_mem_of_mapM (fun _ _ => Page.isContent_of_content) done
  rw [String.toList_ofList, chars_encode (ascii_assemble (legible_of_mem_objects written)),
    sheets?_assemble done]
  refine ⟨_, rfl, ?_, paginated_paginate _ fun line => displayed_of_mem_wrap⟩
  rw [List.length_map]
  exact (forall₂_of_mapM done).length_eq

/-- A report of 45 lines under a title takes two pages. -/
theorem paginated_report : ∃ pdf, render (some "Report") reportText = .ok pdf ∧
    ∃ sheets, sheets? (chars (Utf8.encode pdf.text.toList)) = some sheets ∧ sheets.length = 2 ∧
      Paginated (some "Report".toList) reportLines sheets := by
  have wrapped : Text.wrap 90 reportText.toList = reportLines := by decide +kernel
  have read := paginated_of_render render_report
  rw [wrapped] at read
  exact ⟨_, render_report, read⟩

end Workflow.Pdf
