import Mathlib.Algebra.Group.Nat.Defs
import Workflow.Bytes.Utf8
import Workflow.Proofs.Pdf.Assembly

/-!
# The structure of a document

A rendered document is a file that a reader takes apart without repair: the table leads to the
objects, the page tree to the pages, each page to its content, and the length of a content is the
one its stream declares. All of it is ASCII, so that places counted in characters are places in
bytes.

## Main definitions

* `Pdf.WellFormed file pages` — the structure of a file with a number of pages.
* `Pdf.wellFormed_assemble` — the file for contents is well-formed.
* `Pdf.wellFormed_of_render` — so is a rendered document.
-/

namespace Workflow.Pdf

open Reader

/-- At `start` stands the table for `size` objects, number zero included: entries of twenty
characters, of which that of an object has the place where its heading stands. -/
def HasTable (file : List Char) (start size : Nat) : Prop :=
  ∃ (entries : List (List Char)) (rest : List Char),
    file.drop start = "xref\n0 ".toList ++ Nat.toDigits 10 size ++ '\n' :: entries.flatten
      ++ "trailer\n".toList ++ rest ∧
    entries.length = size ∧
    (∀ entry ∈ entries, entry.length = 20) ∧
    ∀ object ∈ Reader.objects file,
      (entries[object.label.number]?).bind entryPlace? = some object.place ∧
      Nat.toDigits 10 object.label.number ++ " 0 obj\n".toList <+: file.drop object.place

/-- The structure of a file with a number of pages. -/
structure WellFormed (file : List Char) (pages : Nat) : Prop where
  header : "%PDF-1.4\n".toList <+: file
  /-- The objects are numbered from 1 on, and each is there once. -/
  numbered : (Reader.objects file).map Found.label =
    (List.range' 1 (4 + 2 * pages)).map (⟨·, 0⟩)
  /-- The table stands where the last lines say. -/
  table : ∃ start, valueAfter "startxref".toList (tokens (split file)) = some start ∧
    HasTable file start (5 + 2 * pages)
  size : valueAfter "/Size".toList (tokens (split file)) = some (5 + 2 * pages)
  /-- Object 2 has the pages in order. -/
  tree : ∃ object ∈ Reader.objects file, object.label = ⟨2, 0⟩ ∧
    valueAfter "/Count".toList object.tokens = some pages ∧
    kids object.tokens =
      ((Reader.objects file).filter fun page => isPage page.tokens).map Found.label ∧
    (kids object.tokens).length = pages
  /-- Every reference leads to an object. -/
  resolved : ∀ label ∈ references (tokens (split file)),
    label ∈ (Reader.objects file).map Found.label
  /-- Every page leads to a stream of the declared length. -/
  contents : ∀ page ∈ Reader.objects file, isPage page.tokens = true →
    ∃ content ∈ Reader.objects file, contents? page.tokens = some content.label ∧
      ∃ text, streamText? content.body = some text ∧
        valueAfter "/Length".toList content.tokens = some text.length

variable {count : Nat} {objs : List Object}

/-! ## The table -/

theorem length_tenDigits {n : Nat} (short : n < 10 ^ 10) : (tenDigits n).length = 10 := by
  have fits : (digits n).length ≤ 10 :=
    (Nat.length_toDigits_le_iff (by decide) (by decide)).mpr short
  simp only [tenDigits, List.length_append, List.length_replicate]
  omega

theorem length_entry {n : Nat} (short : n < 10 ^ 10) : (entry n).length = 20 := by
  rw [entry, List.length_append, length_tenDigits short]
  decide

theorem number?_tenDigits (n : Nat) : number? (tenDigits n) = some n := by
  have all : (tenDigits n).all Char.isDigit = true :=
    List.all_eq_true.mpr isDigit_of_mem_tenDigits
  have some : tenDigits n ≠ [] := by
    simp only [tenDigits, digits, ne_eq, List.append_eq_nil_iff, Nat.toDigits_ne_nil, and_false,
      not_false_eq_true]
  have value : Nat.ofDigitChars 10 (tenDigits n) 0 = n := by
    simp only [tenDigits, Nat.ofDigitChars_append, Nat.ofDigitChars_replicate_zero, Nat.mul_zero]
    exact Nat.ofDigitChars_ten_toDigits
  rw [number?, if_pos ⟨some, all⟩, value]

/-- An entry has the place that it was made from. -/
theorem entryPlace?_entry {n : Nat} (short : n < 10 ^ 10) : entryPlace? (entry n) = some n := by
  have ten := length_tenDigits short
  have front : (entry n).take 10 = tenDigits n := by
    rw [entry, ← ten, List.take_left]
  have back : (entry n).drop 10 = " 00000 n \n".toList := by
    rw [entry, ← ten, List.drop_left]
  rw [entryPlace?, if_pos back, front, number?_tenDigits]

/-- The table leads to the objects. -/
theorem hasTable_assemble (legible : ∀ object ∈ objs, Legible count object)
    (numbered : objs.map Object.id = List.range' 1 objs.length)
    (short : (assemble objs).length < 10 ^ 10) :
    HasTable (assemble objs) (header ++ objs.flatMap Object.write).length (objs.length + 1) := by
  let places := offsets header.length objs
  let front := header ++ objs.flatMap Object.write
  have whole : assemble objs = front ++ tail places front.length := assemble_eq objs
  have near : ∀ place ∈ places, place < 10 ^ 10 := by
    intro place member
    have below := place_lt_of_mem_offsets member
    have : (assemble objs).length = front.length + (tail places front.length).length :=
      List.length_append
    have : front.length = header.length + (objs.flatMap Object.write).length :=
      List.length_append
    omega
  refine ⟨"0000000000 65535 f \n".toList :: places.map entry,
    trailer (places.length + 1) front.length, ?_, ?_, ?_, ?_⟩
  · have rest : (assemble objs).drop front.length = tail places front.length := by
      rw [whole, List.drop_left]
    have size : places.length + 1 = objs.length + 1 := by rw [length_offsets]
    rw [rest, tail_eq, size]
    unfold table
    simp [size, List.flatMap_def, digits]
  · simp [places, length_offsets]
  · rw [List.forall_mem_cons]
    refine ⟨by decide, fun text member => ?_⟩
    obtain ⟨place, among, rfl⟩ := List.mem_map.mp member
    exact length_entry (near place among)
  · intro object member
    rw [objects_assemble legible] at member
    obtain ⟨i, label, at'⟩ := exists_of_mem_foundFrom numbered member
    have among : object.place ∈ places := List.mem_of_getElem? at'
    have there := heading_of_mem_foundFrom header (tail places front.length) member
    refine ⟨?_, there⟩
    have found : (places.map entry)[i]? = some (entry object.place) := by
      rw [List.getElem?_map, at']
      rfl
    rw [label, Nat.add_comm 1 i, List.getElem?_cons_succ, found]
    exact entryPlace?_entry (near _ among)

/-- A key of the trailer that stands in no object. -/
theorem not_mem_front {key : List Char} {c : Char} (inside : c ∈ key)
    (other : c.isDigit = false ∧ c ∉ tableLetters ++ "trailer".toList)
    (fixed : key ∉ [['0'], "obj".toList, "endobj".toList] ∧ key ≠ "%PDF-1.4".toList)
    (free : ∀ object ∈ objs, key ∉ tokens (split object.body)) (places : List Nat) :
    key ∉ "%PDF-1.4".toList :: (objs.flatMap Object.tokens
      ++ lineTokens (table places ++ "trailer".toList)) := by
  rw [List.mem_cons, List.mem_append, not_or, not_or]
  exact ⟨fixed.2, not_mem_flatMap_tokens inside other.1 fixed.1 free,
    not_mem_lineTokens_table inside other⟩

/-- The trailer declares the number of objects, number zero included. -/
theorem valueAfter_size (legible : ∀ object ∈ objs, Legible count object) :
    valueAfter "/Size".toList (tokens (split (assemble objs))) = some (objs.length + 1) := by
  let front := "%PDF-1.4".toList :: (objs.flatMap Object.tokens
    ++ lineTokens (table (offsets header.length objs) ++ "trailer".toList))
  have before : "/Size".toList ∉ front := not_mem_front (c := 'S') (by decide) (by decide)
    (by decide) (fun object member => (legible object member).unsized) _
  have first : "/Size".toList ∉ front ++ ["<<".toList] := by
    rw [List.mem_append, not_or]
    exact ⟨before, by decide⟩
  have apart : tokens (split (assemble objs)) = (front ++ ["<<".toList]) ++ "/Size".toList
      :: digits (objs.length + 1) :: (trailerTokens (objs.length + 1)
        (header ++ objs.flatMap Object.write).length).drop 3 := by
    rw [tokens_assemble legible]
    simp [front, trailerTokens]
  rw [apart]
  exact valueAfter_append first _ _

/-- The trailer says where the table is. -/
theorem valueAfter_startxref (legible : ∀ object ∈ objs, Legible count object) :
    valueAfter "startxref".toList (tokens (split (assemble objs))) =
      some (header ++ objs.flatMap Object.write).length := by
  let front := "%PDF-1.4".toList :: (objs.flatMap Object.tokens
    ++ lineTokens (table (offsets header.length objs) ++ "trailer".toList))
  let start := (header ++ objs.flatMap Object.write).length
  have before : "startxref".toList ∉ front := not_mem_front (c := 's') (by decide) (by decide)
    (by decide) (fun object member => (legible object member).unstarted) _
  have first : "startxref".toList ∉ front ++ (trailerTokens (objs.length + 1) start).take 8 := by
    have : "startxref".toList ≠ digits (objs.length + 1) :=
      ne_digits (c := 's') (by decide) (by decide)
    rw [List.mem_append, not_or]
    exact ⟨before, by simp_all [trailerTokens]⟩
  have apart : tokens (split (assemble objs)) =
      (front ++ (trailerTokens (objs.length + 1) start).take 8) ++ "startxref".toList
        :: digits start :: ["%%EOF".toList] := by
    rw [tokens_assemble legible]
    simp [front, trailerTokens, start]
  rw [apart]
  exact valueAfter_append first _ _

theorem tree_foundFrom {contents : List (List Char)}
    (written : ∀ content ∈ contents, IsContent content) (place : Nat) :
    ∃ object ∈ foundFrom place (objects contents), object.label = ⟨2, 0⟩ ∧
      valueAfter "/Count".toList object.tokens = some contents.length ∧
      kids object.tokens = ((foundFrom place (objects contents)).filter
        fun page => isPage page.tokens).map Found.label ∧
      (kids object.tokens).length = contents.length := by
  have member : pageTree contents.length ∈ objects contents := by simp [objects]
  obtain ⟨at', found⟩ := exists_mem_foundFrom member place
  have words : ((pageTree contents.length).foundAt at').tokens =
      lineTokens (pageTree contents.length).body := by
    rw [tokens_foundAt, tokens_of_idle (isIdle_of_mem_pageTree _)]
  refine ⟨_, found, rfl, ?_, ?_, ?_⟩
  · rw [words, valueAfter_count]
  · have ids : (List.range contents.length).map pageId =
        ((List.range contents.length).map page).map Object.id := by
      simp [page]
    rw [words, kids_pageTree, filter_foundFrom, filter_readsAsPage_objects written, ids]
  · rw [words, kids_pageTree, List.length_map, List.length_map, List.length_range]

/-- Every page of a file leads to its stream. -/
theorem contents_assemble {contents : List (List Char)}
    (written : ∀ content ∈ contents, IsContent content) {place : Nat} {found : Found}
    (member : found ∈ foundFrom place (objects contents)) (reads : isPage found.tokens = true) :
    ∃ content ∈ foundFrom place (objects contents), contents? found.tokens = some content.label ∧
      ∃ text, streamText? content.body = some text ∧
        valueAfter "/Length".toList content.tokens = some text.length := by
  obtain ⟨object, among, at', rfl⟩ := of_mem_foundFrom member
  have isOne : object ∈ (objects contents).filter Object.readsAsPage :=
    List.mem_filter.mpr ⟨among, reads⟩
  rw [filter_readsAsPage_objects written, List.mem_map] at isOne
  obtain ⟨index, below, rfl⟩ := isOne
  have inRange := List.mem_range.mp below
  obtain ⟨there, streamFound⟩ := exists_mem_foundFrom (stream_mem_objects inRange) place
  obtain ⟨rows, nonempty, joined, operates⟩ := written contents[index] (List.getElem_mem inRange)
  refine ⟨_, streamFound, ?_, contents[index], ?_, ?_⟩
  · rw [tokens_foundAt, tokens_of_idle (isIdle_of_mem_page index)]
    exact contents?_page index
  · exact streamText?_stream index nonempty operates joined
  · rw [tokens_foundAt, tokens_stream index nonempty operates joined]
    exact valueAfter_append (by decide : "/Length".toList ∉ ["<<".toList]) _ _

/-- The file for contents is well-formed. -/
theorem wellFormed_assemble {contents : List (List Char)}
    (written : ∀ content ∈ contents, IsContent content)
    (short : (assemble (objects contents)).length < 10 ^ 10) :
    WellFormed (assemble (objects contents)) contents.length := by
  have legible := legible_of_mem_objects written
  have found := objects_assemble legible
  have ids := map_id_objects contents
  have many : (objects contents).length = 4 + 2 * contents.length := by
    simpa using congrArg List.length ids
  have labels : (Reader.objects (assemble (objects contents))).map Found.label =
      (List.range' 1 (4 + 2 * contents.length)).map (⟨·, 0⟩) := by
    rw [found, map_label_foundFrom, ids]
  have size : 5 + 2 * contents.length = (objects contents).length + 1 := by omega
  constructor
  · exact ⟨_, rfl⟩
  · exact labels
  · refine ⟨_, valueAfter_startxref legible, ?_⟩
    rw [size]
    exact hasTable_assemble legible (by rw [ids, many]) short
  · rw [valueAfter_size legible, size]
  · rw [found]
    exact tree_foundFrom written header.length
  · intro label member
    rw [labels]
    rw [references_assemble legible, List.mem_append, List.mem_flatMap,
      List.mem_singleton] at member
    rcases member with ⟨object, among, inside⟩ | rfl
    · obtain ⟨inRange, zero⟩ := (legible object among).resolved label inside
      exact List.mem_map.mpr ⟨label.number, inRange, by rw [← zero]⟩
    · exact List.mem_map.mpr ⟨1, List.mem_range'_1.mpr (by omega), rfl⟩
  · rw [found]
    exact fun page member reads => contents_assemble written member reads

/-! ## Bytes -/

theorem toNat_lt_of_isPrinted {c : Char} (printed : isPrinted c = true) : c.toNat < 128 := by
  simp only [isPrinted, Bool.and_eq_true, decide_eq_true_eq] at printed
  have below : c.val.toNat ≤ '~'.val.toNat := printed.2
  have last : '~'.val.toNat = 126 := rfl
  have value : c.val.toNat = c.toNat := rfl
  omega

theorem toNat_lt_of_isDigit {c : Char} (digit : c.isDigit = true) : c.toNat < 128 :=
  toNat_lt_of_isPrinted (isPrinted_of_isDigit digit)

theorem ascii_write {object : Object} (legible : Legible count object) :
    ∀ c ∈ object.write, c.toNat < 128 := by
  have body : ∀ c ∈ object.body, c.toNat < 128 := by
    intro c member
    rcases legible.ascii c member with printed | rfl
    · exact toNat_lt_of_isPrinted printed
    · decide
  simp only [Object.write, List.forall_mem_append]
  refine ⟨⟨⟨?_, Text.forall_mem_of_all (by decide)⟩, body⟩, Text.forall_mem_of_all (by decide)⟩
  exact fun c member => toNat_lt_of_isDigit (isDigit_of_mem_digits c member)

/-- A file is ASCII. -/
theorem ascii_assemble (legible : ∀ object ∈ objs, Legible count object) :
    ∀ c ∈ assemble objs, c.toNat < 128 := by
  have letters : ∀ c ∈ tailLetters, c.toNat < 128 := Text.forall_mem_of_all (by decide)
  rw [assemble_eq]
  simp only [List.forall_mem_append]
  refine ⟨⟨Text.forall_mem_of_all (by decide), fun c member => ?_⟩, fun c member => ?_⟩
  · obtain ⟨object, among, inside⟩ := List.mem_flatMap.mp member
    exact ascii_write (legible object among) c inside
  · exact (mem_tail c member).elim toNat_lt_of_isDigit (letters c)

/-- A character of ASCII is one byte. -/
theorem encode_of_ascii {cs : List Char} (ascii : ∀ c ∈ cs, c.toNat < 128) :
    Utf8.encode cs = cs.map fun c => UInt8.ofNat c.toNat := by
  induction cs with
  | nil => rfl
  | cons c cs ih =>
      have first : String.utf8EncodeChar c = [UInt8.ofNat c.toNat] := by
        have low : c.toNat < 128 := ascii c (by simp)
        have small : c.val ≤ 127 := UInt32.le_iff_toNat_le.mpr (Nat.le_of_lt_succ low)
        exact String.utf8EncodeChar_eq_singleton (Char.utf8Size_eq_one_iff.mpr small)
      have rest := ih fun d member => ascii d (by simp [member])
      rw [Utf8.encode, List.flatMap_cons, first, List.map_cons, ← rest]
      rfl

/-- Bytes of ASCII stand for their characters. -/
theorem chars_encode {cs : List Char} (ascii : ∀ c ∈ cs, c.toNat < 128) :
    chars (Utf8.encode cs) = cs := by
  rw [encode_of_ascii ascii, chars, List.map_map]
  refine (List.map_congr_left fun c member => ?_).trans (List.map_id cs)
  have low : c.toNat < UInt8.size := Nat.lt_trans (ascii c member) (by decide)
  have same : (UInt8.ofNat c.toNat).toNat = c.toNat := UInt8.toNat_ofNat_of_lt' low
  simp only [Function.comp_apply, same, Char.ofNat_toNat, id_eq]

/-! ## A document -/

/-- The lines of a report, most of them blank: one more than go on a page under a title. -/
def reportLines : List (List Char) :=
  "Due (net): 5 €".toList :: List.replicate 43 [] ++ ["Item".toList]

def reportText : String := String.ofList (Text.joinWith ['\n'] reportLines)

/-- What its two pages are in writing. -/
def reportContents : List (List Char) :=
  let front := ["BT", "72 720 Td", "/F2 16 Tf", "(Report) Tj", "0 -28 Td", "/F1 11 Tf", "14 TL",
    "(Due \\(net\\): 5 \\200) Tj T*"] ++ List.replicate 43 "() Tj T*" ++ ["ET"]
  let back := ["BT", "72 720 Td", "/F1 11 Tf", "14 TL", "(Item) Tj T*", "ET"]
  [front, back].map fun rows => Text.joinWith ['\n'] (rows.map String.toList)

theorem contents_report :
    (layout (some "Report".toList) reportText.toList).mapM Page.content = .ok reportContents := by
  decide +kernel

theorem render_report : render (some "Report") reportText =
    .ok ⟨String.ofList (assemble (objects reportContents)), 2⟩ := by
  unfold render
  rw [Option.map_some, contents_report]
  rfl

/-- A rendered document is the file for the contents of its pages. -/
theorem exists_contents_of_render {title : Option String} {text : String} {pdf : Pdf}
    (rendered : render title text = .ok pdf) :
    ∃ contents, (layout (title.map String.toList) text.toList).mapM Page.content = .ok contents ∧
      pdf = ⟨String.ofList (assemble (objects contents)), contents.length⟩ := by
  unfold render at rendered
  split at rendered
  · cases rendered
  · rename_i contents done
    cases rendered
    exact ⟨contents, done, rfl⟩

/-- A rendered document is a well-formed file in ASCII. -/
theorem wellFormed_of_render {title : Option String} {text : String} {pdf : Pdf}
    (rendered : render title text = .ok pdf)
    (short : (Utf8.encode pdf.text.toList).length < 10 ^ 10) :
    (∀ b ∈ Utf8.encode pdf.text.toList, b.toNat < 128) ∧
      WellFormed (chars (Utf8.encode pdf.text.toList)) pdf.pages := by
  obtain ⟨contents, done, rfl⟩ := exists_contents_of_render rendered
  have written := forall_mem_of_mapM (fun _ _ => Page.isContent_of_content) done
  have ascii := ascii_assemble (legible_of_mem_objects written)
  have bytes := encode_of_ascii ascii
  rw [String.toList_ofList] at short ⊢
  rw [chars_encode ascii]
  rw [bytes, List.length_map] at short
  refine ⟨fun b member => ?_, wellFormed_assemble written short⟩
  rw [bytes] at member
  obtain ⟨c, inside, rfl⟩ := List.mem_map.mp member
  rw [UInt8.toNat_ofNat_of_lt' (Nat.lt_trans (ascii c inside) (by decide))]
  exact ascii c inside

/-- A report of two pages under a title. -/
theorem wellFormed_report : ∃ pdf, render (some "Report") reportText = .ok pdf ∧ pdf.pages = 2 ∧
    (Utf8.encode pdf.text.toList).length < 10 ^ 10 ∧
    (∀ b ∈ Utf8.encode pdf.text.toList, b.toNat < 128) ∧
    WellFormed (chars (Utf8.encode pdf.text.toList)) 2 := by
  have short : (Utf8.encode (String.ofList (assemble (objects reportContents))).toList).length <
      10 ^ 10 := by
    have written := forall_mem_of_mapM (fun _ _ => Page.isContent_of_content) contents_report
    have size : (assemble (objects reportContents)).length < 10 ^ 10 := by decide +kernel
    rw [String.toList_ofList, encode_of_ascii (ascii_assemble (legible_of_mem_objects written)),
      List.length_map]
    exact size
  exact ⟨_, render_report, rfl, short, wellFormed_of_render render_report short⟩

end Workflow.Pdf
