import Workflow.Proofs.Pdf.Objects

/-!
# How a file reads

The lines of a file are those of its header, of its objects in order, and of the table and the
trailer. So the objects that a reader finds are those that were written, each at its offset, and the
tokens of the file are those of the objects and of the trailer.

## Main definitions

* `Pdf.foundFrom place objects` — objects as they are found one after another.
* `Pdf.objects_assemble` — the objects that are found in a file.
* `Pdf.tokens_assemble`, `Pdf.references_assemble` — its tokens and its references.
* `Pdf.heading_of_mem_foundFrom` — at its place an object begins with its heading.
-/

namespace Workflow.Pdf

open Reader

/-! ## The lines of a file -/

/-- An object as it is found at a place. -/
def Object.foundAt (object : Object) (place : Nat) : Found :=
  ⟨place, ⟨object.id, 0⟩, split object.body⟩

theorem tokens_foundAt (object : Object) (place : Nat) :
    (object.foundAt place).tokens = Reader.tokens (split object.body) := rfl

/-- Objects one after another, the first of them at `place`. -/
def foundFrom (place : Nat) : List Object → List Found
  | [] => []
  | object :: rest => object.foundAt place :: foundFrom (place + object.write.length) rest

theorem map_label_foundFrom (place : Nat) (objs : List Object) :
    (foundFrom place objs).map Found.label = (objs.map Object.id).map (⟨·, 0⟩) := by
  induction objs generalizing place with
  | nil => rfl
  | cons object rest ih => simp [foundFrom, Object.foundAt, ih]

theorem filter_foundFrom (place : Nat) (objs : List Object) :
    ((foundFrom place objs).filter fun object => isPage object.tokens).map Found.label =
      ((objs.filter Object.readsAsPage).map Object.id).map (⟨·, 0⟩) := by
  induction objs generalizing place with
  | nil => rfl
  | cons object rest ih =>
      have same : isPage (object.foundAt place).tokens = object.readsAsPage := rfl
      rw [foundFrom, List.filter_cons, List.filter_cons, same]
      cases object.readsAsPage with
      | true =>
          rw [if_pos rfl, if_pos rfl, List.map_cons, ih]
          rfl
      | false => exact ih (place + object.write.length)

theorem exists_mem_foundFrom {object : Object} {objs : List Object} (member : object ∈ objs)
    (start : Nat) : ∃ place, object.foundAt place ∈ foundFrom start objs := by
  induction objs generalizing start with
  | nil => cases member
  | cons head rest ih =>
      rcases List.mem_cons.mp member with rfl | member
      · exact ⟨start, by simp [foundFrom]⟩
      · obtain ⟨place, later⟩ := ih member (start + head.write.length)
        exact ⟨place, by simp [foundFrom, later]⟩

theorem of_mem_foundFrom {found : Found} {start : Nat} {objs : List Object}
    (member : found ∈ foundFrom start objs) :
    ∃ object ∈ objs, ∃ place, found = object.foundAt place := by
  induction objs generalizing start with
  | nil => cases member
  | cons head rest ih =>
      rcases List.mem_cons.mp member with rfl | member
      · exact ⟨head, by simp, start, rfl⟩
      · obtain ⟨object, among, place, same⟩ := ih member
        exact ⟨object, by simp [among], place, same⟩

/-- The heading of an object. -/
def Object.heading (object : Object) : List Char := digits object.id ++ " 0 obj".toList

/-- The lines of an object. -/
def Object.lines (object : Object) : List (List Char) :=
  object.heading :: split object.body ++ ["endobj".toList]

variable {count : Nat} {objs : List Object}

theorem heading?_heading (object : Object) : heading? object.heading = some ⟨object.id, 0⟩ := by
  have apart : object.heading = (digits object.id ++ ' ' :: ['0']) ++ " obj".toList := by
    simp [Object.heading]
  have zero : lineTokens ['0'] = [['0']] := by decide
  rw [apart, heading?_append, lineTokens_append_space, lineTokens_digits, zero]
  exact label?_toDigits object.id

theorem lineTokens_heading (object : Object) :
    lineTokens object.heading = [digits object.id, ['0'], "obj".toList] := by
  have rest : lineTokens "0 obj".toList = [['0'], "obj".toList] := by decide
  have apart : object.heading = digits object.id ++ ' ' :: "0 obj".toList := rfl
  rw [apart, lineTokens_append_space, lineTokens_digits, rest]
  rfl

theorem not_stream_heading (object : Object) : "stream".toList ∉ [object.heading] := by
  rw [List.mem_singleton]
  intro same
  have ends : "obj".toList <:+ object.heading :=
    ⟨digits object.id ++ " 0 ".toList, by simp [Object.heading]⟩
  exact absurd (same ▸ ends) (by decide)

theorem split_write (object : Object) (back : List Char) :
    split (object.write ++ back) = object.lines ++ split back := by
  have apart : object.write ++ back = object.heading ++ '\n' :: (object.body ++ '\n' ::
      ("endobj".toList ++ '\n' :: back)) := by
    simp [Object.write, Object.heading]
  have single : '\n' ∉ object.heading := by
    rw [Object.heading, List.mem_append, not_or]
    exact ⟨not_mem_of_isIdle isIdle_of_mem_digits (by decide), by decide⟩
  have closing : split "endobj".toList = ["endobj".toList] := by decide
  rw [apart, split_append, split_append, split_append, split_eq_singleton single, closing]
  simp [Object.lines]

theorem split_flatMap_write (objs : List Object) (back : List Char) :
    split (objs.flatMap Object.write ++ back) = objs.flatMap Object.lines ++ split back := by
  induction objs with
  | nil => rfl
  | cons object rest ih =>
      rw [List.flatMap_cons, List.append_assoc, split_write, ih, List.flatMap_cons,
        List.append_assoc]

/-- The objects of a file are found where they were written. -/
theorem objectsOf_flatMap_lines (legible : ∀ object ∈ objs, Legible count object) (place : Nat)
    (back : List (List Char)) :
    objectsOf (linesFrom place (objs.flatMap Object.lines ++ back)) = foundFrom place objs ++
      objectsOf (linesFrom (place + (objs.flatMap Object.write).length) back) := by
  induction objs generalizing place with
  | nil => simp [foundFrom]
  | cons object rest ih =>
      have later := ih fun other member => legible other (by simp [member])
      have apart : (object :: rest).flatMap Object.lines ++ back = object.heading
          :: split object.body ++ "endobj".toList :: (rest.flatMap Object.lines ++ back) := by
        simp [Object.lines]
      have width : place + object.heading.length + 1 + (object.body.length + 1) + 7 =
          place + object.write.length := by
        simp [Object.heading, Object.write]
        omega
      rw [apart, objectsOf_object (heading?_heading object) (legible object (by simp)).inner,
        width_split, width, later]
      simp [foundFrom, Object.foundAt, Nat.add_assoc]

/-! ## The end of a file -/

variable {places : List Nat} {start : Nat}

/-- The table, up to the trailer. -/
def table (places : List Nat) : List Char :=
  "xref\n0 ".toList ++ digits (places.length + 1) ++ "\n0000000000 65535 f \n".toList
    ++ places.flatMap entry

/-- The trailer behind its keyword. -/
def trailer (size start : Nat) : List Char :=
  "<< /Size".toList ++ ' ' :: (digits size ++ ' ' :: ("/Root 1 0 R >>\nstartxref".toList
    ++ '\n' :: (digits start ++ '\n' :: "%%EOF\n".toList)))

theorem tail_eq (places : List Nat) (start : Nat) :
    tail places start =
      table places ++ "trailer".toList ++ '\n' :: trailer (places.length + 1) start := by
  unfold tail table trailer
  simp

theorem isDigit_of_mem_digits {n : Nat} : ∀ c ∈ digits n, c.isDigit = true :=
  fun _ member => Nat.isDigit_of_mem_toDigits (by decide) (by decide) member

theorem isDigit_of_mem_tenDigits {n : Nat} : ∀ c ∈ tenDigits n, c.isDigit = true := by
  simp only [tenDigits, List.forall_mem_append]
  refine ⟨fun c member => ?_, isDigit_of_mem_digits⟩
  rw [List.eq_of_mem_replicate member]
  rfl

/-- The characters of the table besides digits. -/
def tableLetters : List Char := "xref fn\n".toList

/-- The characters of the end of a file besides digits. -/
def tailLetters : List Char := tableLetters ++ "trailer<</Size/Root R>>startxref%%EOF".toList

theorem mem_table : ∀ c ∈ table places, c.isDigit = true ∨ c ∈ tableLetters := by
  unfold table
  simp only [List.forall_mem_append]
  have row : ∀ place, ∀ c ∈ entry place, c.isDigit = true ∨ c ∈ tableLetters := by
    intro place
    simp only [entry, List.forall_mem_append]
    exact ⟨fun c member => .inl (isDigit_of_mem_tenDigits c member),
      Text.forall_mem_of_all (by decide)⟩
  refine ⟨⟨⟨Text.forall_mem_of_all (by decide), ?_⟩, Text.forall_mem_of_all (by decide)⟩, ?_⟩
  · exact fun c member => .inl (isDigit_of_mem_digits c member)
  · intro c member
    obtain ⟨place, _, inside⟩ := List.mem_flatMap.mp member
    exact row place c inside

theorem mem_tail : ∀ c ∈ tail places start, c.isDigit = true ∨ c ∈ tailLetters := by
  rw [tail_eq]
  unfold trailer
  simp only [List.forall_mem_append, List.forall_mem_cons]
  have digit : ∀ n, ∀ c ∈ digits n, c.isDigit = true ∨ c ∈ tailLetters :=
    fun n c member => .inl (isDigit_of_mem_digits c member)
  have letters : tableLetters ⊆ tailLetters := List.subset_append_left _ _
  have fixed : ∀ {cs : List Char},
      (cs.all fun c => decide (c.isDigit = true ∨ c ∈ tailLetters)) = true →
      ∀ c ∈ cs, c.isDigit = true ∨ c ∈ tailLetters := Text.forall_mem_of_all
  exact ⟨⟨fun c member => (mem_table c member).imp_right (@letters c), fixed (by decide)⟩,
    by decide, fixed (by decide), by decide, digit _, by decide, fixed (by decide), by decide,
    digit _, by decide, fixed (by decide)⟩

/-- No object is found in the end of a file. -/
theorem objectsOf_tail (place : Nat) :
    objectsOf (linesFrom place (split (tail places start))) = [] := by
  refine objectsOf_eq_nil (fun line member ends => ?_) place
  have inside : 'j' ∈ line := ends.subset (by decide)
  exact absurd (mem_tail 'j' (Text.of_mem_pieces member inside).1) (by decide)

theorem tokens_tail :
    tokens (split (tail places start)) = lineTokens (tail places start) := by
  have plain : "stream".toList ∉ split (tail places start) := fun member =>
    absurd (mem_tail 'm' (Text.of_mem_pieces member (by decide)).1) (by decide)
  have whole := bare_append plain []
  rw [List.append_nil] at whole
  rw [tokens, whole, bare, List.append_nil, flatMap_lineTokens_split]

/-- No key and no reference is among the tokens of the table. -/
theorem not_mem_lineTokens_table {word : List Char} {c : Char} (inside : c ∈ word)
    (other : c.isDigit = false ∧ c ∉ tableLetters ++ "trailer".toList) :
    word ∉ lineTokens (table places ++ "trailer".toList) := by
  intro member
  rw [List.mem_append, not_or] at other
  rcases List.mem_append.mp (mem_of_mem_lineTokens member inside) with known | known
  · rcases mem_table c known with digit | letter
    · rw [digit] at other
      exact absurd other.1 (by decide)
    · exact other.2.1 letter
  · exact other.2.2 known

/-- The tokens of the trailer behind its keyword. -/
def trailerTokens (size start : Nat) : List (List Char) :=
  ["<<".toList, "/Size".toList, digits size, "/Root".toList, ['1'], ['0'], ['R'], ">>".toList,
    "startxref".toList, digits start, "%%EOF".toList]

theorem lineTokens_tail : lineTokens (tail places start) =
    lineTokens (table places ++ "trailer".toList) ++ trailerTokens (places.length + 1) start := by
  have first : lineTokens "<< /Size".toList = ["<<".toList, "/Size".toList] := by decide
  have second : lineTokens "/Root 1 0 R >>\nstartxref".toList =
      ["/Root".toList, ['1'], ['0'], ['R'], ">>".toList, "startxref".toList] := by decide
  have third : lineTokens "%%EOF\n".toList = ["%%EOF".toList] := by decide
  rw [tail_eq, lineTokens_append_feed]
  unfold trailer
  rw [lineTokens_append_space, lineTokens_append_space, lineTokens_append_feed,
    lineTokens_append_feed, lineTokens_digits, lineTokens_digits, first, second, third]
  rfl

theorem references_trailerTokens (size start : Nat) :
    references (trailerTokens size start) = [⟨1, 0⟩] := by
  let back := [">>".toList, "startxref".toList, digits start, "%%EOF".toList]
  have front : references ["<<".toList, "/Size".toList, digits size] = [] := by
    have : ['R'] ≠ digits size := ne_digits (c := 'R') (by simp) (by decide)
    exact references_eq_nil (by simp [this])
  have one : references (['1'] :: ['0'] :: ['R'] :: back) = ⟨1, 0⟩ :: references back :=
    references_cons_reference 1 back
  have none : references back = [] := by
    rw [references_cons_of_keyword (by decide), references_cons_of_keyword (by decide)]
    rfl
  have apart : trailerTokens size start = ["<<".toList, "/Size".toList, digits size] ++
      "/Root".toList :: (['1'] :: ['0'] :: ['R'] :: back) := rfl
  rw [apart, references_append (by decide) (by decide), front, one, none]
  rfl

/-! ## The tokens of a file -/

/-- The tokens of an object. -/
def Object.tokens (object : Object) : List (List Char) :=
  [digits object.id, ['0']] ++ "obj".toList ::
    (Reader.tokens (split object.body) ++ ["endobj".toList])

theorem tokens_flatMap_lines (legible : ∀ object ∈ objs, Legible count object)
    (back : List (List Char)) :
    Reader.tokens (objs.flatMap Object.lines ++ back) =
      objs.flatMap Object.tokens ++ Reader.tokens back := by
  induction objs with
  | nil => rfl
  | cons object rest ih =>
      have later := ih fun other member => legible other (by simp [member])
      have apart : (object :: rest).flatMap Object.lines ++ back = [object.heading]
          ++ (split object.body ++ (["endobj".toList] ++ (rest.flatMap Object.lines ++ back))) := by
        simp [Object.lines]
      have ending : lineTokens "endobj".toList = ["endobj".toList] := by decide
      rw [Reader.tokens, apart, bare_append (not_stream_heading object),
        (legible object (by simp)).closed, bare_append (by decide)]
      simp only [List.flatMap_append, List.flatMap_cons, List.flatMap_nil, List.append_nil,
        lineTokens_heading, ending]
      rw [Reader.tokens] at later
      rw [later]
      simp [Object.tokens, Reader.tokens]

/-- The references of objects lead to objects. -/
theorem references_flatMap_tokens (legible : ∀ object ∈ objs, Legible count object)
    (back : List (List Char)) :
    references (objs.flatMap Object.tokens ++ back) =
      (objs.flatMap fun object => references (Reader.tokens (split object.body)))
        ++ references back := by
  induction objs with
  | nil => rfl
  | cons object rest ih =>
      have later := ih fun other member => legible other (by simp [member])
      have apart : (object :: rest).flatMap Object.tokens ++ back = [digits object.id, ['0']]
          ++ "obj".toList :: (Reader.tokens (split object.body)
            ++ "endobj".toList :: (rest.flatMap Object.tokens ++ back)) := by
        simp [Object.tokens]
      have front : references [digits object.id, ['0']] = [] := rfl
      rw [apart, references_append (by decide) (by decide), front,
        references_append (by decide) (by decide), later]
      simp

theorem not_mem_flatMap_tokens {key : List Char} {c : Char}
    (inside : c ∈ key) (other : c.isDigit = false)
    (fixed : key ∉ [['0'], "obj".toList, "endobj".toList])
    (free : ∀ object ∈ objs, key ∉ Reader.tokens (split object.body)) :
    key ∉ objs.flatMap Object.tokens := by
  intro member
  obtain ⟨object, among, here⟩ := List.mem_flatMap.mp member
  have number : key ≠ digits object.id := ne_digits inside other
  have body := free object among
  simp only [List.mem_cons, List.not_mem_nil, or_false, not_or] at fixed
  simp only [Object.tokens, List.mem_append, List.mem_cons, List.not_mem_nil, or_false] at here
  rcases here with (here | here) | here | here | here
  · exact number here
  · exact fixed.1 here
  · exact fixed.2.1 here
  · exact body here
  · exact fixed.2.2 here

/-! ## The places in a file -/

/-- The place of an object is within what is written before it. -/
theorem place_lt_of_mem_offsets {place start : Nat} (member : place ∈ offsets start objs) :
    place < start + (objs.flatMap Object.write).length := by
  induction objs generalizing start with
  | nil => cases member
  | cons object rest ih =>
      have some : 0 < object.write.length := by
        have ending : 0 < "\nendobj\n".toList.length := by decide
        rw [Object.write, List.length_append]
        omega
      rw [offsets, List.mem_cons] at member
      simp only [List.flatMap_cons, List.length_append]
      rcases member with rfl | member
      · omega
      · have := ih member
        omega

theorem length_offsets (start : Nat) (objs : List Object) :
    (offsets start objs).length = objs.length := by
  induction objs generalizing start with
  | nil => rfl
  | cons object rest ih => simp [offsets, ih]

/-- Found objects are numbered on and stand at their places. -/
theorem exists_of_mem_foundFrom {first place : Nat} {object : Found}
    (numbered : objs.map Object.id = List.range' first objs.length)
    (member : object ∈ foundFrom place objs) :
    ∃ i, object.label = ⟨first + i, 0⟩ ∧ (offsets place objs)[i]? = some object.place := by
  induction objs generalizing first place with
  | nil => cases member
  | cons head rest ih =>
      rw [List.map_cons, List.length_cons, List.range'_succ, List.cons.injEq] at numbered
      rw [foundFrom, List.mem_cons] at member
      rcases member with rfl | member
      · exact ⟨0, by simp [Object.foundAt, numbered.1], rfl⟩
      · obtain ⟨i, label, at'⟩ := ih numbered.2 member
        refine ⟨i + 1, ?_, at'⟩
        rw [label, Nat.add_assoc, Nat.add_comm 1 i]

/-- At the place of a found object stands its heading. -/
theorem heading_of_mem_foundFrom (front back : List Char) {object : Found}
    (member : object ∈ foundFrom front.length objs) :
    digits object.label.number ++ " 0 obj\n".toList <+:
      (front ++ objs.flatMap Object.write ++ back).drop object.place := by
  induction objs generalizing front with
  | nil => cases member
  | cons head rest ih =>
      rw [foundFrom, List.mem_cons] at member
      rcases member with rfl | member
      · exact ⟨head.body ++ "\nendobj\n".toList ++ rest.flatMap Object.write ++ back, by
          simp [Object.foundAt, Object.write]⟩
      · have later := ih (front ++ head.write) (by simpa using member)
        simpa using later

/-! ## The whole file -/

theorem assemble_eq (objs : List Object) : assemble objs = header ++ objs.flatMap Object.write ++
    tail (offsets header.length objs) (header ++ objs.flatMap Object.write).length := rfl

theorem header_append (back : List Char) :
    header ++ back = "%PDF-1.4".toList ++ '\n' :: back := by
  have whole : header = "%PDF-1.4".toList ++ ['\n'] := by decide
  rw [whole, List.append_assoc]
  rfl

theorem split_assemble (objs : List Object) :
    split (assemble objs) = ["%PDF-1.4".toList] ++ (objs.flatMap Object.lines ++
      split (tail (offsets header.length objs) (header ++ objs.flatMap Object.write).length)) := by
  have first : split "%PDF-1.4".toList = ["%PDF-1.4".toList] := by decide
  rw [assemble_eq, List.append_assoc, header_append, split_append, split_flatMap_write, first]

/-- The objects of a file are those that were written. -/
theorem objects_assemble (legible : ∀ object ∈ objs, Legible count object) :
    Reader.objects (assemble objs) = foundFrom header.length objs := by
  have plain : ∀ line ∈ ["%PDF-1.4".toList], ¬ "obj".toList <:+ line := by decide
  have width : 0 + Text.width ["%PDF-1.4".toList] = header.length := by decide
  rw [Reader.objects, lines, split_assemble, objectsOf_append plain, width,
    objectsOf_flatMap_lines legible, objectsOf_tail, List.append_nil]

theorem tokens_assemble (legible : ∀ object ∈ objs, Legible count object) :
    tokens (split (assemble objs)) = "%PDF-1.4".toList :: (objs.flatMap Object.tokens ++
      (lineTokens (table (offsets header.length objs) ++ "trailer".toList) ++
        trailerTokens (objs.length + 1) (header ++ objs.flatMap Object.write).length)) := by
  have first : lineTokens "%PDF-1.4".toList = ["%PDF-1.4".toList] := by decide
  have rest := tokens_flatMap_lines legible
    (split (tail (offsets header.length objs) (header ++ objs.flatMap Object.write).length))
  rw [tokens] at rest
  rw [split_assemble, tokens, bare_append (by decide), List.flatMap_append, rest, tokens_tail,
    lineTokens_tail, length_offsets]
  simp only [List.flatMap_cons, List.flatMap_nil, List.append_nil, first, List.singleton_append]

theorem references_assemble (legible : ∀ object ∈ objs, Legible count object) :
    references (tokens (split (assemble objs))) =
      (objs.flatMap fun object => references (tokens (split object.body))) ++ [⟨1, 0⟩] := by
  let front := lineTokens (table (offsets header.length objs) ++ "trailer".toList)
  let start := (header ++ objs.flatMap Object.write).length
  have none : references front = [] :=
    references_eq_nil (not_mem_lineTokens_table (c := 'R') (by decide) (by decide))
  have trailing : references (front ++ trailerTokens (objs.length + 1) start) = [⟨1, 0⟩] := by
    have keyword : number? "<<".toList = .none := by decide
    have whole := references_trailerTokens (objs.length + 1) start
    rw [trailerTokens, references_cons_of_keyword keyword] at whole
    rw [trailerTokens, references_append keyword (by decide), none, whole]
    rfl
  rw [tokens_assemble legible, references_cons_of_keyword (by decide),
    references_flatMap_tokens legible, trailing]

end Workflow.Pdf
