import Workflow.Pdf.Content
import Workflow.Proofs.Pdf.WinAnsi
import Workflow.Proofs.Text.Pieces

/-!
# What stands in the content of a page

Every row of a page's content is printed ASCII and ends with the keyword of an operator, whatever
text is shown: a text stands between parentheses, and its characters beyond ASCII are in octal. So
no row is taken for a line that has a meaning in the file around it.

## Main definitions

* `Pdf.keywords` — the keywords of the operators in use.
* `Pdf.Operates` — a row that is printed and ends with a keyword.
* `Pdf.IsContent` — a content made of such rows.
* `Pdf.Page.isContent_of_content` — the content of a page is one.
-/

namespace Workflow.Pdf

/-- The keywords of the operators in use. -/
def keywords : List (List Char) :=
  ["BT".toList, "ET".toList, "Td".toList, "Tf".toList, "TL".toList, "Tj".toList, "T*".toList]

/-- A row that is printed and ends with a keyword. -/
structure Operates (row : List Char) : Prop where
  printed : ∀ c ∈ row, isPrinted c = true
  keyword : ∃ front, ∃ keyword ∈ keywords, row = front ++ keyword

/-- What a page's content is made of. -/
def IsContent (content : List Char) : Prop :=
  ∃ rows, rows ≠ [] ∧ content = Text.joinWith ['\n'] rows ∧ ∀ row ∈ rows, Operates row

/-- A row ends with no word that ends otherwise. -/
theorem Operates.not_suffix {row word : List Char} (operates : Operates row)
    (long : 2 ≤ word.length) (other : ∀ keyword ∈ keywords, ¬ keyword <:+ word) :
    ¬ word <:+ row := by
  intro ends
  obtain ⟨front, keyword, known, whole⟩ := operates.keyword
  have short : ∀ keyword ∈ keywords, keyword.length = 2 := by decide
  have keywordEnds : keyword <:+ row := ⟨front, whole.symm⟩
  exact other keyword known
    (List.suffix_of_suffix_length_le keywordEnds ends (short keyword known ▸ long))

theorem Operates.ne_endstream {row : List Char} (operates : Operates row) :
    row ≠ "endstream".toList := by
  rintro rfl
  exact operates.not_suffix (by decide) (by decide) List.suffix_rfl

/-! ## Escaping -/

theorem isPrinted_of_mem_octal {n : Nat} {c : Char} (member : c ∈ octal n) :
    isPrinted c = true := by
  have digit : ∀ d < 8, isPrinted (Nat.digitChar d) = true := by decide
  simp only [octal, List.mem_cons, List.not_mem_nil, or_false] at member
  rcases member with rfl | rfl | rfl | rfl
  · decide
  · exact digit _ (Nat.mod_lt _ (by decide))
  · exact digit _ (Nat.mod_lt _ (by decide))
  · exact digit _ (Nat.mod_lt _ (by decide))

theorem isPrinted_of_escapeChar? {c : Char} {escaped : List Char}
    (done : escapeChar? c = some escaped) : ∀ d ∈ escaped, isPrinted d = true := by
  unfold escapeChar? at done
  split at done
  · rename_i special
    cases done
    rcases special with rfl | rfl | rfl <;> exact Text.forall_mem_of_all (by decide)
  split at done
  · rename_i printed
    cases done
    simpa using printed
  split at done
  · cases done
    exact Text.forall_mem_of_all (by decide)
  split at done
  · cases done
    simp
  · obtain ⟨code, _, rfl⟩ := Option.map_eq_some_iff.mp done
    exact fun d member => isPrinted_of_mem_octal member

/-- An escaped text is printed ASCII. -/
theorem isPrinted_of_escape {cs escaped : List Char} (done : escape cs = .ok escaped) :
    ∀ d ∈ escaped, isPrinted d = true := by
  induction cs generalizing escaped with
  | nil =>
      cases done
      simp
  | cons c cs ih =>
      obtain ⟨front, rest, first, later, rfl⟩ := escape_cons_eq_ok_iff.mp done
      intro d member
      rcases List.mem_append.mp member with inFront | inRest
      · exact isPrinted_of_escapeChar? first d inFront
      · exact ih later d inRest

/-! ## Operators -/

theorem isPrinted_of_isDigit {c : Char} (digit : c.isDigit = true) : isPrinted c = true := by
  have between : 48 ≤ c.toNat ∧ c.toNat ≤ 57 := Char.isDigit_iff_toNat.mp digit
  have low : ' ' ≤ c := by
    show ' '.val.toNat ≤ c.val.toNat
    have : c.val.toNat = c.toNat := rfl
    have : ' '.val.toNat = 32 := rfl
    omega
  have high : c ≤ '~' := by
    show c.val.toNat ≤ '~'.val.toNat
    have : c.val.toNat = c.toNat := rfl
    have : '~'.val.toNat = 126 := rfl
    omega
  simp [isPrinted, low, high]

theorem isPrinted_of_mem_toDigits {n : Nat} : ∀ c ∈ Nat.toDigits 10 n, isPrinted c = true :=
  fun _ member =>
    isPrinted_of_isDigit (Nat.isDigit_of_mem_toDigits (by decide) (by decide) member)

theorem number_ofNat (n : Nat) : number n = Nat.toDigits 10 n := Nat.toList_repr

theorem number_negSucc (n : Nat) : number (Int.negSucc n) = '-' :: Nat.toDigits 10 (n + 1) := by
  have signed : toString (Int.negSucc n) = "-" ++ (n + 1).repr := rfl
  rw [number, signed, String.toList_append, Nat.toList_repr]
  rfl

/-- A number consists of digits behind a sign or none. -/
theorem mem_number (n : Int) : ∀ c ∈ number n, c = '-' ∨ c.isDigit = true := by
  have digits : ∀ m, ∀ c ∈ Nat.toDigits 10 m, c = '-' ∨ c.isDigit = true := fun m c member =>
    .inr (Nat.isDigit_of_mem_toDigits (by decide) (by decide) member)
  cases n with
  | ofNat n =>
      rw [Int.ofNat_eq_natCast, number_ofNat]
      exact digits n
  | negSucc n =>
      rw [number_negSucc, List.forall_mem_cons]
      exact ⟨.inl rfl, digits (n + 1)⟩

theorem isPrinted_of_mem_number {n : Int} : ∀ c ∈ number n, isPrinted c = true := by
  intro c member
  rcases mem_number n c member with rfl | digit
  · decide
  · exact isPrinted_of_isDigit digit

/-- The text that an operator shows is printed. -/
def Operator.Shows : Operator → Prop
  | showText escaped => ∀ c ∈ escaped, isPrinted c = true
  | _ => True

theorem operates_write {op : Operator} (shows : op.Shows) : Operates op.write := by
  cases op with
  | beginText => exact ⟨Text.forall_mem_of_all (by decide), [], "BT".toList, by decide, rfl⟩
  | endText => exact ⟨Text.forall_mem_of_all (by decide), [], "ET".toList, by decide, rfl⟩
  | nextLine => exact ⟨Text.forall_mem_of_all (by decide), [], "T*".toList, by decide, rfl⟩
  | move right up =>
      refine ⟨?_, number right ++ ' ' :: number up ++ [' '], "Td".toList, by decide, ?_⟩
      · simp only [Operator.write, List.forall_mem_append, List.forall_mem_cons]
        exact ⟨⟨isPrinted_of_mem_number, by decide, isPrinted_of_mem_number⟩,
          Text.forall_mem_of_all (by decide)⟩
      · simp [Operator.write]
  | font f size =>
      refine ⟨?_, '/' :: f.name.toList ++ ' ' :: number size ++ [' '], "Tf".toList, by decide, ?_⟩
      · have name : ∀ c ∈ f.name.toList, isPrinted c = true := by
          cases f <;> exact Text.forall_mem_of_all (by decide)
        simp only [Operator.write, List.cons_append, List.forall_mem_append, List.forall_mem_cons]
        exact ⟨by decide, ⟨name, by decide, isPrinted_of_mem_number⟩,
          Text.forall_mem_of_all (by decide)⟩
      · simp [Operator.write]
  | setLeading points =>
      refine ⟨?_, number points ++ [' '], "TL".toList, by decide, ?_⟩
      · simp only [Operator.write, List.forall_mem_append]
        exact ⟨isPrinted_of_mem_number, Text.forall_mem_of_all (by decide)⟩
      · simp [Operator.write]
  | showText escaped =>
      refine ⟨?_, '(' :: escaped ++ ") ".toList, "Tj".toList, by decide, ?_⟩
      · simp only [Operator.write, List.cons_append, List.forall_mem_append, List.forall_mem_cons]
        exact ⟨by decide, shows, Text.forall_mem_of_all (by decide)⟩
      · simp [Operator.write]

namespace Page

theorem operates_writeRow {row : List Operator} (some : row ≠ [])
    (shows : ∀ op ∈ row, op.Shows) : Operates (writeRow row) := by
  induction row with
  | nil => exact absurd rfl some
  | cons op rest ih =>
      have first := operates_write (shows op (by simp))
      cases rest with
      | nil => exact first
      | cons next more =>
          obtain ⟨printed, front, keyword, known, ends⟩ :=
            ih (by simp) fun other member => shows other (by simp [member])
          have apart : writeRow (op :: next :: more) =
              op.write ++ ' ' :: writeRow (next :: more) := by
            simp [writeRow, Text.joinWith]
          rw [apart]
          refine ⟨?_, op.write ++ ' ' :: front, keyword, known, by simp [ends]⟩
          simp only [List.forall_mem_append, List.forall_mem_cons]
          exact ⟨first.printed, by decide, printed⟩

theorem shows_of_titleRows {title : Option (List Char)} {rows : List (List Operator)}
    (done : titleRows title = .ok rows) : ∀ row ∈ rows, row ≠ [] ∧ ∀ op ∈ row, op.Shows := by
  cases title with
  | none =>
      cases done
      simp
  | some text =>
      obtain ⟨escaped, encoded, done⟩ := bind_eq_ok_iff.mp done
      cases done
      simpa [Operator.Shows] using isPrinted_of_escape encoded

/-- The texts in the rows of a page are printed. -/
theorem shows_of_rows {page : Page} {rows : List (List Operator)} (done : page.rows = .ok rows) :
    rows ≠ [] ∧ ∀ row ∈ rows, row ≠ [] ∧ ∀ op ∈ row, op.Shows := by
  obtain ⟨title, ofTitle, done⟩ := bind_eq_ok_iff.mp done
  obtain ⟨lines, ofLines, done⟩ := bind_eq_ok_iff.mp done
  have titleShows := shows_of_titleRows ofTitle
  have linesShow : ∀ row ∈ lines, row ≠ [] ∧ ∀ op ∈ row, op.Shows := by
    refine forall_mem_of_mapM (fun line row ofLine => ?_) ofLines
    obtain ⟨escaped, encoded, ofLine⟩ := bind_eq_ok_iff.mp ofLine
    cases ofLine
    simpa [Operator.Shows] using isPrinted_of_escape encoded
  cases done
  refine ⟨by simp, ?_⟩
  simp only [List.forall_mem_append]
  exact ⟨⟨⟨⟨by simp [Operator.Shows], titleShows⟩, by simp [Operator.Shows]⟩, linesShow⟩,
    by simp [Operator.Shows]⟩

/-- A page's content consists of printed rows that end with keywords. -/
theorem isContent_of_content {page : Page} {text : List Char} (done : page.content = .ok text) :
    IsContent text := by
  obtain ⟨rows, ofPage, rfl⟩ := map_eq_ok_iff.mp done
  obtain ⟨some, shows⟩ := shows_of_rows ofPage
  refine ⟨rows.map writeRow, by simpa using some, rfl, ?_⟩
  intro line member
  obtain ⟨row, among, rfl⟩ := List.mem_map.mp member
  exact operates_writeRow (shows row among).1 (shows row among).2

end Page

end Workflow.Pdf
