import Workflow.Http.Call
import Workflow.Proofs.Url.Reading

/-!
# Changes of a URL

What is put into a part of a URL holds nothing that the part may not hold, and can be read from it
again: a user name and a password up to the escapes that they hold themselves, a segment whole,
unless it is one of the two dot segments or holds tabs or line ends.

## Main definitions

* `Url.plain?_encode_inUserinfo` — which user names and passwords come back.
* `Url.push_of_empty` — what a segment behind an empty path is read as.
-/

namespace Workflow.Url

/-! ## Dot segments -/

/-- What has a small form that is no letter is that form. -/
theorem eq_of_toLower {c d : Char} (small : c.toLower = d)
    (other : d.toNat < 0x61 ∨ 0x7A < d.toNat) : c = d := by
  unfold Char.toLower at small
  split at small
  · rename_i upper
    have low : 0x41 ≤ c.toNat := UInt32.le_iff_toNat_le.mp upper.1
    have high : c.toNat ≤ 0x5A := UInt32.le_iff_toNat_le.mp upper.2
    have shifted : d.toNat = c.toNat + 32 := by
      have offset : ('a'.val - 'A'.val).toNat = 32 := rfl
      have same : c.val.toNat = c.toNat := rfl
      rw [← small]
      change (c.val + ('a'.val - 'A'.val)).toNat = _
      rw [UInt32.toNat_add]
      omega
    omega
  · exact small

theorem value?_of_toLower_e {c : Char} (small : c.toLower = 'e') : Hex.value? c = some 14 := by
  unfold Char.toLower at small
  split at small
  · rename_i upper
    have capital : c = 'E' := by
      have shifted : (c.val + ('a'.val - 'A'.val)) = 'e'.val := congrArg Char.val small
      have offset : ('a'.val - 'A'.val).toNat = 32 := rfl
      have letter : 'e'.val.toNat = 101 := rfl
      have high : c.val.toNat ≤ 0x5A := UInt32.le_iff_toNat_le.mp upper.2
      have sum := congrArg UInt32.toNat shifted
      rw [UInt32.toNat_add, offset, letter] at sum
      exact Char.toNat_inj.mp (show c.val.toNat = 69 by omega)
    rw [capital]
    decide
  · rw [small]
    decide

/-- A dot, bare or escaped, in any case, is read as a dot. -/
theorem decode_of_dot {cs rest : List Char}
    (form : cs.map Char.toLower = '.' :: rest ∨ cs.map Char.toLower = '%' :: '2' :: 'e' :: rest) :
    ∃ back, back.map Char.toLower = rest ∧ Percent.decode cs = 0x2E :: Percent.decode back := by
  rcases form with form | form
  · obtain ⟨c, back, rfl, dot, later⟩ := List.map_eq_cons_iff.mp form
    obtain rfl := eq_of_toLower dot (by decide)
    exact ⟨back, later, Percent.decode_cons (by decide) back⟩
  · obtain ⟨c, later, rfl, sign, form⟩ := List.map_eq_cons_iff.mp form
    obtain ⟨a, later, rfl, two, form⟩ := List.map_eq_cons_iff.mp form
    obtain ⟨b, back, rfl, letter, later⟩ := List.map_eq_cons_iff.mp form
    obtain rfl := eq_of_toLower sign (by decide)
    obtain rfl := eq_of_toLower two (by decide)
    have value : Hex.value? '2' = some 2 := by decide
    refine ⟨back, later, ?_⟩
    simp [Percent.decode_percent, Percent.byte?, value, value?_of_toLower_e letter]

/-- A segment for the directory it is in spells a dot. -/
theorem decode_of_isSingleDot {segment : String} (dot : isSingleDot segment = true) :
    Percent.decode segment.toList = Utf8.encode ['.'] := by
  have forms : segment.toList.map Char.toLower = ['.'] ∨
      segment.toList.map Char.toLower = ['%', '2', 'e'] := by
    rw [← String.toList_map]
    simp only [isSingleDot, Bool.or_eq_true, decide_eq_true_eq] at dot
    exact dot.imp (congrArg String.toList) (congrArg String.toList)
  obtain ⟨back, none, read⟩ := decode_of_dot forms
  rw [List.map_eq_nil_iff.mp none] at read
  exact read

/-- A segment for the directory above spells two dots. -/
theorem decode_of_isDoubleDot {segment : String} (dots : isDoubleDot segment = true) :
    Percent.decode segment.toList = Utf8.encode ['.', '.'] := by
  have forms : ∃ rest, (segment.toList.map Char.toLower = '.' :: rest ∨
      segment.toList.map Char.toLower = '%' :: '2' :: 'e' :: rest) ∧
        (rest = ['.'] ∨ rest = ['%', '2', 'e']) := by
    rw [← String.toList_map]
    simp only [isDoubleDot, Bool.or_eq_true, decide_eq_true_eq] at dots
    rcases dots with ((dots | dots) | dots) | dots
    · exact ⟨['.'], .inl (congrArg String.toList dots), .inl rfl⟩
    · exact ⟨['%', '2', 'e'], .inl (congrArg String.toList dots), .inr rfl⟩
    · exact ⟨['.'], .inr (congrArg String.toList dots), .inl rfl⟩
    · exact ⟨['%', '2', 'e'], .inr (congrArg String.toList dots), .inr rfl⟩
  obtain ⟨rest, first, second⟩ := forms
  obtain ⟨back, rfl, read⟩ := decode_of_dot first
  obtain ⟨back, none, later⟩ := decode_of_dot second
  rw [read, later, List.map_eq_nil_iff.mp none]
  rfl

/-! ## What is put into a part -/

open HttpCall (plain?)

/-- A part spells a text if its escapes give the bytes of the text. -/
theorem plain?_eq_some_iff {part s : String} :
    plain? part = some s ↔ Percent.decode part.toList = Utf8.encode s.toList :=
  Percent.fromUTF8?_eq_some_iff

theorem utf8_injective {cs ds : List Char} (same : Utf8.encode cs = Utf8.encode ds) : cs = ds := by
  have first : String.fromUTF8? ⟨(Utf8.encode cs).toArray⟩ = some (String.ofList cs) :=
    Percent.fromUTF8?_eq_some_iff.mpr (by simp)
  have second : String.fromUTF8? ⟨(Utf8.encode cs).toArray⟩ = some (String.ofList ds) :=
    Percent.fromUTF8?_eq_some_iff.mpr (by simp [same])
  have strings : String.ofList cs = String.ofList ds := Option.some.inj (first.symm.trans second)
  simpa using congrArg String.toList strings

theorem free_of_encode_inUserinfo (cs : List Char) :
    ∀ c ∈ Percent.encode Percent.inUserinfo cs, Percent.inUserinfo c = false :=
  Percent.forall_mem_encode (fun _ _ => id) (by decide) (by decide)

/-- A user name or a password is spelled by its part exactly if it holds no escape itself. -/
theorem plain?_encode_inUserinfo (s : String) :
    plain? (String.ofList (Percent.encode Percent.inUserinfo s.toList)) = some s ↔
      Percent.hasEscape s.toList = false := by
  rw [plain?_eq_some_iff, String.toList_ofList, Percent.decode_encode
    (fun _ => Percent.inUserinfo_of_digit) (by decide), Percent.decode_eq_iff]

/-! ## Segments -/

/-- The characters of a segment that are not dropped. -/
def kept (segment : String) : List Char := segment.toList.filter (! isDropped ·)

/-- The escaped form of a segment. -/
def slice (segment : String) : String :=
  String.ofList (Percent.encode Percent.inSegment (kept segment))

theorem kept_eq_iff {segment : String} :
    kept segment = segment.toList ↔ ∀ c ∈ segment.toList, isDropped c = false := by
  rw [kept, List.filter_eq_self]
  simp

/-- A slice spells what is not dropped. -/
theorem decode_slice (segment : String) :
    Percent.decode (slice segment).toList = Utf8.encode (kept segment) := by
  rw [slice, String.toList_ofList]
  exact Percent.decode_encode_of_percent (by decide) (kept segment)

theorem plain?_slice (segment : String) :
    plain? (slice segment) = some segment ↔ ∀ c ∈ segment.toList, isDropped c = false := by
  rw [plain?_eq_some_iff, decode_slice, ← kept_eq_iff]
  exact ⟨utf8_injective, congrArg Utf8.encode⟩

theorem isSegment_empty : IsSegment "" where
  free := by simp
  notHere := by decide +kernel
  notUp := by decide +kernel

theorem isSegment_slice {segment : String} (notHere : isSingleDot (slice segment) = false)
    (notUp : isDoubleDot (slice segment) = false) : IsSegment (slice segment) where
  free := by
    rw [slice, String.toList_ofList]
    refine Percent.forall_mem_encode (fun c _ free => ?_) (by decide) (by decide)
    simp only [Percent.inSegment, Bool.or_eq_false_iff] at free
    refine ⟨free.1, ?_⟩
    rintro rfl
    cases free.2
  notHere := notHere
  notUp := notUp

/-- A segment that is pushed behind an empty path is there in its escaped form, unless that is taken
for a dot segment. -/
theorem push_eq_of_empty {url : Url} (empty : url.path = []) {segment : String}
    (single : segment ≠ ".") (double : segment ≠ "..") :
    url.push segment = { url with
      path := if isDoubleDot (slice segment) then [""] else if isSingleDot (slice segment) then [""]
        else [slice segment] } := by
  rw [push, if_neg (not_or.mpr ⟨single, double⟩), empty]
  rfl

/-- A segment with the same slice as a dot segment that it is not has lost something, so no empty
segment spells it. -/
theorem spelled_of_dots {segment : String} {name : List Char} (counts : name ≠ [])
    (differs : segment ≠ String.ofList name)
    (read : Percent.decode (slice segment).toList = Utf8.encode name) :
    plain? "" = some segment ↔ ∀ c ∈ segment.toList, isDropped c = false := by
  have same : kept segment = name := utf8_injective ((decode_slice segment).symm.trans read)
  constructor
  · intro empty
    have nothing : [] = segment.toList := utf8_injective (plain?_eq_some_iff.mp empty)
    refine absurd (same.symm.trans ?_) counts
    simp [kept, ← nothing]
  · intro undropped
    refine absurd ?_ differs
    rw [← same, kept_eq_iff.mpr undropped, String.ofList_toList]

/-- Behind an empty path, a segment is spelled exactly if it is none of the two dot segments and
nothing of it is dropped. -/
theorem push_of_empty {url : Url} (empty : url.path = []) (segment : String) :
    ∃ path, url.push segment = { url with path } ∧ (∀ part ∈ path, IsSegment part) ∧
      (path.map plain? = [some segment] ↔
        segment ≠ "." ∧ segment ≠ ".." ∧ ∀ c ∈ segment.toList, isDropped c = false) := by
  by_cases single : segment = "."
  · refine ⟨[], ?_, by simp, by simp [single]⟩
    rw [push, if_pos (.inl single), ← empty]
  by_cases double : segment = ".."
  · refine ⟨[], ?_, by simp, by simp [double]⟩
    rw [push, if_pos (.inr double), ← empty]
  have pushed := push_eq_of_empty empty single double
  -- what is left is one part, and whether that spells the segment
  suffices whole : ∃ part, url.push segment = { url with path := [part] } ∧ IsSegment part ∧
      (plain? part = some segment ↔ ∀ c ∈ segment.toList, isDropped c = false) by
    obtain ⟨part, pushed, isSegment, spelled⟩ := whole
    exact ⟨[part], pushed, by simpa using isSegment, by simp [spelled, single, double]⟩
  cases above : isDoubleDot (slice segment) with
  | true =>
      rw [above, if_pos rfl] at pushed
      exact ⟨"", pushed, isSegment_empty,
        spelled_of_dots (by simp) double (decode_of_isDoubleDot above)⟩
  | false =>
      cases here : isSingleDot (slice segment) with
      | true =>
          rw [above, here, if_neg (by simp), if_pos rfl] at pushed
          exact ⟨"", pushed, isSegment_empty,
            spelled_of_dots (by simp) single (decode_of_isSingleDot here)⟩
      | false =>
          rw [above, here, if_neg (by simp), if_neg (by simp)] at pushed
          exact ⟨slice segment, pushed, isSegment_slice here above, plain?_slice segment⟩

end Workflow.Url
