import Mathlib.Algebra.Group.Nat.Defs
import Workflow.Proofs.Except
import Workflow.Proofs.Text.Pieces
import Workflow.Url.Host

/-!
# Addresses of version six

An address has eight pieces of sixteen bits. In writing the longest run of zeros is left out, and
how many there were is known from what is left. So an address is read back from its writing; and
wherever one is read there is nothing but digits, colons and dots.

## Main definitions

* `Host.IsAddress pieces` — eight pieces of sixteen bits.
* `Host.isAddressSign c` — a character that an address may hold.
* `Host.of_address6?` — what is read, and what it is read from.
* `Host.address6?_coloned` — an address is read back from its writing.
-/

namespace Workflow.Host

/-- Eight pieces of sixteen bits. -/
structure IsAddress (pieces : List Nat) : Prop where
  eight : pieces.length = 8
  small : ∀ piece ∈ pieces, piece < 65536

/-- A character that an address may hold. -/
def isAddressSign (c : Char) : Bool := (Hex.value? c).isSome || c == ':' || c == '.'

theorem splitAt_eq_pieces (mark : Char) (cs : List Char) :
    splitAt mark cs = Text.pieces (· == mark) cs := by
  induction cs with
  | nil => rfl
  | cons c cs ih =>
      unfold splitAt at ih ⊢
      rw [List.foldr_cons, ih]
      cases pieces : Text.pieces (· == mark) cs with
      | nil => exact absurd pieces (Text.pieces_ne_nil _ cs)
      | cons piece rest => simp [Text.pieces, pieces]

/-- What holds of a mark and of all that stands between its occurrences holds of a text. -/
theorem forall_mem_of_splitAt {P : Char → Prop} {mark : Char} {cs : List Char} (cut : P mark)
    (each : ∀ piece ∈ splitAt mark cs, ∀ c ∈ piece, P c) : ∀ c ∈ cs, P c := by
  rw [splitAt_eq_pieces] at each
  rw [← Text.joinWith_pieces mark cs]
  exact Text.forall_mem_joinWith (by simpa using cut) each

/-! ## Numbers -/

/-- A number with one more digit. -/
def withDigit (base n : Nat) (c : Char) : Option Nat := do
  let d ← Hex.value? c
  if d < base then some (n * base + d) else none

theorem numberIn?_eq (base : Nat) (cs : List Char) :
    numberIn? base cs = cs.foldlM (withDigit base) 0 := rfl

/-- A number is made of digits, and their count bounds it. -/
theorem bounds_of_foldlM {base n m : Nat} {cs : List Char}
    (read : cs.foldlM (withDigit base) n = some m) :
    (∀ c ∈ cs, (Hex.value? c).isSome = true) ∧ m < (n + 1) * base ^ cs.length := by
  induction cs generalizing n with
  | nil =>
      cases read
      simp
  | cons c cs ih =>
      rw [List.foldlM_cons] at read
      obtain ⟨k, first, later⟩ := Option.bind_eq_some_iff.mp read
      obtain ⟨d, value, small⟩ := Option.bind_eq_some_iff.mp first
      split at small
      · cases small
        obtain ⟨rest, bound⟩ := ih later
        refine ⟨List.forall_mem_cons.mpr ⟨by simp [value], rest⟩, ?_⟩
        have grows : n * base + d + 1 ≤ (n + 1) * base := by
          rw [Nat.add_mul]
          omega
        calc m < (n * base + d + 1) * base ^ cs.length := bound
          _ ≤ (n + 1) * base * base ^ cs.length := Nat.mul_le_mul_right _ grows
          _ = (n + 1) * base ^ (c :: cs).length := by
            rw [List.length_cons, Nat.pow_succ, Nat.mul_assoc, Nat.mul_comm base]
      · cases small

theorem value?_digitChar : ∀ n < 16, Hex.value? (Nat.digitChar n) = some n := by decide

theorem numberIn?_toDigits (n : Nat) : numberIn? 16 (Nat.toDigits 16 n) = some n := by
  rw [numberIn?_eq]
  induction n using Nat.strongRecOn with
  | ind n ih =>
      by_cases small : n < 16
      · simp [Nat.toDigits_of_lt_base small, withDigit, value?_digitChar n small, small]
      · have front := ih (n / 16) (by omega)
        have last := value?_digitChar (n % 16) (by omega)
        have below : n % 16 < 16 := by omega
        rw [Nat.toDigits_of_base_le (by decide) (by omega), List.foldlM_append, front]
        simp only [Option.bind_eq_bind, Option.bind_some, List.foldlM_cons, List.foldlM_nil,
          withDigit, last, if_pos below]
        change some (n / 16 * 16 + n % 16) = some n
        rw [Nat.div_add_mod']

/-! ## What is read -/

/-- A piece in hexadecimal is made of digits, and has sixteen bits. -/
def piece? (text : List Char) : Option Nat :=
  if text.isEmpty || 4 < text.length then none else numberIn? 16 text

theorem of_piece? {text : List Char} {n : Nat} (read : piece? text = some n) :
    (∀ c ∈ text, isAddressSign c = true) ∧ n < 65536 := by
  unfold piece? at read
  split at read
  · cases read
  · rename_i size
    obtain ⟨digits, bound⟩ := bounds_of_foldlM read
    have short : text.length ≤ 4 := by
      simp only [Bool.or_eq_true, decide_eq_true_eq, not_or, Nat.not_lt] at size
      exact size.2
    have most : 16 ^ text.length ≤ 16 ^ 4 := Nat.pow_le_pow_right (by decide) short
    exact ⟨fun c member => by simp [isAddressSign, digits c member], by omega⟩

/-- A part of a dotted end is made of digits, and has eight bits. -/
def dottedPart? (part : List Char) : Option Nat :=
  if part.isEmpty || (part.length > 1 && part.head? == some '0') then none
  else (numberIn? 10 part).filter (· ≤ 255)

theorem of_dottedPart? {part : List Char} {n : Nat} (read : dottedPart? part = some n) :
    (∀ c ∈ part, isAddressSign c = true) ∧ n ≤ 255 := by
  unfold dottedPart? at read
  split at read
  · cases read
  · obtain ⟨number, small⟩ := Option.filter_eq_some_iff.mp read
    obtain ⟨digits, -⟩ := bounds_of_foldlM number
    exact ⟨fun c member => by simp [isAddressSign, digits c member], by simpa using small⟩

/-- The pieces in a part of an address have sixteen bits, and all its characters are signs. -/
theorem of_pieces6? {cs : List Char} {pieces : List Nat} (read : pieces6? cs = some pieces) :
    (∀ c ∈ cs, isAddressSign c = true) ∧ ∀ piece ∈ pieces, piece < 65536 := by
  unfold pieces6? at read
  split at read
  · rename_i empty
    cases read
    simp [List.isEmpty_iff.mp empty]
  dsimp only at read
  split at read
  · rename_i last ends
    obtain ⟨front, split⟩ := List.getLast?_eq_some_iff.mp ends
    split at read
    · obtain ⟨before, hexadecimal, read⟩ := Option.bind_eq_some_iff.mp read
      obtain ⟨parts, decimal, read⟩ := Option.bind_eq_some_iff.mp read
      rw [split, List.dropLast_concat] at hexadecimal
      obtain ⟨signs, small⟩ := forall_mem_of_mapM_eq_some (fun _ _ => of_piece?) hexadecimal
      obtain ⟨lastSigns, bytes⟩ := forall_mem_of_mapM_eq_some (fun _ _ => of_dottedPart?) decimal
      have lastSigns : ∀ c ∈ last, isAddressSign c = true :=
        forall_mem_of_splitAt (by decide) lastSigns
      split at read
      · cases read
        have whole : ∀ text ∈ splitAt ':' cs, ∀ c ∈ text, isAddressSign c = true := by
          rw [split]
          exact List.forall_mem_append.mpr ⟨signs, by simpa using lastSigns⟩
        refine ⟨forall_mem_of_splitAt (by decide) whole, List.forall_mem_append.mpr ⟨small, ?_⟩⟩
        simp only [List.forall_mem_cons, List.not_mem_nil, false_implies, implies_true,
          and_true] at bytes ⊢
        omega
      · cases read
    · obtain ⟨signs, small⟩ := forall_mem_of_mapM_eq_some (fun _ _ => of_piece?) read
      exact ⟨forall_mem_of_splitAt (by decide) signs, small⟩
  · cases read

theorem eq_of_splitColons {cs before after : List Char}
    (split : splitColons cs = some (before, after)) : cs = before ++ [':', ':'] ++ after := by
  fun_induction splitColons cs generalizing before with
  | case1 cs =>
      cases split
      rfl
  | case2 c cs _ ih =>
      obtain ⟨⟨front, back⟩, later, same⟩ := Option.map_eq_some_iff.mp split
      cases same
      rw [ih later]
      rfl
  | case3 => cases split

/-- What is read is an address, and nothing but digits, colons and dots stands where it was read. -/
theorem of_address6? {cs : List Char} {pieces : List Nat} (read : address6? cs = some pieces) :
    (∀ c ∈ cs, isAddressSign c = true) ∧ IsAddress pieces := by
  unfold address6? at read
  split at read
  · obtain ⟨all, whole, read⟩ := Option.bind_eq_some_iff.mp read
    obtain ⟨signs, small⟩ := of_pieces6? whole
    split at read
    · rename_i eight
      cases read
      exact ⟨signs, eight, small⟩
    · cases read
  · rename_i before after split
    split at read
    · cases read
    obtain ⟨front, first, read⟩ := Option.bind_eq_some_iff.mp read
    obtain ⟨back, second, read⟩ := Option.bind_eq_some_iff.mp read
    obtain ⟨signs, small⟩ := of_pieces6? first
    obtain ⟨signs', small'⟩ := of_pieces6? second
    dsimp only at read
    split at read
    · cases read
    · rename_i few
      cases read
      have colons : ∀ c ∈ [':', ':'], isAddressSign c = true := Text.forall_mem_of_all (by decide)
      refine ⟨?_, ?_, ?_⟩
      · rw [eq_of_splitColons split]
        exact List.forall_mem_append.mpr ⟨List.forall_mem_append.mpr ⟨signs, colons⟩, signs'⟩
      · simp only [List.length_append, List.length_replicate]
        omega
      · have zeros : ∀ piece ∈ List.replicate (8 - (front.length + back.length)) 0,
            piece < 65536 := by
          intro piece member
          rw [List.eq_of_mem_replicate member]
          decide
        exact List.forall_mem_append.mpr ⟨List.forall_mem_append.mpr ⟨small, zeros⟩, small'⟩

/-! ## What is written -/

/-- Pieces in hexadecimal, with colons between them. -/
def colonText (pieces : List Nat) : List Char :=
  Text.joinWith [':'] (pieces.map (Nat.toDigits 16))

theorem intercalate_eq_joinWith (sep : List Char) (ts : List (List Char)) :
    sep.intercalate ts = Text.joinWith sep ts := by
  induction ts with
  | nil => rfl
  | cons t ts ih =>
      cases ts with
      | nil => simp [Text.joinWith]
      | cons u us =>
          rw [List.intercalate_cons_cons, ih]
          rfl

theorem toList_intercalate_colon (pieces : List Nat) :
    (":".intercalate (pieces.map fun n => String.ofList (Nat.toDigits 16 n))).toList =
      colonText pieces := by
  rw [String.toList_intercalate, intercalate_eq_joinWith, colonText, List.map_map]
  congr 2
  funext n
  simp

theorem digits_toDigits (n : Nat) : ∀ c ∈ Nat.toDigits 16 n, (Hex.value? c).isSome = true :=
  (bounds_of_foldlM (numberIn?_toDigits n)).1

theorem ne_of_digit {c : Char} (digit : (Hex.value? c).isSome = true) : c ≠ ':' ∧ c ≠ '.' := by
  constructor <;> (rintro rfl; exact absurd digit (by decide))

theorem digits_colonText (pieces : List Nat) :
    ∀ c ∈ colonText pieces, c = ':' ∨ (Hex.value? c).isSome = true := by
  refine Text.forall_mem_joinWith (by simp) fun text member c inside => .inr ?_
  obtain ⟨n, -, rfl⟩ := List.mem_map.mp member
  exact digits_toDigits n c inside

theorem no_dot_colonText (pieces : List Nat) : (colonText pieces).contains '.' = false := by
  rw [List.contains_eq_mem, decide_eq_false_iff_not]
  intro member
  rcases digits_colonText pieces '.' member with colon | digit
  · cases colon
  · exact absurd digit (by decide)

theorem piece?_toDigits {n : Nat} (small : n < 65536) : piece? (Nat.toDigits 16 n) = some n := by
  have short : (Nat.toDigits 16 n).length ≤ 4 :=
    (Nat.length_toDigits_le_iff (by decide) (by decide)).mpr small
  have some : (Nat.toDigits 16 n).isEmpty = false := by simp
  simp [piece?, some, numberIn?_toDigits, Nat.not_lt.mpr short]

theorem pieces6?_colonText {pieces : List Nat} (small : ∀ piece ∈ pieces, piece < 65536) :
    pieces6? (colonText pieces) = some pieces := by
  cases pieces with
  | nil => rfl
  | cons n rest =>
      have cut : splitAt ':' (colonText (n :: rest)) = (n :: rest).map (Nat.toDigits 16) := by
        rw [splitAt_eq_pieces, colonText]
        refine Text.pieces_joinWith (by simp) fun text member colon => ?_
        obtain ⟨k, -, rfl⟩ := List.mem_map.mp member
        exact (ne_of_digit (digits_toDigits k ':' colon)).1 rfl
      have filled : (colonText (n :: rest)).isEmpty = false := by
        cases empty : (colonText (n :: rest)).isEmpty with
        | false => rfl
        | true =>
            rw [List.isEmpty_iff.mp empty] at cut
            have first := (List.cons.inj cut).1
            exact absurd first.symm Nat.toDigits_ne_nil
      have read : ((n :: rest).map (Nat.toDigits 16)).mapM piece? = some (n :: rest) := by
        refine mapM_eq_some_of_forall₂ (List.forall₂_map_left_iff.mpr ?_)
        exact List.forall₂_same.mpr fun piece member => piece?_toDigits (small piece member)
      obtain ⟨last, ends⟩ : ∃ last, (n :: rest).getLast? = some last :=
        ⟨_, List.getLast?_eq_some_getLast (by simp)⟩
      have bare : (Nat.toDigits 16 last).contains '.' = false := by
        rw [List.contains_eq_mem, decide_eq_false_iff_not]
        exact fun dot => (ne_of_digit (digits_toDigits last '.' dot)).2 rfl
      unfold pieces6?
      rw [filled, if_neg (by simp)]
      simp only [cut, List.getLast?_map, ends, Option.map_some, bare, Bool.false_eq_true, if_false]
      exact read

/-! ## The pair of colons -/

theorem splitColons_append {text : List Char} (bare : ':' ∉ text) (rest : List Char) :
    splitColons (text ++ rest) =
      (splitColons rest).map fun (before, after) => (text ++ before, after) := by
  induction text with
  | nil => simp
  | cons c text ih =>
      obtain ⟨colon, bare⟩ := not_or.mp (List.mem_cons.not.mp bare)
      rw [List.cons_append, splitColons, ih bare, Option.map_map]
      · rfl
      · rintro later rfl
        exact absurd rfl colon

/-- There is no pair of colons in pieces with colons between them, nor at their end. -/
theorem splitColons_colonText (pieces : List Nat) (rest : List Char) :
    splitColons (colonText pieces ++ rest) =
      (splitColons rest).map fun (before, after) => (colonText pieces ++ before, after) := by
  have bare : ∀ n, ':' ∉ Nat.toDigits 16 n := fun n colon =>
    (ne_of_digit (digits_toDigits n ':' colon)).1 rfl
  induction pieces with
  | nil => simp [colonText, Text.joinWith]
  | cons n pieces ih =>
      cases pieces with
      | nil => exact splitColons_append (bare n) rest
      | cons m pieces =>
          have whole : colonText (n :: m :: pieces) =
              Nat.toDigits 16 n ++ ':' :: colonText (m :: pieces) := by
            simp [colonText, Text.joinWith]
          -- the colon behind a piece is followed by a digit
          have single : splitColons (':' :: (colonText (m :: pieces) ++ rest)) =
              (splitColons (colonText (m :: pieces) ++ rest)).map
                fun (before, after) => (':' :: before, after) := by
            refine splitColons.eq_2 ':' _ fun later _ same => ?_
            obtain ⟨d, ds, digits⟩ :=
              List.exists_cons_of_ne_nil (Nat.toDigits_ne_nil (b := 16) (n := m))
            have colon : d ≠ ':' := fun same => bare m (by simp [digits, same])
            refine colon ?_
            cases pieces <;> simp_all [colonText, Text.joinWith]
          rw [whole, List.append_assoc, splitColons_append (bare n), List.cons_append, single, ih,
            Option.map_map, Option.map_map]
          simp [Function.comp_def]

/-! ## Runs of zeros -/

theorem drop_of_zeroRuns {pieces : List Nat} {i k : Nat} (run : (zeroRuns pieces)[i]? = some k) :
    pieces.drop i = List.replicate k 0 ++ pieces.drop (i + k) := by
  induction pieces generalizing i k with
  | nil => simp [zeroRuns] at run
  | cons n rest ih =>
      cases i with
      | succ i =>
          have later := ih (by simpa [zeroRuns] using run)
          rw [List.drop_succ_cons, later, Nat.add_right_comm, List.drop_succ_cons]
      | zero =>
          simp only [zeroRuns, List.getElem?_cons_zero, Option.some.injEq] at run
          split at run
          · rename_i zero
            subst run zero
            cases rest with
            | nil => rfl
            | cons m rest =>
                have later := ih (i := 0) (k := (zeroRuns (m :: rest)).headD 0) rfl
                simp only [List.drop_zero, Nat.zero_add] at later ⊢
                rw [Nat.add_comm 1, List.drop_succ_cons, List.replicate_succ, List.cons_append,
                  ← later]
          · subst run
            simp

/-- Pieces are written one by one, or what is before and behind a run of zeros is. -/
theorem coloned_cases (pieces : List Nat) :
    (coloned pieces).toList = colonText pieces ∨
      ∃ front zeros back, 2 ≤ zeros ∧ pieces = front ++ List.replicate zeros 0 ++ back ∧
        (coloned pieces).toList = colonText front ++ ':' :: ':' :: colonText back := by
  let hex (n : Nat) : String := String.ofList (Nat.toDigits 16 n)
  let runs := zeroRuns pieces
  let longest := runs.foldl max 0
  by_cases few : longest < 2
  · left
    rw [← toList_intercalate_colon]
    exact congrArg String.toList (if_pos few)
  · right
    let start := runs.findIdx (· = longest)
    let front := pieces.take start
    let back := pieces.drop (start + longest)
    have found : (0 :: runs).max? = some longest := rfl
    have member : longest ∈ runs := by
      rcases List.mem_cons.mp (List.max?_mem found) with none | member
      · exact absurd (show longest = 0 from none) (by omega)
      · exact member
    have inside : start < runs.length :=
      List.findIdx_lt_length_of_exists ⟨longest, member, by simp⟩
    have found : runs[start]? = some longest := by
      rw [List.getElem?_eq_getElem inside]
      simpa using List.findIdx_getElem (w := inside)
    refine ⟨front, longest, back, by omega, ?_, ?_⟩
    · rw [List.append_assoc, ← drop_of_zeroRuns found, List.take_append_drop]
    · have chosen : coloned pieces =
          ":".intercalate (front.map hex) ++ "::" ++ ":".intercalate (back.map hex) := if_neg few
      have pair : "::".toList = [':', ':'] := rfl
      rw [chosen, String.toList_append, String.toList_append, pair, toList_intercalate_colon,
        toList_intercalate_colon]
      simp

/-- An address is read back from its writing. -/
theorem address6?_coloned {pieces : List Nat} (address : IsAddress pieces) :
    address6? (coloned pieces).toList = some pieces := by
  rcases coloned_cases pieces with written | ⟨front, zeros, back, two, parts, written⟩
  · have whole : splitColons (colonText pieces) = none := by
      simpa [splitColons] using splitColons_colonText pieces []
    rw [written, address6?, whole]
    simp only [pieces6?_colonText address.small, bind, Option.bind_some]
    exact if_pos address.eight
  · have cut : splitColons (colonText front ++ ':' :: ':' :: colonText back) =
        some (colonText front, colonText back) := by
      rw [splitColons_colonText, splitColons]
      simp
    have eight := address.eight
    have small := address.small
    rw [parts] at small
    simp only [parts, List.length_append, List.length_replicate] at eight
    have smallFront : ∀ piece ∈ front, piece < 65536 :=
      fun piece member => small piece (by simp [member])
    have smallBack : ∀ piece ∈ back, piece < 65536 :=
      fun piece member => small piece (by simp [member])
    have left : 8 - (front.length + back.length) = zeros := by omega
    rw [written, address6?, cut]
    simp only [no_dot_colonText, pieces6?_colonText smallFront, pieces6?_colonText smallBack, bind,
      Option.bind_some, Bool.false_eq_true, if_false, left]
    rw [if_neg (by omega), ← parts]

end Workflow.Host
