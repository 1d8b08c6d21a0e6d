import Workflow.Proofs.Text.Pieces
import Workflow.Url.Percent

/-!
# What escapes give back

Escapes stand for bytes. A text comes back from its escaped form whole if the percent sign is
escaped too. Where it is not, escapes that the text had from the start are resolved with the others,
and the text comes back exactly if it had none.

## Main definitions

* `Percent.hasEscape` — a text has a percent sign with two hexadecimal digits behind it.
* `Percent.decode_encode` — sets without the percent sign: escaped or not, a text reads the same.
* `Percent.decode_encode_of_percent` — sets with it: a text comes back.
* `Percent.decode_eq_iff` — which texts stand for themselves.
-/

namespace Workflow.Percent

/-- The byte that two digits at the start of a text spell, and the text behind them. -/
def byte? : List Char → Option (UInt8 × List Char)
  | a :: b :: cs =>
    match Hex.value? a, Hex.value? b with
    | some x, some y => some (UInt8.ofNat (16 * x + y), cs)
    | _, _ => none
  | _ => none

/-- A percent sign stands in a text with two hexadecimal digits behind it. -/
def hasEscape : List Char → Bool
  | [] => false
  | c :: cs => (c == '%' && (byte? cs).isSome) || hasEscape cs

/-! ## Reading -/

@[simp] theorem decode_nil : decode [] = [] := rfl

/-- A percent sign is read with the digits behind it, or else stands for itself. -/
theorem decode_percent (cs : List Char) :
    decode ('%' :: cs) =
      match byte? cs with
      | some (byte, rest) => byte :: decode rest
      | none => String.utf8EncodeChar '%' ++ decode cs := by
  match cs with
  | [] => rfl
  | [c] => rfl
  | a :: b :: cs =>
      simp only [decode, decodeExcept, byte?]
      split <;> simp_all

/-- Any other character stands for itself. -/
theorem decode_cons {c : Char} (plain : c ≠ '%') (cs : List Char) :
    decode (c :: cs) = String.utf8EncodeChar c ++ decode cs := by
  unfold decode
  rw [decodeExcept]
  simp [plain]

theorem byte?_of_not_digit {a : Char} (other : Hex.value? a = none) (cs : List Char) :
    byte? (a :: cs) = none := by
  cases cs <;> simp [byte?, other]

theorem eq_cons_cons_of_byte? {cs rest : List Char} {byte : UInt8}
    (read : byte? cs = some (byte, rest)) : ∃ a b, cs = a :: b :: rest := by
  match cs with
  | [] => cases read
  | [c] => cases read
  | a :: b :: cs =>
      simp only [byte?] at read
      split at read
      · cases read
        exact ⟨a, b, rfl⟩
      · cases read

/-! ## Reading what was escaped -/

theorem value?_hexDigit : ∀ n < 16, Hex.value? (hexDigit n) = some n := by decide

/-- An escaped byte reads as that byte. -/
theorem decode_escapeByte (b : UInt8) (cs : List Char) :
    decode (escapeByte b ++ cs) = b :: decode cs := by
  have high : Hex.value? (hexDigit (b.toNat / 16)) = some (b.toNat / 16) :=
    value?_hexDigit _ (by have := b.toNat_lt; omega)
  have low : Hex.value? (hexDigit (b.toNat % 16)) = some (b.toNat % 16) :=
    value?_hexDigit _ (by omega)
  have whole : 16 * (b.toNat / 16) + b.toNat % 16 = b.toNat := by omega
  simp only [escapeByte, List.cons_append, List.nil_append, decode_percent, byte?, high, low, whole,
    UInt8.ofNat_toNat]

theorem decode_flatMap_escapeByte (bytes : List UInt8) (cs : List Char) :
    decode (bytes.flatMap escapeByte ++ cs) = bytes ++ decode cs := by
  induction bytes with
  | nil => rfl
  | cons b bytes ih => simp [decode_escapeByte, ih]

/-- An escaped character reads as that character. -/
theorem decode_escapeChar (c : Char) (cs : List Char) :
    decode (escapeChar c ++ cs) = String.utf8EncodeChar c ++ decode cs :=
  decode_flatMap_escapeByte _ cs

theorem encode_cons (isEscaped : Char → Bool) (c : Char) (cs : List Char) :
    encode isEscaped (c :: cs) =
      (if isEscaped c then escapeChar c else [c]) ++ encode isEscaped cs := rfl

theorem encode_append (isEscaped : Char → Bool) (front back : List Char) :
    encode isEscaped (front ++ back) = encode isEscaped front ++ encode isEscaped back :=
  List.flatMap_append

theorem utf8_cons (c : Char) (cs : List Char) :
    Utf8.encode (c :: cs) = String.utf8EncodeChar c ++ Utf8.encode cs := rfl

/-- A text whose percent signs are escaped comes back whole. -/
theorem decode_encode_of_percent {isEscaped : Char → Bool} (percent : isEscaped '%' = true)
    (cs : List Char) : decode (encode isEscaped cs) = Utf8.encode cs := by
  induction cs with
  | nil => rfl
  | cons c cs ih =>
      rw [encode_cons, utf8_cons]
      by_cases escaped : isEscaped c = true
      · rw [if_pos escaped, decode_escapeChar, ih]
      · have plain : c ≠ '%' := by
          rintro rfl
          exact escaped percent
        rw [if_neg escaped, List.singleton_append, decode_cons plain, ih]

/-- Escapes begin with a percent sign. -/
theorem escapeChar_eq_cons (c : Char) : ∃ rest, escapeChar c = '%' :: rest := by
  have coded : String.utf8EncodeChar c ≠ [] := String.utf8EncodeChar_ne_nil
  unfold escapeChar
  cases bytes : String.utf8EncodeChar c with
  | nil => exact absurd bytes coded
  | cons b bytes => exact ⟨_, rfl⟩

section
variable {isEscaped : Char → Bool}
  (digits : ∀ c, (Hex.value? c).isSome = true → isEscaped c = false)
include digits

theorem encode_cons_of_digit {c : Char} (digit : (Hex.value? c).isSome = true) (cs : List Char) :
    encode isEscaped (c :: cs) = c :: encode isEscaped cs := by
  simp [encode_cons, digits c digit]

omit digits in
variable (isEscaped) in
/-- Whether it is escaped or not, what is no digit does not begin with one. -/
theorem encode_cons_of_not_digit {c : Char} (other : Hex.value? c = none) (cs : List Char) :
    ∃ d rest, encode isEscaped (c :: cs) = d :: rest ∧ Hex.value? d = none := by
  rw [encode_cons]
  by_cases escaped : isEscaped c = true
  · obtain ⟨rest, starts⟩ := escapeChar_eq_cons c
    rw [if_pos escaped, starts]
    exact ⟨'%', _, rfl, by decide⟩
  · rw [if_neg escaped]
    exact ⟨c, _, rfl, other⟩

/-- Where digits are left as they are, so is what two of them at the start spell. -/
theorem byte?_encode (cs : List Char) :
    byte? (encode isEscaped cs) =
      (byte? cs).map fun (byte, rest) => (byte, encode isEscaped rest) := by
  match cs with
  | [] => rfl
  | a :: cs =>
      cases high : Hex.value? a with
      | none =>
          obtain ⟨d, rest, starts, other⟩ := encode_cons_of_not_digit isEscaped high cs
          rw [starts, byte?_of_not_digit other, byte?_of_not_digit high]
          rfl
      | some x =>
          rw [encode_cons_of_digit digits (by rw [high]; rfl)]
          match cs with
          | [] => rfl
          | b :: cs =>
              cases low : Hex.value? b with
              | none =>
                  obtain ⟨d, rest, starts, other⟩ := encode_cons_of_not_digit isEscaped low cs
                  simp [starts, byte?, high, low, other]
              | some y =>
                  rw [encode_cons_of_digit digits (by rw [low]; rfl)]
                  simp [byte?, high, low]

/-- Where percent signs and digits are left as they are, a text reads the same whether it has been
escaped or not: its own escapes are resolved with the others. -/
theorem decode_encode (percent : isEscaped '%' = false) (cs : List Char) :
    decode (encode isEscaped cs) = decode cs := by
  -- an escape is read as a whole, so the induction is on the length
  induction n : cs.length using Nat.strongRecOn generalizing cs with
  | ind n ih =>
      match cs with
      | [] => rfl
      | c :: cs =>
          have later : decode (encode isEscaped cs) = decode cs :=
            ih cs.length (by rw [← n]; simp) cs rfl
          by_cases sign : c = '%'
          · subst sign
            have kept : encode isEscaped ('%' :: cs) = '%' :: encode isEscaped cs := by
              simp [encode_cons, percent]
            rw [kept, decode_percent, decode_percent, byte?_encode digits]
            cases read : byte? cs with
            | none => simp [later]
            | some found =>
                obtain ⟨byte, rest⟩ := found
                obtain ⟨a, b, rfl⟩ := eq_cons_cons_of_byte? read
                simp [ih rest.length (by rw [← n]; simp; omega) rest rfl]
          · rw [decode_cons sign, encode_cons, ← later]
            by_cases escaped : isEscaped c = true
            · rw [if_pos escaped, decode_escapeChar]
            · rw [if_neg escaped, List.singleton_append, decode_cons sign]

end

/-! ## The characters of an escaped text -/

/-- What is escaped becomes percent signs and digits, and the rest stays. -/
theorem forall_mem_encode {P : Char → Prop} {isEscaped : Char → Bool} {cs : List Char}
    (kept : ∀ c ∈ cs, isEscaped c = false → P c) (percent : P '%')
    (digits : ∀ n < 16, P (hexDigit n)) : ∀ c ∈ encode isEscaped cs, P c := by
  intro c member
  obtain ⟨d, inside, member⟩ := List.mem_flatMap.mp member
  by_cases escaped : isEscaped d = true
  · rw [if_pos escaped] at member
    obtain ⟨b, -, member⟩ := List.mem_flatMap.mp member
    have small := b.toNat_lt
    simp only [escapeByte, List.mem_cons, List.not_mem_nil, or_false] at member
    rcases member with rfl | rfl | rfl
    · exact percent
    · exact digits _ (by omega)
    · exact digits _ (by omega)
  · rw [if_neg escaped, List.mem_singleton] at member
    subst member
    exact kept c inside (Bool.eq_false_iff.mpr escaped)

/-- A text without characters to escape is left as it is. -/
theorem encode_eq_self {isEscaped : Char → Bool} {cs : List Char}
    (free : ∀ c ∈ cs, isEscaped c = false) : encode isEscaped cs = cs := by
  induction cs with
  | nil => rfl
  | cons c cs ih =>
      obtain ⟨first, later⟩ := List.forall_mem_cons.mp free
      rw [encode_cons, if_neg (by simp [first]), ih later, List.singleton_append]

theorem encode_eq_nil_iff {isEscaped : Char → Bool} {cs : List Char} :
    encode isEscaped cs = [] ↔ cs = [] := by
  cases cs with
  | nil => simp [encode]
  | cons c cs =>
      rw [encode_cons]
      obtain ⟨rest, escape⟩ := escapeChar_eq_cons c
      split <;> simp [escape]

/-! ## Texts that stand for themselves -/

theorem one_le_length_utf8EncodeChar (c : Char) : 1 ≤ (String.utf8EncodeChar c).length :=
  List.length_pos_iff.mpr String.utf8EncodeChar_ne_nil

/-- A text at whose start no escape stands is read character by character there. -/
theorem decode_cons_of_no_escape {c : Char} {cs : List Char}
    (none : (c == '%' && (byte? cs).isSome) = false) :
    decode (c :: cs) = String.utf8EncodeChar c ++ decode cs := by
  by_cases sign : c = '%'
  · subst sign
    cases read : byte? cs with
    | none => rw [decode_percent, read]
    | some found => simp [read] at none
  · exact decode_cons sign cs

/-- At an escape, three characters are read as one byte. -/
theorem decode_cons_of_escape {c : Char} {cs : List Char}
    (escape : (c == '%' && (byte? cs).isSome) = true) :
    ∃ a b byte rest, c = '%' ∧ cs = a :: b :: rest ∧ decode (c :: cs) = byte :: decode rest := by
  obtain ⟨sign, some⟩ := (Bool.and_eq_true _ _).mp escape
  obtain ⟨⟨byte, rest⟩, read⟩ := Option.isSome_iff_exists.mp some
  obtain ⟨a, b, rfl⟩ := eq_cons_cons_of_byte? read
  obtain rfl := beq_iff_eq.mp sign
  exact ⟨a, b, byte, rest, rfl, rfl, by rw [decode_percent, read]⟩

/-- A text is read as no more bytes than it has, and as fewer if there is an escape in it. -/
theorem length_decode_le (cs : List Char) :
    (decode cs).length + (if hasEscape cs then 1 else 0) ≤ (Utf8.encode cs).length := by
  -- an escape makes one byte out of at least three, so the induction is on the length again
  induction n : cs.length using Nat.strongRecOn generalizing cs with
  | ind n ih =>
      match cs with
      | [] => exact Nat.le_refl 0
      | c :: cs =>
          rw [utf8_cons, List.length_append]
          by_cases escape : (c == '%' && (byte? cs).isSome) = true
          · obtain ⟨a, b, byte, rest, -, rfl, read⟩ := decode_cons_of_escape escape
            have later := ih rest.length (by rw [← n]; simp; omega) rest rfl
            have first := one_le_length_utf8EncodeChar c
            have second := one_le_length_utf8EncodeChar a
            have third := one_le_length_utf8EncodeChar b
            rw [read]
            simp only [utf8_cons, List.length_append, List.length_cons]
            split <;> omega
          · rw [Bool.not_eq_true] at escape
            have later := ih cs.length (by rw [← n]; simp) cs rfl
            rw [decode_cons_of_no_escape escape, List.length_append, hasEscape, escape,
              Bool.false_or]
            omega

/-- Exactly the texts without an escape stand for themselves. -/
theorem decode_eq_iff (cs : List Char) : decode cs = Utf8.encode cs ↔ hasEscape cs = false := by
  constructor
  · intro same
    have shorter := length_decode_le cs
    rw [same] at shorter
    cases escape : hasEscape cs with
    | false => rfl
    | true =>
        rw [escape, if_pos rfl] at shorter
        omega
  · intro none
    induction cs with
    | nil => rfl
    | cons c cs ih =>
        obtain ⟨here, later⟩ := Bool.or_eq_false_iff.mp none
        rw [decode_cons_of_no_escape here, ih later, utf8_cons]

/-! ## Parts of a URL -/

theorem oneOf_eq_true_iff {set : String} {c : Char} : oneOf set c = true ↔ c ∈ set.toList := by
  simp [oneOf]

theorem toNat_bounds_of_digit {c : Char} (digit : (Hex.value? c).isSome = true) :
    0x30 ≤ c.toNat ∧ c.toNat ≤ 0x66 := by
  unfold Hex.value? at digit
  split at digit
  · rename_i decimal
    have : 0x30 ≤ c.toNat ∧ c.toNat ≤ 0x39 := Char.isDigit_iff_toNat.mp decimal
    omega
  · split at digit
    · rename_i lower
      have : 0x61 ≤ c.toNat ∧ c.toNat ≤ 0x66 := by
        simpa [Char.le_def, UInt32.le_iff_toNat_le] using lower
      omega
    · split at digit
      · rename_i upper
        have : 0x41 ≤ c.toNat ∧ c.toNat ≤ 0x46 := by
          simpa [Char.le_def, UInt32.le_iff_toNat_le] using upper
        omega
      · cases digit

/-- The characters that a user name may not hold, controls and what is not ASCII aside. -/
def barredInUserinfo : String := " \"<>\x60#?\x7b\x7d/:;=@[\\]^|"

/-- Hexadecimal digits stand in a user name as they are. -/
theorem inUserinfo_of_digit {c : Char} (digit : (Hex.value? c).isSome = true) :
    inUserinfo c = false := by
  have barred : ∀ c ∈ barredInUserinfo.toList, Hex.value? c = none :=
    Text.forall_mem_of_all (by decide)
  have free : ∀ set : String, set.toList ⊆ barredInUserinfo.toList → oneOf set c = false := by
    intro set within
    cases member : oneOf set c with
    | false => rfl
    | true =>
        rw [barred c (within (oneOf_eq_true_iff.mp member))] at digit
        cases digit
  obtain ⟨least, most⟩ := toNat_bounds_of_digit digit
  have control : inControls c = false := by
    simp only [inControls, Bool.or_eq_false_iff, decide_eq_false_iff_not]
    omega
  simp only [inUserinfo, inPath, inFragment, control, Bool.false_or, Bool.or_eq_false_iff]
  exact ⟨⟨free _ (by decide), free _ (by decide)⟩, free _ (by decide)⟩

/-- The bytes of a text are read as that text, and no others are. -/
theorem fromUTF8?_eq_some_iff {bytes : List UInt8} {s : String} :
    String.fromUTF8? ⟨bytes.toArray⟩ = some s ↔ bytes = Utf8.encode s.toList := by
  have coded : s.toByteArray = ⟨(Utf8.encode s.toList).toArray⟩ := by
    conv => lhs; rw [← String.ofList_toList (s := s)]
    rw [String.toByteArray_ofList, ← List.data_toByteArray]
    rfl
  unfold String.fromUTF8?
  constructor
  · intro read
    split at read
    · rename_i valid
      have same : (⟨bytes.toArray⟩ : ByteArray) = s.toByteArray := by
        cases read
        rfl
      rw [coded, ByteArray.mk.injEq] at same
      simpa using same
    · cases read
  · rintro rfl
    rw [← coded, dif_pos s.isValidUTF8]
    rfl

end Workflow.Percent
