import Workflow.Proofs.Json.Numerals

/-!
# Lists between commas

Items of an array, and members of an object, stand between commas, with space on either side or
none. Whatever it is that spells an item: if that is read, so is the list up to its closing bracket,
and if items are only read where they have been spelled, then so are lists.

## Main definitions

* `Json.Reader.Reads item a text` — a text is read, whatever stands behind it.
* `Json.Reader.Complete`, `Json.Reader.Sound` — what is spelled is read, and what is read has been
  spelled.
* `Json.Reader.Enclosed spells close as text` — items, the commas between, and what closes the list.
* `Json.Reader.listRest_of_enclosed`, `Json.Reader.enclosed_of_listRest` — reading a list.
-/

namespace Workflow.Json.Reader

variable {α : Type} {item : List Char → Option (α × List Char)} {a : α} {as : List α}
  {space text rest cs : List Char} {close : Char} {spells : α → List Char → Prop}

/-- The text is read, whatever stands behind it, perhaps with space in front. -/
def Reads (item : List Char → Option (α × List Char)) (a : α) (text : List Char) : Prop :=
  ∀ rest, EndsToken rest → item (skipSpace (text ++ rest)) = some (a, rest)

/-- What is spelled is read. -/
def Complete (item : List Char → Option (α × List Char)) (spells : α → List Char → Prop) : Prop :=
  ∀ a text, spells a text → Reads item a text

/-- What is read has been spelled. -/
def Sound (item : List Char → Option (α × List Char)) (spells : α → List Char → Prop) : Prop :=
  ∀ cs a rest, item cs = some (a, rest) → ∃ text, cs = text ++ rest ∧ spells a text

/-! ## Space -/

/-- Nothing but space. -/
def IsBlank (space : List Char) : Prop := ∀ c ∈ space, isSpace c = true

theorem isBlank_nil : IsBlank [] := by simp [IsBlank]

theorem IsBlank.append {more : List Char} (isBlank : IsBlank space) (isBlank' : IsBlank more) :
    IsBlank (space ++ more) := List.forall_mem_append.mpr ⟨isBlank, isBlank'⟩

theorem skipSpace_append (isBlank : IsBlank space) (cs : List Char) :
    skipSpace (space ++ cs) = skipSpace cs :=
  List.dropWhile_append_of_pos isBlank

theorem skipSpace_of_visible {c : Char} (visible : isSpace c = false) (cs : List Char) :
    skipSpace (c :: cs) = c :: cs := by
  simp [skipSpace, visible]

theorem skipSpace_skipSpace (cs : List Char) : skipSpace (skipSpace cs) = skipSpace cs := by
  induction cs with
  | nil => rfl
  | cons c cs ih =>
      by_cases blank : isSpace c = true
      · simpa [skipSpace, blank] using ih
      · simp [skipSpace, blank]

/-- What is skipped is space. -/
theorem exists_eq_append_skipSpace (cs : List Char) :
    ∃ space, IsBlank space ∧ cs = space ++ skipSpace cs :=
  ⟨cs.takeWhile isSpace, fun _ => List.mem_takeWhile_imp, List.takeWhile_append_dropWhile.symm⟩

theorem Reads.behind (reads : Reads item a text) (isBlank : IsBlank space) :
    Reads item a (space ++ text) := by
  intro rest ends
  rw [List.append_assoc, skipSpace_append isBlank]
  exact reads rest ends

theorem length_lt_skipSpace {c : Char} (visible : isSpace c = false) (front back : List Char) :
    back.length < (skipSpace (front ++ c :: back)).length := by
  induction front with
  | nil => simp [skipSpace, visible]
  | cons d front ih =>
      by_cases blank : isSpace d = true
      · simpa [skipSpace, blank] using ih
      · simp [skipSpace, blank]
        omega

theorem IsBlank.endsToken (isBlank : IsBlank space) (ends : EndsToken rest) :
    EndsToken (space ++ rest) := by
  cases space with
  | nil => exact ends
  | cons c cs =>
      have blank := isBlank c List.mem_cons_self
      simp only [isSpace, Bool.or_eq_true, beq_iff_eq] at blank
      rw [List.cons_append, endsToken_cons]
      rcases blank with ((rfl | rfl) | rfl) | rfl <;> decide

/-! ## Lists -/

/-- Items between commas, each with space on either side or none. -/
inductive Separated (spells : α → List Char → Prop) : List α → List Char → Prop
  | last {a : α} {before text behind : List Char} (isBlank : IsBlank before)
      (spelled : spells a text) (isBlank' : IsBlank behind) :
      Separated spells [a] (before ++ (text ++ behind))
  | more {a : α} {as : List α} {before text behind rest : List Char} (isBlank : IsBlank before)
      (spelled : spells a text) (isBlank' : IsBlank behind) (later : Separated spells as rest) :
      Separated spells (a :: as) (before ++ (text ++ (behind ++ ',' :: rest)))

/-- The items of a list, perhaps none, and what closes it. -/
inductive Enclosed (spells : α → List Char → Prop) (close : Char) : List α → List Char → Prop
  | none {space : List Char} (isBlank : IsBlank space) : Enclosed spells close [] (space ++ [close])
  | some {as : List α} {text : List Char} (separated : Separated spells as text) :
      Enclosed spells close as (text ++ [close])

/-- A bracket or a brace that closes. -/
def IsClose (close : Char) : Prop := close = ']' ∨ close = '\x7d'

theorem IsClose.visible (isClose : IsClose close) : isSpace close = false := by
  rcases isClose with rfl | rfl <;> decide

theorem IsClose.ne_comma (isClose : IsClose close) : close ≠ ',' := by
  rcases isClose with rfl | rfl <;> decide

theorem IsClose.endsToken (isClose : IsClose close) (rest : List Char) :
    EndsToken (close :: rest) := by
  rw [endsToken_cons]
  rcases isClose with rfl | rfl <;> decide

/-- No value starts with what closes a list. -/
theorem valueWith_close (object : List (String × Json) → Json) (isClose : IsClose close) (d : Nat)
    (cs : List Char) : valueWith object d (close :: cs) = none := by
  rcases isClose with rfl | rfl <;> cases d <;>
    simp [valueWith, plain, NumberLiteral.read, NumberLiteral.readMinus]

theorem member_close (content : String → List Char → Option (α × List Char)) (cs : List Char) :
    member string content ('\x7d' :: cs) = none := by
  simp [member, string]

theorem isSpace_comma : isSpace ',' = false := by decide

theorem listed_skipSpace (close : Char) (item : List Char → Option (α × List Char)) (fuel : Nat)
    (cs : List Char) : listed close item fuel (skipSpace cs) = listed close item fuel cs := by
  cases fuel with
  | zero => rfl
  | succ fuel => simp only [listed, skipSpace_skipSpace]

/-! ### What is spelled is read -/

/-- Items between commas are read one after another. -/
theorem listed_of_separated (isClose : IsClose close) (complete : Complete item spells)
    (separated : Separated spells as text) {fuel : Nat}
    (enough : (skipSpace (text ++ close :: rest)).length ≤ fuel) :
    listed close item fuel (text ++ close :: rest) = some (as, rest) := by
  induction separated generalizing fuel with
  | @last a before text behind isBlank spelled isBlank' =>
      have left := length_lt_skipSpace isClose.visible (before ++ (text ++ behind)) rest
      obtain ⟨fuel, rfl⟩ := Nat.exists_eq_succ_of_ne_zero (show fuel ≠ 0 by omega)
      have read := complete a text spelled (behind ++ close :: rest)
        (isBlank'.endsToken (isClose.endsToken rest))
      simp [listed, skipSpace_append isBlank, read, skipSpace_append isBlank',
        skipSpace_of_visible isClose.visible, isClose.ne_comma]
  | @more a as before text behind more isBlank spelled isBlank' later ih =>
      have whole : before ++ (text ++ (behind ++ ',' :: more)) ++ close :: rest =
          before ++ (text ++ (behind ++ ',' :: (more ++ close :: rest))) := by simp
      have left := length_lt_skipSpace isSpace_comma (before ++ (text ++ behind))
        (more ++ close :: rest)
      have less : (skipSpace (more ++ close :: rest)).length ≤ _ :=
        List.length_dropWhile_le isSpace _
      rw [whole] at enough ⊢
      simp only [List.append_assoc] at left
      obtain ⟨fuel, rfl⟩ := Nat.exists_eq_succ_of_ne_zero (show fuel ≠ 0 by omega)
      have read := complete a text spelled (behind ++ ',' :: (more ++ close :: rest))
        (isBlank'.endsToken (by simp))
      simp [listed, skipSpace_append isBlank, read, skipSpace_append isBlank',
        skipSpace_of_visible isSpace_comma, ih (show _ ≤ fuel by omega)]

/-- A list is read up to what closes it, and no further. -/
theorem listRest_of_enclosed (isClose : IsClose close) (closed : ∀ cs, item (close :: cs) = none)
    (complete : Complete item spells) (enclosed : Enclosed spells close as text)
    (rest : List Char) : listRest close item (text ++ rest) = some (as, rest) := by
  cases enclosed with
  | none isBlank =>
      simp [listRest, skipSpace_append isBlank, skipSpace_of_visible isClose.visible]
  | @some _ text separated =>
      rw [List.append_assoc, List.singleton_append]
      generalize whole : text ++ close :: rest = cs
      have read : listed close item (skipSpace cs).length (skipSpace cs) = .some (as, rest) := by
        rw [listed_skipSpace]
        subst whole
        exact listed_of_separated isClose complete separated (Nat.le_refl _)
      cases opens : skipSpace cs with
      | nil => simp [opens, listed] at read
      | cons c more =>
          -- nothing is read at what closes the list
          have notClosed : c ≠ close := by
            rintro rfl
            rw [opens] at read
            simp [listed, skipSpace_of_visible isClose.visible, closed] at read
          rw [opens] at read
          simpa [listRest, opens, notClosed] using read

/-! ### What is read has been spelled -/

theorem Separated.behind (separated : Separated spells as text) (isBlank : IsBlank space) :
    Separated spells as (space ++ text) := by
  cases separated with
  | last isBlank' spelled isBlank'' =>
      rw [← List.append_assoc]
      exact .last (isBlank.append isBlank') spelled isBlank''
  | more isBlank' spelled isBlank'' later =>
      rw [← List.append_assoc]
      exact .more (isBlank.append isBlank') spelled isBlank'' later

theorem separated_of_listed (sound : Sound item spells) {fuel : Nat}
    (found : listed close item fuel cs = some (as, rest)) :
    ∃ text, cs = text ++ close :: rest ∧ Separated spells as text := by
  induction fuel generalizing cs as with
  | zero => cases found
  | succ fuel ih =>
      rw [listed] at found
      obtain ⟨⟨a, left⟩, read, found⟩ := Option.bind_eq_some_iff.mp found
      obtain ⟨text, taken, spelled⟩ := sound _ _ _ read
      obtain ⟨before, isBlank, whole⟩ := exists_eq_append_skipSpace cs
      obtain ⟨behind, isBlank', tail⟩ := exists_eq_append_skipSpace left
      dsimp only at found
      split at found
      · cases found
      · rename_i c more next
        rw [next] at tail
        split at found
        · rename_i comma
          subst comma
          obtain ⟨⟨others, end'⟩, later, same⟩ := Option.map_eq_some_iff.mp found
          cases same
          obtain ⟨text', rfl, separated⟩ := ih later
          refine ⟨_, ?_, .more isBlank spelled isBlank' separated⟩
          rw [whole, taken, tail]
          simp
        · split at found
          · rename_i same
            cases found
            refine ⟨_, ?_, .last isBlank spelled isBlank'⟩
            rw [whole, taken, tail, same]
            simp
          · cases found

theorem enclosed_of_listRest (sound : Sound item spells)
    (found : listRest close item cs = some (as, rest)) :
    ∃ text, cs = text ++ rest ∧ Enclosed spells close as text := by
  obtain ⟨space, isBlank, whole⟩ := exists_eq_append_skipSpace cs
  rw [listRest] at found
  split at found
  · cases found
  · rename_i c more opens
    split at found
    · rename_i same
      cases found
      refine ⟨_, ?_, .none isBlank⟩
      rw [whole, opens, same]
      simp
    · obtain ⟨text, taken, separated⟩ := separated_of_listed sound found
      refine ⟨_, ?_, .some (separated.behind isBlank)⟩
      rw [whole, opens, taken]
      simp

end Workflow.Json.Reader
