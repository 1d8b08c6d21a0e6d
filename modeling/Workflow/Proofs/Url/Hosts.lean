import Workflow.Proofs.Url.Address
import Workflow.Proofs.Url.Percent
import Workflow.Url

/-!
# Hosts read back

Outside the web, a host is an address in square brackets, or a text without signs of a URL, of which
the controls are escaped. What comes of either is a host that is read as itself, and it can be told
from the user in front of it and from the port and the path behind it.

## Main definitions

* `Url.IsHost host` — a host that is read as itself wherever it stands.
* `Url.normal?_cases` — the two kinds of hosts.
* `Url.isHost_of_address`, `Url.isHost_of_plain` — what is read of either kind is read again.
-/

namespace Workflow.Url

/-- A sign that stands in front of an authority, in it, or behind it, but in no host. -/
def isMark (c : Char) : Bool := Percent.oneOf "#/?@" c

/-- A host that is read as itself, and that ends where a port may begin. -/
structure IsHost (host : String) : Prop where
  named : host ≠ ""
  normal : Host.normal? false host.toList = some host
  free : ∀ c ∈ host.toList, 0x20 < c.toNat ∧ isMark c = false
  whole : ∀ rest, splitPort false (host.toList ++ rest) =
    (host.toList ++ (splitPort false rest).1, (splitPort false rest).2)

theorem visible_of_not_control {c : Char} (control : Percent.inControls c = false)
    (space : c ≠ ' ') : 0x20 < c.toNat := by
  simp only [Percent.inControls, Bool.or_eq_false_iff, decide_eq_false_iff_not] at control
  have : c.toNat ≠ 0x20 := fun same => space (Char.toNat_inj.mp same)
  omega

/-! ## Hosts without signs -/

/-- The signs around a host are among those that it may not hold. -/
theorem isMark_of_not_forbidden {c : Char} (free : Host.isForbidden c = false) :
    isMark c = false := by
  have among : ∀ c ∈ "#/?@".toList, Host.isForbidden c = true := Text.forall_mem_of_all (by decide)
  refine Bool.eq_false_iff.mpr fun mark => ?_
  rw [among c (Percent.oneOf_eq_true_iff.mp mark)] at free
  cases free

/-- What may stand in a host neither ends it nor opens an address. -/
theorem splitPort_append {cs : List Char} (free : ∀ c ∈ cs, Host.isForbidden c = false)
    (rest : List Char) :
    splitPort false (cs ++ rest) = (cs ++ (splitPort false rest).1, (splitPort false rest).2) := by
  induction cs with
  | nil => rfl
  | cons c cs ih =>
      obtain ⟨first, later⟩ := List.forall_mem_cons.mp free
      have colon : c ≠ ':' := by
        rintro rfl
        cases first
      have bracket : c ≠ '[' := by
        rintro rfl
        cases first
      simp [splitPort, colon, bracket, ih later]

/-- Of a host that holds no sign of a URL, the controls and what is not ASCII are escaped. -/
theorem normal?_of_free {cs : List Char} (free : ∀ c ∈ cs, Host.isForbidden c = false) :
    Host.normal? false cs = some (String.ofList (Percent.encode Percent.inControls cs)) := by
  have opens : (cs.head? == some '[') = false := by
    cases cs with
    | nil => rfl
    | cons c cs =>
        have bracket : c ≠ '[' := by
          rintro rfl
          cases free '[' (by simp)
        simpa using bracket
  have allowed : cs.any Host.isForbidden = false := by
    rw [List.any_eq_false]
    exact fun c member => by simp [free c member]
  simp [Host.normal?, opens, allowed]

theorem isHost_of_plain {cs : List Char} (some : cs ≠ [])
    (free : ∀ c ∈ cs, Host.isForbidden c = false) :
    IsHost (String.ofList (Percent.encode Percent.inControls cs)) := by
  have characters : ∀ c ∈ Percent.encode Percent.inControls cs,
      Percent.inControls c = false ∧ Host.isForbidden c = false :=
    Percent.forall_mem_encode (fun c member control => ⟨control, free c member⟩) (by decide)
      (by decide)
  have plain : ∀ c ∈ Percent.encode Percent.inControls cs, Host.isForbidden c = false :=
    fun c member => (characters c member).2
  refine ⟨?_, ?_, ?_, ?_⟩
  · rwa [Ne, ← String.toList_eq_nil_iff, String.toList_ofList, Percent.encode_eq_nil_iff]
  · rw [String.toList_ofList, normal?_of_free plain,
      Percent.encode_eq_self fun c member => (characters c member).1]
  · intro c member
    obtain ⟨control, allowed⟩ := characters c (by simpa using member)
    refine ⟨visible_of_not_control control ?_, isMark_of_not_forbidden allowed⟩
    rintro rfl
    cases allowed
  · rw [String.toList_ofList]
    exact splitPort_append plain

/-! ## Addresses -/

/-- The characters of an address are visible, and none of them stands around a host. -/
theorem of_isAddressSign {c : Char} (sign : Host.isAddressSign c = true) :
    0x20 < c.toNat ∧ isMark c = false ∧ c ≠ '[' ∧ c ≠ ']' := by
  have visible : 0x20 < c.toNat := by
    simp only [Host.isAddressSign, Bool.or_eq_true, beq_iff_eq] at sign
    rcases sign with (digit | rfl) | rfl
    · have := Percent.toNat_bounds_of_digit digit
      omega
    · decide
    · decide
  have other : ∀ d ∈ "#/?@[]".toList, Host.isAddressSign d = false :=
    Text.forall_mem_of_all (by decide)
  have absent : c ∉ "#/?@[]".toList := by
    intro member
    rw [other c member] at sign
    cases sign
  refine ⟨visible, Bool.eq_false_iff.mpr fun mark => absent ?_, ?_, ?_⟩
  · have among : "#/?@".toList ⊆ "#/?@[]".toList := by decide
    exact among (Percent.oneOf_eq_true_iff.mp mark)
  · rintro rfl
    exact absent (by decide)
  · rintro rfl
    exact absent (by decide)

/-- Between square brackets no colon ends a host. -/
theorem splitPort_inside {cs : List Char} (free : ∀ c ∈ cs, c ≠ '[' ∧ c ≠ ']') (rest : List Char) :
    splitPort true (cs ++ ']' :: rest) =
      (cs ++ ']' :: (splitPort false rest).1, (splitPort false rest).2) := by
  induction cs with
  | nil => simp [splitPort]
  | cons c cs ih =>
      obtain ⟨⟨opens, closes⟩, later⟩ := List.forall_mem_cons.mp free
      simp [splitPort, opens, closes, ih later]

section
variable {inner : List Char} (signs : ∀ c ∈ inner, Host.isAddressSign c = true)
include signs

theorem splitPort_brackets (rest : List Char) :
    splitPort false ('[' :: (inner ++ [']']) ++ rest) =
      ('[' :: (inner ++ [']']) ++ (splitPort false rest).1, (splitPort false rest).2) := by
  have free : ∀ c ∈ inner, c ≠ '[' ∧ c ≠ ']' :=
    fun c member => (of_isAddressSign (signs c member)).2.2
  have passed := splitPort_inside free rest
  simp only [List.cons_append, List.append_assoc, List.nil_append]
  simp [splitPort, passed]

theorem free_brackets : ∀ c ∈ '[' :: (inner ++ [']']), 0x20 < c.toNat ∧ isMark c = false := by
  have closes : ∀ c ∈ [']'], 0x20 < c.toNat ∧ isMark c = false :=
    List.forall_mem_singleton.mpr (by decide)
  refine List.forall_mem_cons.mpr ⟨by decide, List.forall_mem_append.mpr ⟨?_, closes⟩⟩
  intro c member
  obtain ⟨visible, mark, -, -⟩ := of_isAddressSign (signs c member)
  exact ⟨visible, mark⟩

end

theorem normal?_brackets (inner : List Char) :
    Host.normal? false ('[' :: (inner ++ [']'])) =
      (Host.address6? inner).map fun pieces => "[" ++ Host.coloned pieces ++ "]" := by
  simp [Host.normal?, Host.bracketed?]

theorem isHost_of_address {pieces : List Nat} (address : Host.IsAddress pieces) :
    IsHost ("[" ++ Host.coloned pieces ++ "]") := by
  have read := Host.address6?_coloned address
  obtain ⟨signs, -⟩ := Host.of_address6? read
  have spelled : ("[" ++ Host.coloned pieces ++ "]").toList =
      '[' :: ((Host.coloned pieces).toList ++ [']']) := by simp
  refine ⟨?_, ?_, ?_, ?_⟩
  · rw [Ne, ← String.toList_eq_nil_iff, spelled]
    exact List.cons_ne_nil _ _
  · rw [spelled, normal?_brackets, read, Option.map_some]
  · rw [spelled]
    exact free_brackets signs
  · rw [spelled]
    exact splitPort_brackets signs

/-! ## Both kinds -/

/-- A host is an address in square brackets, or a text that holds no sign of a URL. -/
theorem normal?_cases {cs : List Char} {spelling : String}
    (read : Host.normal? false cs = some spelling) :
    (∃ inner pieces, cs = '[' :: (inner ++ [']']) ∧ Host.address6? inner = some pieces ∧
        spelling = "[" ++ Host.coloned pieces ++ "]") ∨
      (∀ c ∈ cs, Host.isForbidden c = false) ∧
        spelling = String.ofList (Percent.encode Percent.inControls cs) := by
  unfold Host.normal? at read
  split at read
  · rename_i opens
    left
    obtain ⟨rest, rfl⟩ : ∃ rest, cs = '[' :: rest := by
      cases cs with
      | nil => cases opens
      | cons c rest => exact ⟨rest, by simpa using opens⟩
    rw [List.tail_cons, Host.bracketed?] at read
    split at read
    · rename_i inner closes
      obtain ⟨pieces, address, rfl⟩ := Option.map_eq_some_iff.mp read
      have turned : rest = inner.reverse ++ [']'] := by
        rw [← List.reverse_reverse rest, closes, List.reverse_cons]
      exact ⟨inner.reverse, pieces, by rw [turned], address, rfl⟩
    · cases read
  · right
    rw [if_neg (by simp)] at read
    split at read
    · cases read
    · rename_i allowed
      cases read
      exact ⟨by simpa using allowed, rfl⟩

end Workflow.Url
