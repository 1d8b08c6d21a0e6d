/-!
# White space

The white space of running text is Unicode's `White_Space` property. Trimming and word
splitting go by it.

## Main definitions

* `Text.isBlank c` — `c` is white space.
* `Text.trim cs` — `cs` without the white space at either end.
* `Text.words cs` — the maximal runs of other characters, in order.
-/

namespace Workflow.Text

/-- Membership in Unicode's `White_Space` property, 25 characters. -/
def isBlank (c : Char) : Bool :=
  let n := c.toNat
  (0x09 ≤ n && n ≤ 0x0D) || n == 0x20 || n == 0x85 || n == 0xA0 || n == 0x1680
    || (0x2000 ≤ n && n ≤ 0x200A) || n == 0x2028 || n == 0x2029 || n == 0x202F
    || n == 0x205F || n == 0x3000

/-- Text with nothing but white space in it. -/
def allBlank (cs : List Char) : Bool := cs.all isBlank

def trimStart (cs : List Char) : List Char := cs.dropWhile isBlank

def trimEnd (cs : List Char) : List Char := (cs.reverse.dropWhile isBlank).reverse

def trim (cs : List Char) : List Char := trimEnd (trimStart cs)

/-- The pieces between the characters that `isCut` accepts; never empty. -/
def pieces (isCut : Char → Bool) : List Char → List (List Char)
  | [] => [[]]
  | c :: cs =>
    if isCut c then [] :: pieces isCut cs
    else match pieces isCut cs with
      | [] => [[c]]
      | p :: ps => (c :: p) :: ps

theorem pieces_ne_nil (isCut : Char → Bool) (cs : List Char) : pieces isCut cs ≠ [] := by
  cases cs with
  | nil => simp [pieces]
  | cons c cs =>
    simp only [pieces]
    split
    · simp
    · split <;> simp

/-- The words of a text: what stands between white space. -/
def words (cs : List Char) : List (List Char) :=
  (pieces isBlank cs).filter (! ·.isEmpty)

@[simp] theorem words_nil : words [] = [] := rfl

theorem ne_nil_of_mem_words {w cs : List Char} (h : w ∈ words cs) : w ≠ [] := by
  simp only [words, List.mem_filter] at h
  intro hw
  simp [hw] at h

/-- A string of white space only, the empty string included. -/
def blankString (s : String) : Bool := allBlank s.toList

/-- `s` without the white space at either end. -/
def trimString (s : String) : String := String.ofList (trim s.toList)

/-- Upper-case ASCII letters made lower-case, all else kept. -/
def lowerAscii (s : String) : String := s.map Char.toLower

end Workflow.Text
