/-!
# Named fields in order of name

Lists of name and content, kept in ascending order of the names, without repetition. Names compare
by code point.

## Main definitions

* `Fields.get? name` — the content under a name.
* `Fields.insert name a` — put `a` under `name`, in the place of what was there.
* `Fields.ofList` — fields from pairs in any order; of a repeated name the last content stays.
-/

namespace Workflow

/-- Contents by name. -/
abbrev Fields (α : Type) := List (String × α)

namespace Fields
variable {α β : Type}

/-- The content under a name. -/
def get? (fields : Fields α) (name : String) : Option α := List.lookup name fields

def contains (fields : Fields α) (name : String) : Bool := (get? fields name).isSome

def names (fields : Fields α) : List String := fields.map Prod.fst

/-- Put a content under a name. -/
def insert (fields : Fields α) (name : String) (a : α) : Fields α :=
  match fields with
  | [] => [(name, a)]
  | (n, b) :: rest =>
    if name < n then (name, a) :: (n, b) :: rest
    else if name = n then (name, a) :: rest
    else (n, b) :: insert rest name a

/-- Fields from pairs in any order. -/
def ofList (pairs : List (String × α)) : Fields α :=
  pairs.foldl (fun fields (name, a) => insert fields name a) []

@[simp] theorem get?_nil (name : String) : get? ([] : Fields α) name = none := rfl

@[simp] theorem get?_cons (n name : String) (a : α) (rest : Fields α) :
    get? ((n, a) :: rest) name = if name = n then some a else get? rest name := by
  by_cases h : name = n
  · simp [get?, h]
  · have : (name == n) = false := by simpa using h
    simp [get?, List.lookup_cons, h, this]

/-- An insertion is seen under its own name and nowhere else. -/
theorem get?_insert (fields : Fields α) (n name : String) (a : α) :
    get? (insert fields n a) name = if name = n then some a else get? fields name := by
  induction fields with
  | nil => simp [insert]
  | cons field rest ih =>
    obtain ⟨m, b⟩ := field
    simp only [insert]
    split
    · simp
    · split
      · rename_i h
        subst h
        by_cases hn : name = n <;> simp [hn]
      · rename_i h
        simp only [get?_cons, ih]
        by_cases hn : name = n
        · simp [hn, h]
        · simp [hn]

end Fields

end Workflow
