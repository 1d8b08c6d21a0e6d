/-!
# Media types

A type and a subtype, both tokens, and parameters behind semicolons. A subtype may end in a plus
sign and the name of the format that it is written in. Case does not count.

## Main definitions

* `MediaType` — type, subtype and format.
* `MediaType.parse?` — the media type that a text spells.
* `MediaType.isJson` — whether a text names JSON.
-/

namespace Workflow

/-- What kind of content there is. -/
structure MediaType where
  type : String
  /-- The subtype, without the format behind the last plus sign. -/
  subtype : String
  format : Option String := none
  deriving DecidableEq, Repr

namespace MediaType

def isTokenChar (c : Char) : Bool := c.isAlphanum || "!#$%&'*+-.^_\x60|~".toList.contains c

/-- Characters of a text in quotes. -/
def isQuotedChar (c : Char) : Bool := ' ' ≤ c && c.toNat ≠ 0x7F

/-- What follows the quote that opens a text: at least one character, and the quote that ends it. -/
def behindQuoted? : List Char → Option (List Char)
  | [] => none
  | c :: cs =>
    match cs.dropWhile (· ≠ '"') with
    | '"' :: rest =>
      if isQuotedChar c && (cs.takeWhile (· ≠ '"')).all isQuotedChar then some rest else none
    | _ => none

/-- What follows the content of a parameter. Without quotes it is empty only at the end. -/
def behindContent? : List Char → Option (List Char)
  | '"' :: cs => (behindQuoted? cs).map (·.dropWhile (· = ' '))
  | cs =>
    match cs.dropWhile isTokenChar with
    | [] => some []
    | rest => if (cs.takeWhile isTokenChar).isEmpty then none else some rest

/-- Whether parameters stand here, each with a name and a content, to the end. -/
def areParameters : Nat → List Char → Bool
  | 0, _ => false
  | fuel + 1, cs =>
    match cs.dropWhile (· = ' ') with
    | [] => true
    | cs =>
      match cs.takeWhile isTokenChar, cs.dropWhile isTokenChar with
      | _ :: _, '=' :: rest =>
        match behindContent? rest with
        | some [] => true
        | some (';' :: rest) => areParameters fuel rest
        | _ => false
      | _, _ => false

def lower (cs : List Char) : String := String.ofList (cs.map Char.toLower)

/-- The media type of a type and a token behind the slash. A plus sign in front marks no format. -/
def ofTokens (type token : List Char) : MediaType :=
  let back := token.reverse
  match back.dropWhile (· ≠ '+') with
  | _ :: c :: before =>
    ⟨lower type, lower (c :: before).reverse, some (lower (back.takeWhile (· ≠ '+')).reverse)⟩
  | _ => ⟨lower type, lower token, none⟩

/-- The media type that a text spells. -/
def parse? (s : String) : Option MediaType :=
  let cs := s.toList
  let type := cs.takeWhile isTokenChar
  match cs.dropWhile isTokenChar with
  | '/' :: cs =>
    let token := cs.takeWhile isTokenChar
    let isSpelled := match cs.dropWhile isTokenChar with
      | [] => true
      | ';' :: rest => ! token.isEmpty && areParameters (rest.length + 1) rest
      | _ => false
    if ! type.isEmpty && isSpelled then some (ofTokens type token) else none
  | _ => none

/-- Whether a text names JSON, or a format that is written in JSON. -/
def isJson (s : String) : Bool :=
  (parse? s).any fun mediaType => mediaType.subtype == "json" || mediaType.format == some "json"

end MediaType

end Workflow
