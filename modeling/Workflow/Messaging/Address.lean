import Workflow.Text.Alphanumeric
import Workflow.Text.Blank
import Workflow.Url.Domain
/-!
# Mail addresses

A mailbox is an address, or an address between angle brackets behind a name to show. The name is
made of words, quoted texts and dots. An address has a user and a domain, each of atoms joined by
dots; the user may be quoted.

What is read is checked once more: a user is made of letters, digits and a few signs, or stands
between quotes itself, and the labels of a domain begin and end with letters or digits.

## Main definitions

* `MailAddress.parse?` — the address of a mailbox.
* `MailAddress.sent?` — the address as it is read from the head of a mail.
-/

namespace Workflow

/-- An address in its two parts. -/
structure MailAddress where
  user : List Char
  domain : List Char
  deriving DecidableEq, Repr

namespace MailAddress

def text (address : MailAddress) : List Char := address.user ++ '@' :: address.domain

/-! ## Characters -/

def isSpace (c : Char) : Bool := c == ' ' || c == '\t'

/-- Signs that may stand in an atom. -/
def isAtomSign (c : Char) : Bool := "!#$%&'*+-/=?^_\x60\x7b|\x7d~".toList.contains c

def isAtomChar (c : Char) : Bool := c.isAlphanum || isAtomSign c || 0x80 ≤ c.toNat

/-- Characters of a quoted text: all but spaces, line ends, the quote and the backslash. -/
def isQuotedChar (c : Char) : Bool :=
  c.toNat ≠ 0 && ! isSpace c && c ≠ '\n' && c ≠ '\r' && c ≠ '"' && c ≠ '\\'

/-- Characters that may stand behind a backslash. -/
def isEscapable (c : Char) : Bool :=
  c.toNat ≠ 0 && c ≠ '\n' && c ≠ '\r' && c.toNat < 0x80

/-! ## Reading

Each function gives what it reads, and the text behind it. -/

/-- An atom. Of the spaces in front the first is kept. -/
def atom? (cs : List Char) : Option (List Char × List Char) :=
  let rest := cs.dropWhile isSpace
  let run := rest.takeWhile isAtomChar
  if run.isEmpty then none
  else some ((cs.head?.filter isSpace).toList ++ run, rest.dropWhile isAtomChar)

/-- Characters of atoms, and dots in front of such. -/
def dotRun : List Char → List Char × List Char
  | [] => ([], [])
  | c :: cs =>
    if isAtomChar c || (c == '.' && cs.head?.any isAtomChar) then
      let (run, rest) := dotRun cs
      (c :: run, rest)
    else ([], c :: cs)

/-- Two or more atoms joined by dots. Spaces in front do not count. -/
def dotAtom? (cs : List Char) : Option (List Char × List Char) :=
  let (run, rest) := dotRun (cs.dropWhile isSpace)
  if run.contains '.' && run.head? ≠ some '.' then some (run, rest) else none

/-- A quoted text up to the quote that ends it. Of several spaces the first is kept, of those at the
end none. -/
def quotedRest (space : Option Char) : List Char → Option (List Char × List Char)
  | [] => none
  | c :: cs =>
    if c = '"' then some ([], cs)
    else if isSpace c then quotedRest (space <|> some c) cs
    else if c = '\\' then
      match cs with
      | [] => none
      | d :: cs =>
        if isEscapable d then
          (quotedRest none cs).map fun (text, rest) => (space.toList ++ d :: text, rest)
        else none
    else if isQuotedChar c then
      (quotedRest none cs).map fun (text, rest) => (space.toList ++ c :: text, rest)
    else
      match Text.trimStart (c :: cs) with
      | '"' :: rest => some ([], rest)
      | _ => none

def quoted? : List Char → Option (List Char × List Char)
  | '"' :: cs => quotedRest none cs
  | _ => none

def word? (cs : List Char) : Option (List Char × List Char) := quoted? cs <|> atom? cs

/-- What an item reads behind a dot, the dot included. -/
def dotted? (item? : List Char → Option (List Char × List Char)) :
    List Char → Option (List Char × List Char)
  | '.' :: cs => (item? cs).map fun (text, rest) => ('.' :: text, rest)
  | _ => none

/-- Items as long as there are any. -/
def repeated (item? : List Char → Option (List Char × List Char)) (cs : List Char) :
    List Char × List Char :=
  match item? cs with
  | none => ([], cs)
  | some (text, rest) =>
    if rest.length < cs.length then
      let (more, rest) := repeated item? rest
      (text ++ more, rest)
    else ([], cs)
termination_by cs.length

/-- One item, and more behind it. -/
def followed? (first? next? : List Char → Option (List Char × List Char)) (cs : List Char) :
    Option (List Char × List Char) := do
  let (text, rest) ← first? cs
  let (more, rest) := repeated next? rest
  some (text ++ more, rest)

/-- A name to show: words, and dots behind the first. -/
def name? : List Char → Option (List Char × List Char) :=
  followed? word? fun cs => word? cs <|> dotted? (fun cs => some ([], cs)) cs

def user? (cs : List Char) : Option (List Char × List Char) :=
  dotAtom? cs <|> quoted? cs <|> followed? word? (dotted? word?) cs

def domain? (cs : List Char) : Option (List Char × List Char) :=
  dotAtom? cs <|> followed? atom? (dotted? atom?) cs

def bare? (cs : List Char) : Option (MailAddress × List Char) := do
  match ← user? cs with
  | (user, '@' :: rest) =>
    let (domain, rest) ← domain? rest
    some ({ user, domain }, rest)
  | _ => none

/-- An address between angle brackets, with white space around it. -/
def bracketed? (cs : List Char) : Option (MailAddress × List Char) :=
  match Text.trimStart cs with
  | '<' :: cs =>
    match bare? cs with
    | some (address, '>' :: rest) => some (address, Text.trimStart rest)
    | _ => none
  | _ => none

/-- A mailbox that takes up the text; white space around it does not count. -/
def mailbox? (cs : List Char) : Option MailAddress :=
  let cs := Text.trimStart cs
  let behindName := match name? cs with
    | some (_, rest) => rest
    | none => cs
  match bracketed? behindName <|> bare? cs with
  | some (address, rest) => if Text.allBlank rest then some address else none
  | none => none

/-! ## Checking -/

/-- The length in bytes. -/
def size (cs : List Char) : Nat := (String.ofList cs).utf8ByteSize

def isPlainChar (c : Char) : Bool := isAtomSign c || Text.isAlphanumeric c

def isPlainAtom (cs : List Char) : Bool := ! cs.isEmpty && cs.all isPlainChar

def isVisible (c : Char) : Bool := 0x21 ≤ c.toNat && c.toNat ≤ 0x7E

/-- A text that may stand between quotes as it is. -/
def isQuotable : List Char → Bool
  | [] => true
  | '\\' :: c :: cs => isVisible c && isQuotable cs
  | c :: cs => c ≠ '\\' && c ≠ '"' && (isSpace c || isVisible c) && isQuotable cs

/-- The text between quotes. -/
def unquoted? (cs : List Char) : Option (List Char) :=
  match cs with
  | '"' :: rest => if rest.getLast? = some '"' then some rest.dropLast else none
  | _ => none

/-- A user that mail can be sent to, of at most 64 bytes. -/
def isUser (cs : List Char) : Bool :=
  size cs ≤ 64 && match unquoted? cs with
    | some inner => ! inner.isEmpty && isQuotable inner
    | none => (Text.pieces (· = '.') cs).all isPlainAtom

def isLabel (cs : List Char) : Bool :=
  isPlainAtom cs && size cs ≤ 63
    && cs.head?.any Text.isAlphanumeric && cs.getLast?.any Text.isAlphanumeric

/-- A domain as it is written, of at most 254 bytes. -/
def isWrittenDomain (cs : List Char) : Bool :=
  size cs ≤ 254 && (Text.pieces (· = '.') cs).all isLabel

/-- A domain as it is written, or one that is such in ASCII. -/
def isDomain (cs : List Char) : Bool :=
  isWrittenDomain cs || (Domain.inAscii? cs).any isWrittenDomain

def isValid (address : MailAddress) : Bool := isUser address.user && isDomain address.domain

/-- The address of a mailbox. -/
def parse? (s : String) : Option MailAddress := (mailbox? s.toList).filter isValid

/-- The address as it is read from the head of a mail. A user in quotes has lost them there. -/
def sent? (address : MailAddress) : Option MailAddress :=
  (mailbox? address.text).filter isValid

end MailAddress

end Workflow
