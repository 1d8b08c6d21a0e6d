import Workflow.Text.Unshown

/-!
# Quoted text for diagnostics

A text between quotes, with the quote, the backslash and every character that does not show by
itself escaped: four of them by a letter or digit, the others by their number.

## Main definitions

* `Text.quoteForDiagnostics s` — the quoted text.
* `Text.quotedList`, `Text.quotedSet` — quoted texts between brackets or braces.
-/

namespace Workflow.Text

/-- The escape of a character, or the character itself. -/
def diagnosticChar (c : Char) : List Char :=
  match c with
  | '"' => ['\\', '"']
  | '\\' => ['\\', '\\']
  | '\t' => ['\\', 't']
  | '\n' => ['\\', 'n']
  | '\r' => ['\\', 'r']
  | '\x00' => ['\\', '0']
  | _ =>
    if isUnshown c then ['\\', 'u', '\x7b'] ++ Nat.toDigits 16 c.toNat ++ ['\x7d'] else [c]

/-- A text between quotes. -/
def quoteForDiagnostics (s : String) : String :=
  String.ofList ('"' :: s.toList.flatMap diagnosticChar ++ ['"'])

def quotedList (texts : List String) : String :=
  "[" ++ ", ".intercalate (texts.map quoteForDiagnostics) ++ "]"

def quotedSet (texts : List String) : String :=
  "\x7b" ++ ", ".intercalate (texts.map quoteForDiagnostics) ++ "\x7d"

end Workflow.Text
