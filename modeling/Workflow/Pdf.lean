import Workflow.Failure
import Workflow.Pdf.Content
/-!
# PDF documents

A document is a sequence of numbered objects, a table of the places where they start, and a trailer
that says where the table is. Objects 1 to 4 are the catalog, the page tree and the two fonts; then
come a page and its content for each page. All of it is ASCII, so that a place is a number of
characters.

## Main definitions

* `Pdf.objects contents` — the objects of a document, in order of their numbers.
* `Pdf.offsets` — the places where objects start.
* `Pdf.assemble` — the whole file.
* `Pdf.render title text` — the document for a text.
-/

namespace Workflow

/-- A finished document. -/
structure Pdf where
  text : String
  pages : Nat
  deriving DecidableEq, Repr

namespace Pdf

/-- A numbered object. -/
structure Object where
  id : Nat
  body : List Char
  deriving DecidableEq, Repr

def digits (n : Nat) : List Char := Nat.toDigits 10 n

/-- A reference to an object. -/
def reference (id : Nat) : List Char := digits id ++ " 0 R".toList

/-- The number of a page's object; the next one is its content. -/
def pageId (index : Nat) : Nat := 5 + 2 * index

def fontBody (name : String) : List Char :=
  ("<< /Type /Font /Subtype /Type1 /BaseFont /" ++ name ++ " /Encoding /WinAnsiEncoding >>").toList

def catalog : Object := ⟨1, "<< /Type /Catalog /Pages 2 0 R >>".toList⟩

def pageTree (pages : Nat) : Object :=
  ⟨2, "<< /Type /Pages /Kids [".toList
    ++ Text.joinWith [' '] ((List.range pages).map fun i => reference (pageId i))
    ++ "] /Count ".toList ++ digits pages ++ " >>".toList⟩

def page (index : Nat) : Object :=
  ⟨pageId index, "<< /Type /Page /Parent 2 0 R /MediaBox [0 0 ".toList ++ digits pageWidth
    ++ ' ' :: digits pageHeight ++ "] /Resources << /Font << /F1 3 0 R /F2 4 0 R >> >> ".toList
    ++ "/Contents ".toList ++ reference (pageId index + 1) ++ " >>".toList⟩

/-- The content of a page as a stream with its length. -/
def stream (index : Nat) (content : List Char) : Object :=
  ⟨pageId index + 1, "<< /Length ".toList ++ digits content.length ++ " >>\nstream\n".toList
    ++ content ++ "\nendstream".toList⟩

/-- The objects of a document with the given contents of its pages. -/
def objects (contents : List (List Char)) : List Object :=
  [catalog, pageTree contents.length, ⟨3, fontBody "Helvetica"⟩, ⟨4, fontBody "Helvetica-Bold"⟩]
    ++ contents.zipIdx.flatMap fun (content, index) => [page index, stream index content]

def Object.write (object : Object) : List Char :=
  digits object.id ++ " 0 obj\n".toList ++ object.body ++ "\nendobj\n".toList

def header : List Char := "%PDF-1.4\n".toList

/-- The places where objects start, the first of them at `start`. -/
def offsets (start : Nat) : List Object → List Nat
  | [] => []
  | object :: rest => start :: offsets (start + object.write.length) rest

/-- A number in ten digits. -/
def tenDigits (n : Nat) : List Char :=
  let ds := digits n
  List.replicate (10 - ds.length) '0' ++ ds

def entry (offset : Nat) : List Char := tenDigits offset ++ " 00000 n \n".toList

/-- The table of the places, and the trailer. -/
def tail (places : List Nat) (start : Nat) : List Char :=
  let size := digits (places.length + 1)
  "xref\n0 ".toList ++ size ++ "\n0000000000 65535 f \n".toList ++ places.flatMap entry
    ++ "trailer\n<< /Size ".toList ++ size ++ " /Root 1 0 R >>\nstartxref\n".toList
    ++ digits start ++ "\n%%EOF\n".toList

/-- The whole file. -/
def assemble (objects : List Object) : List Char :=
  let front := header ++ objects.flatMap Object.write
  front ++ tail (offsets header.length objects) front.length

/-- The number of a character, in at least four hexadecimal digits. -/
def codePoint (c : Char) : String :=
  let ds := (Nat.toDigits 16 c.toNat).map Char.toUpper
  "U+" ++ String.ofList (List.replicate (4 - ds.length) '0' ++ ds)

/-- A character that the fonts do not have. -/
def unencodable (c : Char) : Failure :=
  .execution ("PDF text contains '" ++ c.toString ++ "' (" ++ codePoint c
    ++ "), which the built-in font cannot encode")

/-- The document for a text under an optional title. -/
def render (title : Option String) (text : String) : Except Failure Pdf :=
  match (layout (title.map String.toList) text.toList).mapM Page.content with
  | .error c => .error (unencodable c)
  | .ok contents => .ok ⟨String.ofList (assemble (objects contents)), contents.length⟩

end Pdf

end Workflow
