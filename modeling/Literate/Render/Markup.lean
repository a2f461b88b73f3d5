import Literate.Document
import Literate.Render.Escape

/-! Listings as markup: definitions become anchors, references links, other runs classed spans, and
documentation hovers over its run. Two dialects differ in how they escape and in whether plain text is
an element. -/

namespace Literate

open Code (char)

/-- Markup with its texts and attribute values escaped already. -/
inductive Markup where
  | text (s : Wording)
  | element (name : String) (attributes : List (String × Wording)) (children : List Markup)
  deriving Repr, Inhabited

namespace Markup

def printAttribute (a : String × Wording) : Wording :=
  char ' ' :: codes a.1 ++ char '=' :: char '"' :: a.2 ++ [char '"']

mutual

def print : Markup → Wording
  | text s => s
  | element name attributes children =>
    char '<' :: codes name ++ attributes.flatMap printAttribute ++ char '>' :: printAll children ++
      char '<' :: char '/' :: codes name ++ [char '>']

def printAll : List Markup → Wording
  | [] => []
  | m :: ms => print m ++ printAll ms

end
end Markup

/-- how a format writes the markup of a run -/
structure Dialect where
  /-- name of the attribute that holds a class -/
  classAttribute : String
  attributeValue : Wording → Wording
  content : Wording → Wording
  /-- plain text needs no element -/
  bareText : Bool

namespace Dialect

def html : Dialect := ⟨"class", Escape.html, Escape.html, true⟩

/-- Texts stand in template literals between curly braces. -/
def jsx : Dialect :=
  ⟨"className", Escape.attributeValue,
    fun s => char '\x7b' :: char '\x60' :: Escape.template s ++ [char '\x60', char '\x7d'], false⟩

def span (d : Dialect) (cls : Wording) (children : List Markup) : Markup :=
  .element "span" [(d.classAttribute, cls)] children

def plain (d : Dialect) (text : Wording) : Markup :=
  if d.bareText then .text (d.content text)
  else d.span "cire_text" [.text (d.content text)]

/-- the markup of a decorated run, without its documentation -/
def decorated (d : Dialect) (text : Wording) (a : Mark) : Decoration → Markup
  | .definition =>
    .element "span" [("id", d.attributeValue a.symbol),
      (d.classAttribute, d.attributeValue a.highlight)] [.text (d.content text)]
  | .reference =>
    .element "a" [("href", char '#' :: d.attributeValue a.symbol),
      (d.classAttribute, d.attributeValue a.highlight)] [.text (d.content text)]
  | .highlight => d.span (d.attributeValue a.highlight) [.text (d.content text)]
  | .plain => d.plain text

/-- the pieces of documentation, a blank line between them -/
def documentation (a : Mark) : Wording := Text.joinWith (codes "\n\n") a.doc

def run (d : Dialect) : Run → Markup
  | .text s => d.plain s
  | .annotated s x decoration =>
    let inner := d.decorated s x.mark decoration
    if x.mark.doc.isEmpty then inner
    else d.span "cire_hover"
      [inner, d.span "cire_doc" [.text (d.content (documentation x.mark))]]

/-- the body of a listing -/
def listing (d : Dialect) (runs : List Run) : Wording := Markup.printAll (runs.map d.run)

end Dialect
end Literate
