import XdotViewer.Decimal.Layout
import XdotViewer.Overlay

/-! # Overlays as HTML

An overlay becomes a fragment of HTML with one absolutely positioned element for each of its own.
Texts and attribute values are escaped, so they cannot end the place they stand in.
-/

namespace XdotViewer

namespace Html

/-- Escapes a character of a text. -/
def escapeText : Char → List Char
  | '&' => "&amp;".toList
  | '<' => "&lt;".toList
  | '>' => "&gt;".toList
  | c => [c]

/-- Escapes a character of an attribute value between double quotes. -/
def escapeAttribute : Char → List Char
  | '"' => "&quot;".toList
  | c => escapeText c

/-- Of consecutive spaces all but the first are written as spaces that stay visible. -/
def keepSpaces (afterSpace : Bool) : List Char → List Char
  | [] => []
  | c :: rest =>
    if c = ' ' then (if afterSpace then "&nbsp;".toList else [' ']) ++ keepSpaces true rest
    else c :: keepSpaces false rest

def body (text : List Char) : List Char :=
  keepSpaces false (text.flatMap escapeText)

/-- The start of an element: its name and its attributes. -/
structure Tag where
  name : List Char
  attributes : List (List Char × List Char)
deriving DecidableEq, Repr

def writeAttribute (pair : List Char × List Char) : List Char :=
  ' ' :: pair.1 ++ ['=', '"'] ++ pair.2.flatMap escapeAttribute ++ ['"']

def Tag.open (tag : Tag) : List Char :=
  '<' :: tag.name ++ tag.attributes.flatMap writeAttribute ++ ['>']

def Tag.close (tag : Tag) : List Char :=
  ['<', '/'] ++ tag.name ++ ['>']

/-- A length in pixels. -/
def px (value : Int) : String :=
  toString value ++ "px"

end Html

open Html

namespace TextElement

/-- The text as it stands in HTML. -/
def htmlText (text : TextElement) : String :=
  String.ofList (body text.text.toList)

def style (text : TextElement) : String :=
  "font-size:" ++ px text.fontSize.toInt ++ ";font-family:" ++ text.fontFamily ++
    ";color:" ++ text.color ++ ";position:absolute;text-align:" ++ text.align.key ++
    ";left:" ++ px text.left.toInt ++ ";top:" ++ px text.top.toInt ++
    ";width:" ++ px text.width.toInt ++
    (if text.opacity < 1.0 then ";opacity:" ++ Layout.inText.write text.opacity else "") ++
    (if text.link.isSome then ";text-decoration:none" else "")

/-- A linked text is an anchor, any other a span. -/
def tag (text : TextElement) : Tag :=
  let style := ("style".toList, text.style.toList)
  match text.link with
  | none => ⟨"span".toList, [style]⟩
  | some link =>
    let title := match link.title with
      | some title => [("title".toList, title.toList)]
      | none => []
    let events := link.events.entries.map fun event => (event.1.toList, event.2.toList)
    ⟨['a'], ("href".toList, link.href.toList) :: ("target".toList, link.target.toList) ::
      title ++ events ++ [style]⟩

end TextElement

namespace Region

def style (region : Region) : String :=
  "position:absolute;left:" ++ px region.left.toInt ++ ";top:" ++ px region.top.toInt ++
    ";width:" ++ px region.width.toInt ++ ";height:" ++ px region.height.toInt

def tag (region : Region) : Tag :=
  ⟨"div".toList,
    [("class".toList, "canviz-region".toList), ("data-entity".toList, region.name.toList),
     ("style".toList, region.style.toList)]⟩

end Region

namespace OverlayElement

def tag : OverlayElement → Tag
  | region r => r.tag
  | text t => t.tag

def content : OverlayElement → List Char
  | region _ => []
  | text t => body t.text.toList

def html (element : OverlayElement) : List Char :=
  element.tag.open ++ element.content ++ element.tag.close

end OverlayElement

namespace Overlay

def tag (overlay : Overlay) : Tag :=
  ⟨"div".toList,
    [("class".toList, "canviz-overlay".toList),
     ("style".toList, ("position:relative;width:" ++ px overlay.width ++ ";height:" ++
        px overlay.height).toList)]⟩

/-- The elements one a line, inside an element of the size of the overlay. -/
def htmlChars (overlay : Overlay) : List Char :=
  overlay.tag.open ++ overlay.elements.flatMap (fun element => '\n' :: element.html) ++
    '\n' :: overlay.tag.close ++ ['\n']

def html (overlay : Overlay) : String :=
  String.ofList overlay.htmlChars

end Overlay
end XdotViewer
