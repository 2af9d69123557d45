import XdotViewer.Drawing.Block
import XdotViewer.Proofs.Overlay.Scanning

/-! # The markup of an overlay

Scanning the HTML of an overlay and replacing the character references gives the tags of its
elements with the names, links and texts they were made of. Which tags there are, and which
attributes they have, depends on the shape of the overlay alone.
-/

namespace XdotViewer

open Html

namespace Html

/-- A token with its character references replaced. -/
def Token.decoded : Token → Token
  | opened name attributes => .opened name
      (attributes.map fun pair => (pair.1, String.ofList (decode pair.2.toList)))
  | closed name => .closed name
  | content text => .content (String.ofList (decode text.toList))

/-- A tag without its values. -/
inductive TagOutline where
  | opened (name : String) (attributes : List String)
  | closed (name : String)
deriving DecidableEq, Repr

def Token.outline? : Token → Option TagOutline
  | opened name attributes => some (.opened name (attributes.map Prod.fst))
  | closed name => some (.closed name)
  | content _ => none

/-- The tags among the tokens. -/
def tags (tokens : List Token) : List TagOutline :=
  tokens.filterMap Token.outline?

@[simp] theorem tags_append (first second : List Token) :
    tags (first ++ second) = tags first ++ tags second :=
  List.filterMap_append

@[simp] theorem tags_opened (name : String) (attributes : List (String × String))
    (rest : List Token) : tags (.opened name attributes :: rest) =
      .opened name (attributes.map Prod.fst) :: tags rest :=
  rfl

@[simp] theorem tags_closed (name : String) (rest : List Token) :
    tags (.closed name :: rest) = .closed name :: tags rest :=
  rfl

@[simp] theorem tags_content (text : String) (rest : List Token) :
    tags (.content text :: rest) = tags rest :=
  rfl

@[simp] theorem tags_nil : tags [] = [] :=
  rfl

/-- Text between tags holds no tags. -/
@[simp] theorem tags_contents (text : List Char) : tags (contents text) = [] := by
  unfold contents
  split <;> rfl

private theorem tags_decoded (tokens : List Token) :
    tags (tokens.map Token.decoded) = tags tokens := by
  have same : Token.outline? ∘ Token.decoded = Token.outline? := by
    funext token
    cases token with
    | opened name attributes => simp [Token.decoded, Token.outline?, Function.comp_def]
    | closed name => rfl
    | content text => rfl
  rw [tags, List.filterMap_map, same, tags]

private theorem map_decoded_contents (text : List Char) :
    (contents (body text)).map Token.decoded = contents text := by
  have empty : body text = [] ↔ text = [] := by
    refine ⟨fun nothing => ?_, fun nothing => by rw [nothing]; rfl⟩
    rw [← decode_body text, nothing, decode]
  unfold contents
  by_cases nothing : text = []
  · rw [if_pos nothing, if_pos (empty.mpr nothing), List.map_nil]
  · rw [if_neg nothing, if_neg (mt empty.mp nothing)]
    simp [Token.decoded, decode_body]

/-- An element with a text, as it is written. -/
def Tag.tokens (tag : Tag) (content : List Char) : List Token :=
  tag.token :: contents content ++ [.closed (String.ofList tag.name)]

private theorem Tag.decoded_token (tag : Tag) : tag.token.decoded =
    .opened (String.ofList tag.name)
      (tag.attributes.map fun pair => (String.ofList pair.1, String.ofList pair.2)) := by
  simp [Tag.token, Token.decoded, decode_value]

private theorem Tag.map_decoded_tokens (tag : Tag) (text : List Char) :
    (tag.tokens (body text)).map Token.decoded =
      .opened (String.ofList tag.name)
          (tag.attributes.map fun pair => (String.ofList pair.1, String.ofList pair.2)) ::
        contents text ++ [.closed (String.ofList tag.name)] := by
  have finish : Token.decoded (.closed (String.ofList tag.name)) =
      .closed (String.ofList tag.name) := rfl
  rw [Tag.tokens, List.map_append, List.map_cons, map_decoded_contents, decoded_token,
    List.map_singleton, finish]

end Html

/-- What a text with a link has besides the link: whether there is a title, and code for which
events. -/
structure LinkShape where
  titled : Bool
  events : List String
deriving DecidableEq, Repr

/-- What an element is, regardless of names, texts, links and places. -/
inductive ElementShape where
  | region
  | text (link : Option LinkShape)
deriving DecidableEq, Repr

namespace ElementShape

def tags : ElementShape → List TagOutline
  | region => [.opened "div" ["class", "data-entity", "style"], .closed "div"]
  | text none => [.opened "span" ["style"], .closed "span"]
  | text (some link) =>
    [.opened "a" (["href", "target"] ++ (if link.titled then ["title"] else []) ++ link.events ++
      ["style"]), .closed "a"]

/-- There is code for nothing but the events that links may carry code for. -/
def KnownEvents : ElementShape → Prop
  | region => True
  | text none => True
  | text (some link) => ∀ name ∈ link.events, name ∈ eventNames

instance : (shape : ElementShape) → Decidable shape.KnownEvents
  | region => inferInstanceAs (Decidable True)
  | text none => inferInstanceAs (Decidable True)
  | text (some link) => inferInstanceAs (Decidable (∀ name ∈ link.events, name ∈ eventNames))

end ElementShape

def Link.shape (link : Link) : LinkShape :=
  ⟨link.title.isSome, link.events.keys⟩

private theorem TextElement.tag_of_unlinked {text : TextElement} (unlinked : text.link = none) :
    text.tag = ⟨"span".toList, [("style".toList, text.style.toList)]⟩ := by
  rw [tag, unlinked]

private theorem TextElement.tag_of_linked {text : TextElement} {link : Link}
    (linked : text.link = some link) :
    text.tag = ⟨['a'], [("href".toList, link.href.toList), ("target".toList, link.target.toList)] ++
      link.title.toList.map (fun title => ("title".toList, title.toList)) ++
      link.events.entries.map (fun event => (event.1.toList, event.2.toList)) ++
      [("style".toList, text.style.toList)]⟩ := by
  rw [tag, linked]
  cases titled : link.title <;> simp [titled]

namespace OverlayElement

def shape : OverlayElement → ElementShape
  | region _ => .region
  | text t => .text (t.link.map Link.shape)

/-- What the HTML of an element stands for. -/
def markup : OverlayElement → List Token
  | region r =>
    [.opened "div" [("class", "canviz-region"), ("data-entity", r.name), ("style", r.style)],
      .closed "div"]
  | text t =>
    match t.link with
    | none => .opened "span" [("style", t.style)] :: contents t.text.toList ++ [.closed "span"]
    | some link =>
      .opened "a" ([("href", link.href), ("target", link.target)] ++
          link.title.toList.map (fun title => ("title", title)) ++ link.events.entries ++
          [("style", t.style)]) ::
        contents t.text.toList ++ [.closed "a"]

section Scanning

private theorem isName_of_mem_eventNames {name : String} (known : name ∈ eventNames) :
    IsName name.toList :=
  (by decide : ∀ name ∈ eventNames, IsName name.toList) name known

private theorem isNamed_tag {element : OverlayElement} (known : element.shape.KnownEvents) :
    element.tag.IsNamed := by
  cases element with
  | region r =>
    exact ⟨(by decide : IsName "div".toList),
      (by decide : ∀ name ∈ ["class".toList, "data-entity".toList, "style".toList], IsName name)⟩
  | text t =>
    change Tag.IsNamed t.tag
    cases linked : t.link with
    | none =>
      rw [TextElement.tag_of_unlinked linked]
      exact ⟨(by decide : IsName "span".toList),
        (by decide : ∀ name ∈ ["style".toList], IsName name)⟩
    | some link =>
      have used : ∀ name ∈ link.events.keys, name ∈ eventNames := by
        rw [shape, linked] at known
        exact known
      have event : ∀ pair ∈ link.events.entries, IsName pair.1.toList := fun pair member =>
        isName_of_mem_eventNames (used pair.1 (List.mem_map_of_mem member))
      have fixed : ∀ name ∈ ["href".toList, "target".toList, "title".toList, "style".toList],
          IsName name := by decide
      rw [TextElement.tag_of_linked linked]
      refine ⟨(by decide : IsName ['a']), List.forall_mem_map.mpr ?_⟩
      simp only [List.forall_mem_append, List.forall_mem_map, List.forall_mem_cons] at fixed ⊢
      obtain ⟨href, target, title, style, -⟩ := fixed
      exact ⟨⟨⟨⟨href, target, nofun⟩, fun _ _ => title⟩, event⟩, style, nofun⟩

/-- An element is scanned as what it was written from. -/
theorem scanFrom_html {element : OverlayElement} (known : element.shape.KnownEvents)
    (text rest : List Char) :
    scanFrom (.content text) (element.html ++ rest) =
      contents text ++ element.tag.tokens element.content ++ scanFrom (.content []) rest := by
  have named := isNamed_tag known
  have plain : '<' ∉ element.content := by
    cases element with
    | region r => exact List.not_mem_nil
    | text t => exact less_not_mem_body t.text.toList
  rw [html, List.append_assoc, List.append_assoc, scanFrom_open _ named,
    scanFrom_content _ plain, List.nil_append, scanFrom_close _ named]
  simp [Tag.tokens]

/-- Decoding the tokens of an element gives the markup that it was made from. -/
theorem map_decoded_tokens (element : OverlayElement) :
    (element.tag.tokens element.content).map Token.decoded = element.markup := by
  cases element with
  | region r =>
    refine (Tag.map_decoded_tokens r.tag []).trans ?_
    simp [markup, Region.tag, contents]
  | text t =>
    refine (Tag.map_decoded_tokens t.tag t.text.toList).trans ?_
    cases linked : t.link with
    | none => simp [markup, linked, TextElement.tag_of_unlinked linked]
    | some link => simp [markup, linked, TextElement.tag_of_linked linked, Function.comp_def]

/-- The tags of an element depend on its shape only. -/
theorem tags_markup (element : OverlayElement) : tags element.markup = element.shape.tags := by
  cases element with
  | region r => rfl
  | text t =>
    cases linked : t.link with
    | none => simp [markup, linked, shape, ElementShape.tags]
    | some link =>
      cases titled : link.title <;>
        simp [markup, linked, titled, shape, ElementShape.tags, Link.shape, OrderedMap.keys]

end Scanning

end OverlayElement

namespace Overlay

def shape (overlay : Overlay) : List ElementShape :=
  overlay.elements.map OverlayElement.shape

/-- What the HTML of an overlay stands for. -/
def markup (overlay : Overlay) : List Token :=
  .opened "div" [("class", "canviz-overlay"), ("style", "position:relative;width:" ++
      px overlay.width ++ ";height:" ++ px overlay.height)] ::
    overlay.elements.flatMap (fun element => .content "\n" :: element.markup) ++
    [.content "\n", .closed "div", .content "\n"]

private theorem scanFrom_elements {elements : List OverlayElement}
    (known : ∀ element ∈ elements, element.shape.KnownEvents) (rest : List Char) :
    scanFrom (.content []) (elements.flatMap (fun element => '\n' :: element.html) ++ rest) =
      elements.flatMap (fun element =>
        .content "\n" :: element.tag.tokens element.content) ++ scanFrom (.content []) rest := by
  induction elements with
  | nil => rfl
  | cons element elements ih =>
    have here : scanFrom (.content []) ('\n' :: (element.html ++ (elements.flatMap
        (fun element => '\n' :: element.html) ++ rest))) =
          contents ['\n'] ++ element.tag.tokens element.content ++ scanFrom (.content [])
            (elements.flatMap (fun element => '\n' :: element.html) ++ rest) :=
      OverlayElement.scanFrom_html (known element List.mem_cons_self) ['\n'] _
    rw [List.flatMap_cons, List.flatMap_cons, List.append_assoc, List.cons_append, here,
      ih fun other member => known other (List.mem_cons_of_mem _ member), List.append_assoc,
      List.append_assoc]
    rfl

private theorem scan_html {overlay : Overlay}
    (known : ∀ element ∈ overlay.shape, element.KnownEvents) :
    scan overlay.html = overlay.tag.token ::
      (overlay.elements.flatMap (fun element =>
        .content "\n" :: element.tag.tokens element.content) ++
        [.content "\n", .closed "div", .content "\n"]) := by
  have named : overlay.tag.IsNamed := ⟨(by decide : IsName "div".toList),
    (by decide : ∀ name ∈ ["class".toList, "style".toList], IsName name)⟩
  have written : overlay.html.toList = overlay.tag.open ++
      (overlay.elements.flatMap (fun element => '\n' :: element.html) ++
        '\n' :: (overlay.tag.close ++ ['\n'])) := by
    simp [html, htmlChars]
  have finish : scanFrom (.content []) ('\n' :: (overlay.tag.close ++ ['\n'])) =
      [.content "\n", .closed "div", .content "\n"] :=
    scanFrom_close ['\n'] named ['\n']
  rw [scan, written, scanFrom_open _ named, scanFrom_elements (List.forall_mem_map.mp known),
    finish]
  rfl

/-- Reading the HTML of an overlay gives what it stands for. -/
theorem map_decoded_scan_html {overlay : Overlay}
    (known : ∀ element ∈ overlay.shape, element.KnownEvents) :
    (scan overlay.html).map Token.decoded = overlay.markup := by
  have start : overlay.tag.token.decoded = .opened "div" [("class", "canviz-overlay"),
      ("style", "position:relative;width:" ++ px overlay.width ++ ";height:" ++
        px overlay.height)] := by
    rw [Tag.decoded_token]
    simp only [tag, List.map_cons, List.map_nil, String.ofList_toList]
  have inside (element : OverlayElement) :
      (.content "\n" :: element.tag.tokens element.content : List Token).map Token.decoded =
        .content "\n" :: element.markup := by
    rw [List.map_cons, OverlayElement.map_decoded_tokens]
    rfl
  rw [scan_html known, markup, List.map_cons, List.map_append, List.map_flatMap, start]
  simp only [inside]
  rfl

/-- The tags in the HTML of an overlay depend on its shape alone. -/
theorem tags_markup {first second : Overlay} (alike : first.shape = second.shape) :
    tags first.markup = tags second.markup := by
  have inside (overlay : Overlay) :
      tags (overlay.elements.flatMap fun element => .content "\n" :: element.markup) =
        overlay.shape.flatMap ElementShape.tags := by
    rw [tags, List.filterMap_flatMap, shape, List.flatMap_map]
    congr
    funext element
    exact element.tags_markup
  simp [markup, inside, alike]

/-- Overlays of the same shape have the same tags in their HTML, with the same attributes in the
same order, and reading it gives back the names, the links and the texts of each. -/
theorem scan_html_of_shape {first second : Overlay} (alike : first.shape = second.shape)
    (known : ∀ element ∈ first.shape, element.KnownEvents) :
    tags (scan first.html) = tags (scan second.html) ∧
      (scan first.html).map Token.decoded = first.markup ∧
      (scan second.html).map Token.decoded = second.markup := by
  have read := map_decoded_scan_html known
  have read' := map_decoded_scan_html (alike ▸ known)
  refine ⟨?_, read, read'⟩
  rw [← tags_decoded, read, tags_markup alike, ← read', tags_decoded]

/-- The names and texts of the second overlay try to add attributes, tags and references. -/
theorem scan_html_of_shape_hostile :
    let link (href code : String) : Link := ⟨href, "_self", none, .ofList [("onclick", code)]⟩
    let text (content href code : String) : TextElement :=
      ⟨.node ⟨0⟩, content, 0, 0, 9, 14, "serif", "#000000", 1.0, .left, some (link href code)⟩
    let first : Overlay :=
      ⟨9, 9, [.region ⟨.node ⟨0⟩, "a", 0, 0, 9, 9⟩, .text (text "plain" "x.html" "go()")]⟩
    let second : Overlay :=
      ⟨9, 9, [.region ⟨.node ⟨0⟩, "\" onclick=\"go()", 0, 0, 9, 9⟩,
        .text (text "</a>  <b>&nbsp;" "\"><i>&quot;" "a < \"b\" && c")]⟩
    tags (scan first.html) = tags (scan second.html) ∧
      (scan first.html).map Token.decoded = first.markup ∧
      (scan second.html).map Token.decoded = second.markup := by
  intro link text first second
  have alike : first.shape = second.shape := by decide
  have known : ∀ element ∈ first.shape, element.KnownEvents := by decide
  exact scan_html_of_shape alike known

end Overlay

end XdotViewer
