import XdotViewer.Proofs.Overlay.Escapes

/-! # Scanning HTML

HTML is scanned one character after the other, with a state for each place in and between tags
where a character can stand. What an overlay writes is scanned as the tags and texts that it was
written from, with the character references still in them.
-/

namespace XdotViewer.Html

/-- What a scanner finds. -/
inductive Token where
  | opened (name : String) (attributes : List (String × String))
  | closed (name : String)
  | content (text : String)
deriving DecidableEq, Repr

/-- The text between two tags, if there is any. -/
def contents (text : List Char) : List Token :=
  if text = [] then [] else [.content (String.ofList text)]

/-- A tag that has begun. -/
structure Partial where
  closing : Bool
  name : List Char
  attributes : List (List Char × List Char)

namespace Partial

def add (tag : Partial) (name value : List Char) : Partial :=
  { tag with attributes := tag.attributes ++ [(name, value)] }

def token (tag : Partial) : Token :=
  if tag.closing then .closed (String.ofList tag.name)
  else .opened (String.ofList tag.name)
    (tag.attributes.map fun pair => (String.ofList pair.1, String.ofList pair.2))

end Partial

/-- Where a scanner is, with what it has read there. -/
inductive ScanState where
  | content (text : List Char)
  /-- After the sign that begins a tag; the text before it goes on unless a tag follows. -/
  | less (text : List Char)
  | slash (text : List Char)
  /-- In a comment or a declaration. -/
  | declaration
  | tagName (tag : Partial)
  | beforeAttribute (tag : Partial)
  | attributeName (tag : Partial) (name : List Char)
  | afterAttribute (tag : Partial) (name : List Char)
  | beforeValue (tag : Partial) (name : List Char)
  | quoted (mark : Char) (tag : Partial) (name value : List Char)
  | unquoted (tag : Partial) (name value : List Char)
  | afterValue (tag : Partial)

def isTagSpace (c : Char) : Bool :=
  c == ' ' || c == '\t' || c == '\n' || c == '\x0c'

/-- What comes between the attributes of a tag. -/
def Partial.next (tag : Partial) (c : Char) : List Token × ScanState :=
  if c = '>' then ([tag.token], .content [])
  else if isTagSpace c || c == '/' then ([], .beforeAttribute tag)
  else ([], .attributeName tag [c])

namespace ScanState

/-- What a character completes, and where it leads. -/
def step : ScanState → Char → List Token × ScanState
  | content text, c => ([], if c = '<' then less text else content (text ++ [c]))
  | less text, c =>
    if c.isAlpha then (contents text, tagName ⟨false, [c], []⟩)
    else if c = '/' then ([], slash text)
    else if c = '!' || c = '?' then (contents text, declaration)
    else if c = '<' then ([], less (text ++ ['<']))
    else ([], content (text ++ ['<', c]))
  | slash text, c =>
    if c.isAlpha then (contents text, tagName ⟨true, [c], []⟩)
    else if c = '>' then ([], content text)
    else (contents text, declaration)
  | declaration, c => ([], if c = '>' then content [] else declaration)
  | tagName tag, c =>
    if c = '>' || isTagSpace c || c == '/' then tag.next c
    else ([], tagName { tag with name := tag.name ++ [c] })
  | beforeAttribute tag, c => tag.next c
  | attributeName tag name, c =>
    if c = '=' then ([], beforeValue tag name)
    else if isTagSpace c then ([], afterAttribute tag name)
    else if c = '>' || c = '/' then (tag.add name []).next c
    else ([], attributeName tag (name ++ [c]))
  | afterAttribute tag name, c =>
    if c = '=' then ([], beforeValue tag name)
    else if isTagSpace c then ([], afterAttribute tag name)
    else (tag.add name []).next c
  | beforeValue tag name, c =>
    if isTagSpace c then ([], beforeValue tag name)
    else if c = '"' || c = '\x27' then ([], quoted c tag name [])
    else if c = '>' then ([(tag.add name []).token], content [])
    else ([], unquoted tag name [c])
  | quoted mark tag name value, c =>
    ([], if c = mark then afterValue (tag.add name value) else quoted mark tag name (value ++ [c]))
  | unquoted tag name value, c =>
    if c = '>' || isTagSpace c then (tag.add name value).next c
    else ([], unquoted tag name (value ++ [c]))
  | afterValue tag, c => tag.next c

/-- What is left at the end; a tag that has not ended is dropped. -/
def finish : ScanState → List Token
  | content text => contents text
  | less text => contents (text ++ ['<'])
  | slash text => contents (text ++ ['<', '/'])
  | _ => []

end ScanState

def scanFrom : ScanState → List Char → List Token
  | state, [] => state.finish
  | state, c :: rest => (state.step c).1 ++ scanFrom (state.step c).2 rest

def scan (html : String) : List Token :=
  scanFrom (.content []) html.toList

/-- The characters of names: they end no name and begin nothing else. -/
def isNameChar (c : Char) : Bool :=
  c.isAlpha || c == '-'

def IsName : List Char → Prop
  | [] => False
  | first :: rest => first.isAlpha = true ∧ rest.all isNameChar = true

instance : (name : List Char) → Decidable (IsName name)
  | [] => inferInstanceAs (Decidable False)
  | first :: rest =>
    inferInstanceAs (Decidable (first.isAlpha = true ∧ rest.all isNameChar = true))

section Names

private theorem isNameChar_of_isAlpha {c : Char} (letter : c.isAlpha = true) :
    isNameChar c = true := by
  rw [isNameChar, letter, Bool.true_or]

/-- No sign with a meaning inside tags can stand in a name. -/
theorem ne_of_isNameChar {c sign : Char} (named : isNameChar c = true)
    (other : isNameChar sign = false) : c ≠ sign := by
  rintro rfl
  rw [named] at other
  cases other

private theorem isTagSpace_eq_false {c : Char} (named : isNameChar c = true) :
    isTagSpace c = false := by
  have other {sign : Char} (unnamed : isNameChar sign = false) : (c == sign) = false :=
    beq_eq_false_iff_ne.mpr (ne_of_isNameChar named unnamed)
  rw [isTagSpace, other (by decide), other (by decide), other (by decide), other (by decide)]
  rfl

private theorem step_tagName {c : Char} (named : isNameChar c = true) (tag : Partial) :
    (ScanState.tagName tag).step c = ([], .tagName { tag with name := tag.name ++ [c] }) := by
  have ends : c ≠ '>' := ne_of_isNameChar named (by decide)
  have slash : c ≠ '/' := ne_of_isNameChar named (by decide)
  simp [ScanState.step, ends, slash, isTagSpace_eq_false named]

private theorem step_attributeName {c : Char} (named : isNameChar c = true) (tag : Partial)
    (name : List Char) :
    (ScanState.attributeName tag name).step c = ([], .attributeName tag (name ++ [c])) := by
  have equals : c ≠ '=' := ne_of_isNameChar named (by decide)
  have ends : c ≠ '>' := ne_of_isNameChar named (by decide)
  have slash : c ≠ '/' := ne_of_isNameChar named (by decide)
  simp [ScanState.step, equals, ends, slash, isTagSpace_eq_false named]

end Names

section Scanning

variable {tag : Partial} (rest : List Char)

/-- Text without an opening bracket is collected. -/
theorem scanFrom_content {chars : List Char} (plain : '<' ∉ chars) (text : List Char) :
    scanFrom (.content text) (chars ++ rest) = scanFrom (.content (text ++ chars)) rest := by
  induction chars generalizing text with
  | nil => simp
  | cons c chars ih =>
    obtain ⟨here, later⟩ : '<' ≠ c ∧ '<' ∉ chars := by simpa using plain
    rw [List.cons_append, scanFrom, ScanState.step, if_neg here.symm]
    exact (ih later _).trans (by rw [List.append_assoc, List.singleton_append])

private theorem scanFrom_tagName {chars : List Char} (named : chars.all isNameChar = true)
    (tag : Partial) : scanFrom (.tagName tag) (chars ++ rest) =
      scanFrom (.tagName { tag with name := tag.name ++ chars }) rest := by
  induction chars generalizing tag with
  | nil => simp
  | cons c chars ih =>
    obtain ⟨here, later⟩ := (Bool.and_eq_true _ _).mp named
    rw [List.cons_append, scanFrom, step_tagName here]
    refine (ih later _).trans ?_
    rw [List.append_assoc, List.singleton_append]

private theorem scanFrom_attributeName {chars : List Char} (named : chars.all isNameChar = true)
    (name : List Char) : scanFrom (.attributeName tag name) (chars ++ rest) =
      scanFrom (.attributeName tag (name ++ chars)) rest := by
  induction chars generalizing name with
  | nil => simp
  | cons c chars ih =>
    obtain ⟨here, later⟩ := (Bool.and_eq_true _ _).mp named
    rw [List.cons_append, scanFrom, step_attributeName here]
    refine (ih later _).trans ?_
    rw [List.append_assoc, List.singleton_append]

private theorem scanFrom_quoted {chars : List Char} (inside : '"' ∉ chars)
    (name value : List Char) :
    scanFrom (.quoted '"' tag name value) (chars ++ '"' :: rest) =
      scanFrom (.afterValue (tag.add name (value ++ chars))) rest := by
  induction chars generalizing value with
  | nil => simp [scanFrom, ScanState.step]
  | cons c chars ih =>
    obtain ⟨here, later⟩ : '"' ≠ c ∧ '"' ∉ chars := by simpa using inside
    rw [List.cons_append, scanFrom, ScanState.step, if_neg here.symm]
    exact (ih later _).trans (by rw [List.append_assoc, List.singleton_append])

/-- An attribute as it is written is scanned as one, whatever its value. -/
theorem scanFrom_writeAttribute {pair : List Char × List Char} (named : IsName pair.1) :
    scanFrom (.afterValue tag) (writeAttribute pair ++ rest) =
      scanFrom (.afterValue (tag.add pair.1 (pair.2.flatMap escapeAttribute))) rest := by
  obtain ⟨name, value⟩ := pair
  cases name with
  | nil => cases named
  | cons first name =>
    have letter := isNameChar_of_isAlpha named.1
    have begins : tag.next first = ([], .attributeName tag [first]) := by
      have ends : first ≠ '>' := ne_of_isNameChar letter (by decide)
      have slash : first ≠ '/' := ne_of_isNameChar letter (by decide)
      simp [Partial.next, ends, slash, isTagSpace_eq_false letter]
    have written : writeAttribute (first :: name, value) ++ rest =
        ' ' :: first :: (name ++ '=' :: '"' :: (value.flatMap escapeAttribute ++ '"' :: rest)) := by
      simp [writeAttribute]
    calc scanFrom (.afterValue tag) (writeAttribute (first :: name, value) ++ rest)
      _ = scanFrom (.beforeAttribute tag)
          (first :: (name ++ '=' :: '"' :: (value.flatMap escapeAttribute ++ '"' :: rest))) := by
        rw [written]
        rfl
      _ = scanFrom (.attributeName tag [first])
          (name ++ '=' :: '"' :: (value.flatMap escapeAttribute ++ '"' :: rest)) := by
        rw [scanFrom, ScanState.step, begins, List.nil_append]
      _ = scanFrom (.quoted '"' tag (first :: name) [])
          (value.flatMap escapeAttribute ++ '"' :: rest) := by
        rw [scanFrom_attributeName _ named.2]
        rfl
      _ = _ := by
        rw [scanFrom_quoted rest (quote_not_mem_value value), List.nil_append]

end Scanning

/-- The token of a tag as it is written. -/
def Tag.token (tag : Tag) : Token :=
  .opened (String.ofList tag.name) (tag.attributes.map fun pair =>
    (String.ofList pair.1, String.ofList (pair.2.flatMap escapeAttribute)))

structure Tag.IsNamed (tag : Tag) : Prop where
  name : IsName tag.name
  attributes : ∀ name ∈ tag.attributes.map Prod.fst, IsName name

section Tags

variable (rest : List Char)

private theorem scanFrom_attributes {pairs : List (List Char × List Char)}
    (named : ∀ pair ∈ pairs, IsName pair.1) (tag : Partial) :
    scanFrom (.afterValue tag) (pairs.flatMap writeAttribute ++ '>' :: rest) =
      { tag with attributes := tag.attributes ++
          pairs.map fun pair => (pair.1, pair.2.flatMap escapeAttribute) : Partial }.token ::
        scanFrom (.content []) rest := by
  induction pairs generalizing tag with
  | nil => simp [scanFrom, ScanState.step, Partial.next]
  | cons pair pairs ih =>
    rw [List.flatMap_cons, List.append_assoc,
      scanFrom_writeAttribute _ (named pair List.mem_cons_self),
      ih fun other member => named other (List.mem_cons_of_mem _ member)]
    simp [Partial.add]

/-- An opening tag is scanned as one token. -/
theorem scanFrom_open {tag : Tag} (named : tag.IsNamed) (text : List Char) :
    scanFrom (.content text) (tag.open ++ rest) =
      contents text ++ tag.token :: scanFrom (.content []) rest := by
  obtain ⟨name, attributes⟩ := tag
  obtain ⟨nameNamed, attributesNamed⟩ := named
  cases name with
  | nil => cases nameNamed
  | cons first name =>
    have begins : (ScanState.less text).step first =
        (contents text, .tagName ⟨false, [first], []⟩) := by
      simp [ScanState.step, nameNamed.1]
    -- The name ends at the blank of an attribute or at the end of the tag, as a value does.
    have ended (tag : Partial) : scanFrom (.tagName tag)
        (attributes.flatMap writeAttribute ++ '>' :: rest) =
          scanFrom (.afterValue tag) (attributes.flatMap writeAttribute ++ '>' :: rest) := by
      cases attributes <;> rfl
    have written : (Tag.open ⟨first :: name, attributes⟩) ++ rest =
        '<' :: first :: (name ++ (attributes.flatMap writeAttribute ++ '>' :: rest)) := by
      simp [Tag.open]
    rw [written]
    change scanFrom (.less text) (first :: _) = _
    rw [scanFrom, begins, scanFrom_tagName _ nameNamed.2, ended,
      scanFrom_attributes rest (List.forall_mem_map.mp attributesNamed)]
    simp [Partial.token, Tag.token]

/-- A closing tag is scanned as one token. -/
theorem scanFrom_close {tag : Tag} (named : tag.IsNamed) (text : List Char) :
    scanFrom (.content text) (tag.close ++ rest) =
      contents text ++ .closed (String.ofList tag.name) :: scanFrom (.content []) rest := by
  obtain ⟨name, attributes⟩ := tag
  have nameNamed := named.name
  cases name with
  | nil => cases nameNamed
  | cons first name =>
    have begins : (ScanState.slash text).step first =
        (contents text, .tagName ⟨true, [first], []⟩) := by
      simp [ScanState.step, nameNamed.1]
    have written : (Tag.close ⟨first :: name, attributes⟩) ++ rest =
        '<' :: '/' :: first :: (name ++ '>' :: rest) := by
      simp [Tag.close]
    rw [written]
    change scanFrom (.slash text) (first :: _) = _
    rw [scanFrom, begins, scanFrom_tagName _ nameNamed.2]
    rfl

end Tags
end XdotViewer.Html
