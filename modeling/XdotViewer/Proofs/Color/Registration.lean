import Mathlib.Data.List.TakeDrop
import XdotViewer.Proofs.Color.CaseBlind

/-! # What palettes know

The tables of palettes are made by registrations, one after the other. Of all values that were ever
registered under a scheme and a name, in letters of either case, the last one counts; a literal that
means none of them is black and reported.
-/

namespace XdotViewer

/-- Of the entries inserted with a key the last one counts, and a value from before if there is
none. -/
theorem OrderedMap.get?_insertAll {κ ν : Type} [DecidableEq κ] (map : OrderedMap κ ν)
    (entries : List (κ × ν)) (key : κ) : (map.insertAll entries).get? key =
      ((entries.filter fun entry => entry.1 = key).map Prod.snd).getLast?.or (map.get? key) := by
  induction entries generalizing map with
  | nil => rfl
  | cons entry rest ih =>
    refine (ih (map.insert entry.1 entry.2)).trans ?_
    rw [get?_insert]
    by_cases same : entry.1 = key
    · simp [same, List.getLast?_cons, Option.or_some]
    · simp [same]

namespace Palettes

/-- Names and their colors for a scheme. -/
structure Registration where
  scheme : String
  entries : List (String × String)

/-- Makes registrations one after the other. -/
def registerAll (palettes : Palettes) (calls : List Registration) : Palettes :=
  calls.foldl (fun palettes call => palettes.register call.scheme call.entries) palettes

/-- The names that all palettes know. -/
def fallback : Registration :=
  ⟨fallbackScheme, [("black", "000000"), ("lightgrey", "d3d3d3"), ("white", "ffffff")]⟩

/-- The registrations that palettes begin with: the fallback scheme, and `x11` or not. -/
inductive Beginning : Palettes → List Registration → Prop
  | minimal : Beginning .minimal [fallback]
  | standard : Beginning .standard [fallback, ⟨defaultScheme, Palette.x11⟩]

/-- All values registered under a scheme and a name in letters of either case, the oldest first. -/
def values (history : List Registration) (scheme name : String) : List String :=
  history.flatMap fun call =>
    if lowerCase call.scheme = lowerCase scheme then
      (call.entries.filter fun entry => lowerCase entry.1 = lowerCase name).map Prod.snd
    else []

/-- A value with a number sign in front: its own, or else a new one. -/
def withSign : List Char → List Char
  | '#' :: text => '#' :: text
  | text => '#' :: text

variable {palettes : Palettes} {history calls : List Registration} {scheme name literal : String}
  {given : Option String}

private theorem values_cons (call : Registration) (calls : List Registration)
    (scheme name : String) :
    values (call :: calls) scheme name = values [call] scheme name ++ values calls scheme name := by
  simp [values]

private theorem entry?_register (palettes : Palettes) (call : Registration) (scheme name : String) :
    entry? (palettes.register call.scheme call.entries) (lowerCase scheme) (lowerCase name) =
      ((values [call] scheme name).getLast?.map entryText).or
        (palettes.entry? (lowerCase scheme) (lowerCase name)) := by
  have table : ((palettes.schemes.get? (lowerCase scheme)).getD ∅).get? (lowerCase name) =
      entry? palettes (lowerCase scheme) (lowerCase name) := by
    cases known : palettes.schemes.get? (lowerCase scheme) <;> simp [known, entry?]
  have here : values [call] scheme name = if lowerCase call.scheme = lowerCase scheme then
      (call.entries.filter fun entry => lowerCase entry.1 = lowerCase name).map Prod.snd else [] :=
    List.append_nil _
  rw [here, register, entry?, OrderedMap.get?_insert]
  split
  · rename_i same
    rw [same, Option.bind_some, OrderedMap.get?_insertAll, table, List.filter_map, List.map_map,
      ← List.getLast?_map, List.map_map]
    rfl
  · rfl

private theorem entry?_registerAll (palettes : Palettes) (calls : List Registration)
    (scheme name : String) :
    entry? (palettes.registerAll calls) (lowerCase scheme) (lowerCase name) =
      ((values calls scheme name).getLast?.map entryText).or
        (palettes.entry? (lowerCase scheme) (lowerCase name)) := by
  induction calls generalizing palettes with
  | nil => rfl
  | cons call calls ih =>
    refine (ih (palettes.register call.scheme call.entries)).trans ?_
    rw [entry?_register, values_cons call calls, List.getLast?_append, Option.map_or,
      Option.or_assoc]

private theorem hasScheme_registerAll (palettes : Palettes) (calls : List Registration)
    (scheme : String) :
    (palettes.registerAll calls).hasScheme scheme = true ↔ palettes.hasScheme scheme = true ∨
      ∃ call ∈ calls, lowerCase call.scheme = lowerCase scheme := by
  induction calls generalizing palettes with
  | nil => simp [registerAll]
  | cons call calls ih =>
    have here : (palettes.register call.scheme call.entries).hasScheme scheme = true ↔
        palettes.hasScheme scheme = true ∨ lowerCase call.scheme = lowerCase scheme := by
      simp only [hasScheme, OrderedMap.contains, register, OrderedMap.get?_insert]
      by_cases same : lowerCase call.scheme = lowerCase scheme <;> simp [same]
    refine (ih (palettes.register call.scheme call.entries)).trans ?_
    rw [here, or_assoc]
    simp only [List.mem_cons, exists_eq_or_imp]

/-- What palettes begin with is registered as everything else is. -/
theorem Beginning.registerAll_eq (begins : Beginning palettes history) :
    palettes.registerAll calls = registerAll ⟨∅⟩ (history ++ calls) := by
  rw [registerAll, registerAll, List.foldl_append]
  cases begins <;> rfl

/-- The reader sees the number sign and the small letters of what is kept as it sees the value. -/
theorem parseHex?_entryText (value : String) :
    Color.parseHex? ('#' :: (entryText value).toList) =
      Color.parseHex? (withSign value.toList) := by
  have small (text : List Char) :
      Color.parseHex? ('#' :: (lowerCase (String.ofList text)).toList) =
        Color.parseHex? ('#' :: text) := by
    rw [lowerCase, String.toList_ofList, String.toList_ofList]
    exact Color.parseHex?_after [] text
  by_cases signed : ∃ rest, value.toList = '#' :: rest
  · obtain ⟨rest, whole⟩ := signed
    have kept : entryText value = lowerCase (String.ofList rest) := by
      simp only [entryText, whole]
    rw [kept, whole]
    exact small rest
  · have bare (rest : List Char) : value.toList ≠ '#' :: rest := fun whole => signed ⟨rest, whole⟩
    have kept : entryText value = lowerCase value := by
      unfold entryText
      split
      · rename_i rest whole
        exact absurd whole (bare rest)
      · rfl
    have added : withSign value.toList = '#' :: value.toList := by
      unfold withSign
      split
      · rename_i rest whole
        exact absurd whole (bare rest)
      · rfl
    have here := small value.toList
    rwa [String.ofList_toList, ← kept, ← added] at here

/-- The scheme of names that are not qualified. -/
inductive AtHand : Option String → String → Prop
  | absent : AtHand none defaultScheme
  | empty : AtHand (some "") defaultScheme
  | given {scheme : String} : scheme ≠ "" → AtHand (some scheme) scheme

/-- The scheme and the name that a literal means. -/
inductive Qualified (given : Option String) : String → String → String → Prop
  | bare {literal scheme : String} : (∀ text, literal.toList ≠ '/' :: text) → AtHand given scheme →
    Qualified given literal scheme literal
  | byDefault {name : List Char} : '/' ∉ name →
    Qualified given (.ofList ('/' :: name)) defaultScheme (.ofList name)
  | unnamed {scheme : String} {name : List Char} : '/' ∉ name → AtHand given scheme →
    Qualified given (.ofList ('/' :: '/' :: name)) scheme (.ofList name)
  | named {scheme name : List Char} : scheme ≠ [] → '/' ∉ name →
    Qualified given (.ofList ('/' :: (scheme ++ '/' :: name))) (.ofList scheme) (.ofList name)

private theorem ne_slash_of_mem_reverse {text : List Char} (absent : '/' ∉ text) :
    ∀ c ∈ text.reverse, (c != '/') = true := by
  intro c member
  rw [bne_iff_ne]
  rintro rfl
  exact absent (List.mem_reverse.mp member)

private theorem splitLastSlash_of_not_mem {text : List Char} (absent : '/' ∉ text) :
    splitLastSlash text = none := by
  have none : text.reverse.dropWhile (· != '/') = [] :=
    List.dropWhile_eq_nil_iff.mpr (ne_slash_of_mem_reverse absent)
  rw [splitLastSlash, List.span_eq_takeWhile_dropWhile, none]

private theorem splitLastSlash_append {name : List Char} (absent : '/' ∉ name)
    (before : List Char) :
    splitLastSlash (before ++ '/' :: name) = some (before, name) := by
  have plain := ne_slash_of_mem_reverse absent
  have reversed : (before ++ '/' :: name).reverse = name.reverse ++ '/' :: before.reverse := by
    simp
  rw [splitLastSlash, reversed, List.span_eq_takeWhile_dropWhile,
    List.takeWhile_append_of_pos plain, List.dropWhile_append_of_pos plain]
  simp

private theorem exists_last_slash {text : List Char} (slash : '/' ∈ text) :
    ∃ before name, text = before ++ '/' :: name ∧ '/' ∉ name := by
  obtain ⟨last, before, whole, absent⟩ :=
    List.eq_append_cons_of_mem (List.mem_reverse.mpr slash)
  refine ⟨before.reverse, last.reverse, ?_, by simpa using absent⟩
  rw [← List.reverse_reverse text, whole]
  simp

private theorem exists_atHand (given : Option String) : ∃ scheme, AtHand given scheme := by
  match given with
  | none => exact ⟨_, .absent⟩
  | some scheme =>
    by_cases empty : scheme = ""
    · subst empty
      exact ⟨_, .empty⟩
    · exact ⟨scheme, .given empty⟩

private theorem exists_qualified (given : Option String) (literal : String) :
    ∃ scheme name, Qualified given literal scheme name := by
  obtain ⟨current, atHand⟩ := exists_atHand given
  by_cases slash : ∃ text, literal.toList = '/' :: text
  · obtain ⟨text, whole⟩ := slash
    rw [← String.ofList_toList (s := literal), whole]
    by_cases more : '/' ∈ text
    · obtain ⟨scheme, name, rfl, last⟩ := exists_last_slash more
      cases scheme with
      | nil => exact ⟨_, _, .unnamed last atHand⟩
      | cons c scheme => exact ⟨_, _, .named (List.cons_ne_nil c scheme) last⟩
    · exact ⟨_, _, .byDefault more⟩
  · exact ⟨_, _, .bare (fun text whole => slash ⟨text, whole⟩) atHand⟩

private theorem Qualified.qualify_eq (qualified : Qualified given literal scheme name) :
    qualify literal given = (scheme, name) := by
  cases qualified with
  | bare plain atHand =>
    cases atHand with
    | absent => simp [qualify]
    | empty => simp [qualify]
    | given filled => simp [qualify, filled]
  | byDefault last => simp only [qualify, String.toList_ofList, splitLastSlash_of_not_mem last]
  | unnamed last atHand =>
    have split := splitLastSlash_append last []
    rw [List.nil_append] at split
    simp only [qualify, String.toList_ofList, split, List.isEmpty_nil, if_true]
    cases atHand with
    | absent => rfl
    | empty => rfl
    | given filled => simp [filled]
  | named filled last => simp [qualify, splitLastSlash_append last, filled]

/-- The literal is neither a hexadecimal color nor a triple. -/
structure Unwritten (literal : String) : Prop where
  formless : ∀ color, ¬ Color.HexForm literal.toList color
  single : Hsv.triple? literal.toList = none

/-- What a literal comes to: its color without a report, or black, with a report of the color that
comes after one of the scheme if nothing was ever registered under it. -/
inductive Outcome (palettes : Palettes) (history : List Registration) (given : Option String)
    (literal : String) : Color → List Diagnostic → Prop
  | hexadecimal {color : Color} : Color.HexForm literal.toList color → Outcome _ _ _ _ color []
  | triple {hue saturation value : Float} :
    Hsv.triple? literal.toList = some (hue, saturation, value) →
    Outcome _ _ _ _ (Color.ofHsv hue saturation value) []
  | name {scheme name : String} {color : Color} : Unwritten literal →
    Qualified given literal scheme name → palettes.lookup scheme name = some color →
    Outcome _ _ _ _ color []
  | unknown {scheme name : String} : Unwritten literal → Qualified given literal scheme name →
    palettes.lookup scheme name = none →
    (∃ call ∈ history, lowerCase call.scheme = lowerCase scheme) →
    Outcome _ _ _ _ .black [.unknownColor literal scheme]
  | strange {scheme name : String} : Unwritten literal → Qualified given literal scheme name →
    palettes.lookup scheme name = none →
    (∀ call ∈ history, lowerCase call.scheme ≠ lowerCase scheme) →
    Outcome _ _ _ _ .black [.unknownScheme scheme, .unknownColor literal scheme]

private theorem written?_of_hexForm {literal : List Char} {color : Color}
    (form : Color.HexForm literal color) : written? literal = some color := by
  rw [written?, if_pos (Color.isHexLiteral_iff.mpr ⟨color, form⟩), (Color.hexForm_iff.mp form).1]
  rfl

private theorem written?_of_formless {literal : List Char}
    (formless : ∀ color, ¬ Color.HexForm literal color) :
    written? literal =
      (Hsv.triple? literal).map fun (h, s, v) => Color.ofHsv h s v := by
  have refused : ¬ Color.isHexLiteral literal = true := fun accepted => by
    obtain ⟨color, form⟩ := Color.isHexLiteral_iff.mp accepted
    exact formless color form
  rw [written?, if_neg refused]
  rfl

/-- No triple begins with a number sign. -/
theorem not_hexForm_of_triple? {literal : List Char} {triple : Float × Float × Float}
    (read : Hsv.triple? literal = some triple) (color : Color) : ¬ Color.HexForm literal color := by
  rintro ⟨-, -⟩
  exact absurd (Hsv.isTripleChar_of_triple? read '#' List.mem_cons_self) (by decide)

private theorem Unwritten.written?_eq (unwritten : Unwritten literal) :
    written? literal.toList = none := by
  rw [written?_of_formless unwritten.formless, unwritten.single, Option.map_none]

private theorem exists_outcome (palettes : Palettes) (history : List Registration)
    (given : Option String)
    (literal : String) :
    ∃ color reports, Outcome palettes history given literal color reports := by
  by_cases form : ∃ color, Color.HexForm literal.toList color
  · obtain ⟨color, form⟩ := form
    exact ⟨_, _, .hexadecimal form⟩
  cases read : Hsv.triple? literal.toList with
  | some triple => exact ⟨_, _, .triple read⟩
  | none =>
    have unwritten : Unwritten literal := ⟨fun color found => form ⟨color, found⟩, read⟩
    obtain ⟨scheme, name, qualified⟩ := exists_qualified given literal
    cases found : palettes.lookup scheme name with
    | some color => exact ⟨_, _, .name unwritten qualified found⟩
    | none =>
      by_cases known : ∃ call ∈ history, lowerCase call.scheme = lowerCase scheme
      · exact ⟨_, _, .unknown unwritten qualified found known⟩
      · exact ⟨_, _, .strange unwritten qualified found
          fun call member same => known ⟨call, member, same⟩⟩

private theorem Outcome.resolve_eq (registered : ∀ scheme, palettes.hasScheme scheme = true ↔
      ∃ call ∈ history, lowerCase call.scheme = lowerCase scheme) {color : Color}
    {reports : List Diagnostic} (outcome : Outcome palettes history given literal color reports) :
    palettes.resolve literal given = (color, reports) := by
  cases outcome with
  | hexadecimal form => rw [resolve, written?_of_hexForm form]
  | triple read =>
    rw [resolve, written?_of_formless (not_hexForm_of_triple? read), read, Option.map_some]
  | name unwritten qualified found =>
    rw [resolve, unwritten.written?_eq, qualified.qualify_eq]
    simp only [found]
  | unknown unwritten qualified missing known =>
    rw [resolve, unwritten.written?_eq, qualified.qualify_eq]
    simp only [missing, (registered _).mpr known, if_true]
  | strange unwritten qualified missing strange =>
    rw [resolve, unwritten.written?_eq, qualified.qualify_eq]
    have absent : ¬ palettes.hasScheme _ = true := fun known => by
      obtain ⟨call, member, same⟩ := (registered _).mp known
      exact strange call member same
    simp only [missing, if_neg absent]

private theorem resolve_eq_iff (registered : ∀ scheme, palettes.hasScheme scheme = true ↔
      ∃ call ∈ history, lowerCase call.scheme = lowerCase scheme) {color : Color}
    {reports : List Diagnostic} : palettes.resolve literal given = (color, reports) ↔
      Outcome palettes history given literal color reports := by
  constructor
  · intro same
    obtain ⟨color', reports', outcome⟩ := exists_outcome palettes history given literal
    cases same.symm.trans (outcome.resolve_eq registered)
    exact outcome
  · exact Outcome.resolve_eq registered

section Case

variable {literal' : String} {given' : Option String}

private theorem AtHand.recased (atHand : AtHand given scheme)
    (schemes : Option.Rel Recased given given') :
    ∃ scheme', AtHand given' scheme' ∧ Recased scheme scheme' := by
  have empty {a b : String} (recased : Recased a b) : a = "" ↔ b = "" := by
    rw [← String.toList_eq_nil_iff, ← String.toList_eq_nil_iff, ← List.map_eq_nil_iff, recased,
      List.map_eq_nil_iff]
  cases atHand with
  | absent =>
    cases schemes
    exact ⟨_, .absent, rfl⟩
  | empty =>
    cases schemes with
    | some recased =>
      obtain rfl := (empty recased).mp rfl
      exact ⟨_, .empty, rfl⟩
  | given filled =>
    cases schemes with
    | some recased => exact ⟨_, .given (mt (empty recased).mpr filled), recased⟩

private theorem slash_toLower (c : Char) : c.toLower = '/' ↔ c = '/' :=
  toLower_eq_iff (by decide) c

private theorem exists_slash_of_map_eq {text other : List Char}
    (same : ('/' :: text).map Char.toLower = other.map Char.toLower) :
    ∃ rest, other = '/' :: rest ∧ text.map Char.toLower = rest.map Char.toLower := by
  obtain ⟨c, rest, rfl, slash, later⟩ := List.map_eq_cons_iff.mp same.symm
  rw [(slash_toLower c).mp slash]
  exact ⟨rest, rfl, later.symm⟩

private theorem slash_not_mem_of_map_eq {text other : List Char} (absent : '/' ∉ text)
    (same : text.map Char.toLower = other.map Char.toLower) : '/' ∉ other := by
  intro member
  have small : '/' ∈ text.map Char.toLower := same ▸ List.mem_map.mpr ⟨'/', member, rfl⟩
  obtain ⟨c, there, slash⟩ := List.mem_map.mp small
  exact absent ((slash_toLower c).mp slash ▸ there)

private theorem recased_ofList {text other : List Char}
    (same : text.map Char.toLower = other.map Char.toLower) :
    Recased (.ofList text) (.ofList other) := by
  rwa [Recased, String.toList_ofList, String.toList_ofList]

private theorem Qualified.recased (qualified : Qualified given literal scheme name)
    (schemes : Option.Rel Recased given given') (same : Recased literal literal') :
    ∃ scheme' name', Qualified given' literal' scheme' name' ∧ Recased scheme scheme' ∧
      Recased name name' := by
  cases qualified with
  | bare plain atHand =>
    obtain ⟨scheme', atHand', recased⟩ := atHand.recased schemes
    refine ⟨scheme', literal', .bare (fun text whole => ?_) atHand', recased, same⟩
    rw [Recased, whole] at same
    obtain ⟨rest, slash, -⟩ := exists_slash_of_map_eq same.symm
    exact plain rest slash
  | byDefault last =>
    rw [Recased, String.toList_ofList] at same
    obtain ⟨name', whole, same⟩ := exists_slash_of_map_eq same
    rw [← String.ofList_toList (s := literal'), whole]
    exact ⟨_, _, .byDefault (slash_not_mem_of_map_eq last same), rfl, recased_ofList same⟩
  | unnamed last atHand =>
    obtain ⟨scheme', atHand', recased⟩ := atHand.recased schemes
    rw [Recased, String.toList_ofList] at same
    obtain ⟨rest, whole, same⟩ := exists_slash_of_map_eq same
    obtain ⟨name', rfl, sameName⟩ := exists_slash_of_map_eq same
    rw [← String.ofList_toList (s := literal'), whole]
    exact ⟨_, _, .unnamed (slash_not_mem_of_map_eq last sameName) atHand', recased,
      recased_ofList sameName⟩
  | named filled last =>
    rw [Recased, String.toList_ofList] at same
    obtain ⟨rest, whole, same⟩ := exists_slash_of_map_eq same
    rw [List.map_append] at same
    obtain ⟨scheme', behind, rfl, sameScheme, later⟩ := List.map_eq_append_iff.mp same.symm
    obtain ⟨name', rfl, sameName⟩ := exists_slash_of_map_eq later.symm
    have filled' : scheme' ≠ [] := by
      rintro rfl
      exact filled (List.map_eq_nil_iff.mp sameScheme.symm)
    rw [← String.ofList_toList (s := literal'), whole]
    exact ⟨_, _, .named filled' (slash_not_mem_of_map_eq last sameName),
      recased_ofList sameScheme.symm, recased_ofList sameName⟩

/-- The case of ASCII letters changes neither the color of a literal nor what kinds of reports it
costs. -/
theorem resolve_recased (palettes : Palettes) (schemes : Option.Rel Recased given given')
    (same : Recased literal literal') :
    (palettes.resolve literal given).1 = (palettes.resolve literal' given').1 ∧
      (palettes.resolve literal given).2.map Diagnostic.kind =
        (palettes.resolve literal' given').2.map Diagnostic.kind := by
  obtain ⟨scheme, name, qualified⟩ := exists_qualified given literal
  obtain ⟨scheme', name', qualified', sameScheme, sameName⟩ := qualified.recased schemes same
  have found : palettes.lookup scheme name = palettes.lookup scheme' name' := by
    rw [lookup, lookup, sameScheme.lowerCase_eq, sameName.lowerCase_eq]
  have known : palettes.hasScheme scheme = palettes.hasScheme scheme' := by
    rw [hasScheme, hasScheme, sameScheme.lowerCase_eq]
  rw [resolve, resolve, same.written?_eq, qualified.qualify_eq, qualified'.qualify_eq]
  cases written? literal'.toList with
  | some color => exact ⟨rfl, rfl⟩
  | none =>
    simp only [found, known]
    cases palettes.lookup scheme' name' with
    | some color => exact ⟨rfl, rfl⟩
    | none =>
      refine ⟨rfl, ?_⟩
      cases palettes.hasScheme scheme' <;> rfl

end Case

/-- After any registrations, a name means the last value that was registered for it under its
scheme, else under the fallback scheme, in letters of either case and with or without a number sign;
a literal comes to what it means, or to black with its reports; and the case of its ASCII letters
and of those of the scheme at hand makes no difference. -/
theorem resolve_registerAll {base : Palettes} {start : List Registration}
    (begins : Beginning base start) (calls : List Registration) :
    (∀ scheme name, (base.registerAll calls).lookup scheme name =
      ((values (start ++ calls) scheme name).getLast?.or
        (values (start ++ calls) fallbackScheme name).getLast?).bind fun value =>
          Color.parseHex? (withSign value.toList)) ∧
    (∀ given literal color reports,
      (base.registerAll calls).resolve literal given = (color, reports) ↔
        Outcome (base.registerAll calls) (start ++ calls) given literal color reports) ∧
    ∀ given given' literal literal', Option.Rel Recased given given' → Recased literal literal' →
      ((base.registerAll calls).resolve literal given).1 =
        ((base.registerAll calls).resolve literal' given').1 ∧
      ((base.registerAll calls).resolve literal given).2.map Diagnostic.kind =
        ((base.registerAll calls).resolve literal' given').2.map Diagnostic.kind := by
  have nothing (scheme name : String) : entry? ⟨∅⟩ scheme name = none := rfl
  refine ⟨fun scheme name => ?_, fun given literal color reports => ?_,
    fun given given' literal literal' schemes same => resolve_recased _ schemes same⟩
  · have small : lowerCase fallbackScheme = fallbackScheme := by decide
    have entries (scheme : String) : entry? (base.registerAll calls) (lowerCase scheme)
        (lowerCase name) = (values (start ++ calls) scheme name).getLast?.map entryText := by
      rw [begins.registerAll_eq, entry?_registerAll, nothing, Option.or_none]
    have fallback := entries fallbackScheme
    rw [small] at fallback
    rw [lookup, entries, fallback, Option.orElse_eq_or, ← Option.map_or, Option.bind_map]
    simp only [Function.comp_def, parseHex?_entryText]
  · refine resolve_eq_iff fun scheme => ?_
    rw [begins.registerAll_eq, hasScheme_registerAll]
    exact or_iff_right nofun

/-- One name is registered twice in different cases; another is unknown in a known scheme. -/
theorem resolve_registerAll_twice :
    let calls : List Registration := [⟨"Brand", [("primary", "010203"), ("PRIMARY", "#0A0b0c")]⟩]
    let palettes := standard.registerAll calls
    Beginning .standard [fallback, ⟨defaultScheme, Palette.x11⟩] ∧
      palettes.lookup "brand" "Primary" = some (Color.opaqueOf 10 11 12) ∧
      palettes.resolve "/BRAND/secondary" none =
        (.black, [.unknownColor "/BRAND/secondary" "BRAND"]) ∧
      (palettes.resolve "primary" (some "BRAND")).1 =
        (palettes.resolve "PRIMARY" (some "brand")).1 := by
  intro calls palettes
  obtain ⟨looked, outcomes, recased⟩ := resolve_registerAll .standard calls
  let history : List Registration := [fallback, ⟨defaultScheme, Palette.x11⟩] ++ calls
  have last : (values history "brand" "Primary").getLast? = some "#0A0b0c" := by decide
  have none : (values history "BRAND" "secondary").getLast? = none ∧
      (values history fallbackScheme "secondary").getLast? = none := by decide
  have missing : palettes.lookup "BRAND" "secondary" = Option.none := by
    refine (looked "BRAND" "secondary").trans ?_
    rw [none.1, none.2]
    rfl
  have unwritten : Unwritten "/BRAND/secondary" := by
    refine ⟨fun color form => ?_, by rfl⟩
    cases (Color.isHexLiteral_iff.mpr ⟨color, form⟩ : false = true)
  have qualified : Qualified Option.none "/BRAND/secondary" "BRAND" "secondary" :=
    @Qualified.named _ "BRAND".toList "secondary".toList (by decide) (by decide)
  have known : ∃ call ∈ history, lowerCase call.scheme = lowerCase "BRAND" :=
    ⟨_, List.mem_append_right _ List.mem_cons_self, by decide⟩
  refine ⟨.standard, ?_, (outcomes _ _ _ _).mpr (.unknown unwritten qualified missing known),
    (recased _ _ _ _ (.some ?_) ?_).1⟩
  · refine (looked "brand" "Primary").trans ?_
    rw [last]
    rfl
  · rw [Recased]
    decide
  · rw [Recased]
    decide

/-- The last value of a name is no color as it stands, for want of a number sign; the name means a
color all the same. -/
theorem not_lookup_parseHex?_bare :
    let calls : List Registration := [⟨"brand", [("primary", "ff0000")]⟩]
    (values (fallback :: calls) "brand" "primary").getLast? = some "ff0000" ∧
      Color.parseHex? "ff0000".toList = none ∧
      (minimal.registerAll calls).lookup "brand" "primary" = some (Color.opaqueOf 255 0 0) := by
  intro calls
  have last : (values (fallback :: calls) "brand" "primary").getLast? = some "ff0000" := by
    decide
  exact ⟨last, by rfl, by rfl⟩

end Palettes

end XdotViewer
