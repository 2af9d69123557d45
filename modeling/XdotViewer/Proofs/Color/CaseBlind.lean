import XdotViewer.Palette
import XdotViewer.Proofs.Color.HexForm

/-! # Colors in letters of either case

To make the ASCII capitals of a text small changes neither its lower case nor the color that it is
a literal of. Nor does the full lower case change a hexadecimal color: the small form of a character
outside ASCII has no digit, no plus sign and no blank in it, unless the character is a blank itself.
-/

namespace XdotViewer

variable {c : Char} {text : List Char}

private theorem toLower_of_large (large : ¬ c.toNat < 128) : c.toLower = c := by
  unfold Char.toLower
  split
  · rename_i capital
    exact absurd (Nat.lt_of_le_of_lt capital.2 (by decide)) large
  · rfl

private theorem toNat_ofNat_of_valid {code : Nat} (valid : code.isValidChar) :
    (Char.ofNat code).toNat = code := by
  rw [Char.ofNat, dif_pos valid]
  rfl

/-- A character is its own small form, unless it is one of 26 capitals. -/
theorem toLower_cases (c : Char) : c.toLower = c ∨
    ∃ letter : Fin 26, c = Char.ofNat (0x41 + letter) ∧ c.toLower = Char.ofNat (0x61 + letter) := by
  by_cases ascii : c.toNat < 128
  · exact of_ascii (P := fun c => c.toLower = c ∨ ∃ letter : Fin 26,
      c = Char.ofNat (0x41 + letter) ∧ c.toLower = Char.ofNat (0x61 + letter))
      (by decide) ascii
  · exact .inl (toLower_of_large ascii)

/-- What takes the ASCII capitals for their small letters does so with all characters. -/
theorem apply_toLower {β : Type} {f : Char → β}
    (checked : ∀ letter : Fin 26, f (Char.ofNat (0x61 + letter)) = f (Char.ofNat (0x41 + letter)))
    (c : Char) : f c.toLower = f c := by
  rcases toLower_cases c with same | ⟨letter, capital, small⟩
  · rw [same]
  · rw [small, capital]
    exact checked letter

/-- What is no letter is the small form of itself alone. -/
theorem toLower_eq_iff {d : Char} (caseless : ∀ letter : Fin 26,
    Char.ofNat (0x41 + letter) ≠ d ∧ Char.ofNat (0x61 + letter) ≠ d) (c : Char) :
    c.toLower = d ↔ c = d := by
  rcases toLower_cases c with same | ⟨letter, capital, small⟩
  · rw [same]
  · rw [small, capital]
    exact iff_of_false (caseless letter).2 (caseless letter).1

/-- Lower case makes no blanks and loses none. -/
@[simp] theorem isBlank_toLower (c : Char) : isBlank c.toLower = isBlank c :=
  apply_toLower (by decide) c

private theorem trimStart_map (text : List Char) :
    trimStart (text.map Char.toLower) = (trimStart text).map Char.toLower := by
  rw [trimStart, List.dropWhile_map]
  simp only [Function.comp_def, isBlank_toLower, trimStart]

namespace Hexadecimal

/-- A hex digit stands for the same value in lower case. -/
@[simp] theorem digit?_toLower (c : Char) : digit? c.toLower = digit? c :=
  apply_toLower (by decide) c

/-- Lower case makes no decimal digits and loses none. -/
@[simp] theorem isDigit_toLower (c : Char) : isDigit c.toLower = isDigit c := by
  rw [isDigit, digit?_toLower, isDigit]

end Hexadecimal

namespace LowerCase

/-- Letters of ASCII are not looked through. -/
theorem ignorable_toLower (c : Char) : ignorable.contains c.toLower = ignorable.contains c := by
  have apart : ∀ range ∈ ignorable,
      range.2 < 0x41 ∨ 0x5a < range.1 ∧ range.2 < 0x61 ∨ 0x7a < range.1 := by decide +kernel
  have outside {code : Nat} (letter : 0x41 ≤ code ∧ code ≤ 0x5a ∨ 0x61 ≤ code ∧ code ≤ 0x7a) :
      ignorable.contains (Char.ofNat code) = false := by
    by_contra inside
    obtain ⟨range, member, low, high⟩ := CodeRanges.contains_iff.mp (by simpa using inside)
    rw [toNat_ofNat_of_valid (by unfold Nat.isValidChar; omega)] at low high
    have := apart range member
    omega
  rcases toLower_cases c with same | ⟨letter, capital, small⟩
  · rw [same]
  · rw [small, capital, outside (by omega), outside (by omega)]

private theorem nextIsCased_map (text : List Char) :
    nextIsCased (text.map Char.toLower) = nextIsCased text := by
  have letter (c : Char) : cased.contains c.toLower = cased.contains c :=
    apply_toLower (by decide) c
  unfold nextIsCased
  rw [List.dropWhile_map]
  simp only [Function.comp_def, ignorable_toLower]
  cases text.dropWhile fun c => ignorable.contains c with
  | nil => rfl
  | cons c rest => exact letter c

private theorem after_map (before text : List Char) :
    after (before.map Char.toLower) (text.map Char.toLower) = after before text := by
  have small (c : Char) : ofChar c.toLower = ofChar c := apply_toLower (by decide) c
  have sigma (c : Char) : c.toLower.toNat = 0x3a3 ↔ c.toNat = 0x3a3 := by
    have same : c.toLower = '\u03a3' ↔ c = '\u03a3' := toLower_eq_iff (by decide) c
    rw [← Char.toNat_inj, ← Char.toNat_inj] at same
    exact same
  induction text generalizing before with
  | nil => rfl
  | cons c text ih =>
    have later := ih (c :: before)
    rw [List.map_cons] at later
    rw [List.map_cons, after, after, later]
    simp only [small, sigma, nextIsCased_map]

private theorem exists_run_of_shifted? {code small : Nat} (shifted : shifted? code = some small) :
    ∃ run ∈ runs, run.first ≤ code ∧ code ≤ run.last ∧
      small = ((code : Int) + run.shift).toNat := by
  obtain ⟨run, found, rfl⟩ := Option.map_eq_some_iff.mp shifted
  have within := List.find?_some found
  simp only [Bool.and_eq_true, decide_eq_true_eq] at within
  exact ⟨run, List.mem_of_find?_eq_some found, within.1.1, within.1.2, rfl⟩

/-- No blank is a capital. -/
theorem ofChar_of_isBlank (blank : isBlank c = true) : ofChar c = [c.toLower] := by
  obtain ⟨range, member, low, high⟩ := CodeRanges.contains_iff.mp blank
  unfold ofChar
  split
  · rfl
  · rename_i large
    rw [toLower_of_large (by omega), if_neg]
    · cases shifted : shifted? c.toNat with
      | none => rfl
      | some small =>
        obtain ⟨run, known, first, last, -⟩ := exists_run_of_shifted? shifted
        have apart : ∀ run ∈ runs, ∀ range ∈ Blank.ranges,
            run.last < range.1 ∨ range.2 < run.first := by decide +kernel
        have := apart run known range member
        omega
    · have apart : ∀ range ∈ Blank.ranges, 0x130 < range.1 ∨ range.2 < 0x130 := by decide
      have := apart range member
      omega

end LowerCase

namespace Color

private theorem channel?_toLower (a b : Char) : channel? a.toLower b.toLower = channel? a b := by
  have plus : a.toLower = '+' ↔ a = '+' := toLower_eq_iff (by decide) a
  simp only [channel?, plus, Hexadecimal.digit?_toLower]

private theorem ofPairs?_map (chars : List Char) :
    ofPairs? (chars.map Char.toLower) = ofPairs? chars := by
  match chars with
  | [a, b, c, d, e, f] => simp only [List.map_cons, List.map_nil, ofPairs?, channel?_toLower]
  | [a, b, c, d, e, f, g, h] => simp only [List.map_cons, List.map_nil, ofPairs?, channel?_toLower]
  | [] | [_] | [_, _] | [_, _, _] | [_, _, _, _] | [_, _, _, _, _] | [_, _, _, _, _, _, _] => rfl
  | _ :: _ :: _ :: _ :: _ :: _ :: _ :: _ :: _ :: _ => rfl

private theorem isPairs_map (count : Nat) (text : List Char) :
    isPairs count (text.map Char.toLower) = isPairs count text := by
  induction count generalizing text with
  | zero => simp [isPairs]
  | succ count ih =>
    rcases text with _ | ⟨a, _ | ⟨b, rest⟩⟩
    · rfl
    · rfl
    · simp only [List.map_cons, isPairs, Hexadecimal.isDigit_toLower, trimStart_map, ih]

private theorem numberSign_toLower (c : Char) : c.toLower = '#' ↔ c = '#' :=
  toLower_eq_iff (by decide) c

/-- Hex colors may be written with capitals. -/
@[simp] theorem parseHex?_map (literal : List Char) :
    parseHex? (literal.map Char.toLower) = parseHex? literal := by
  cases literal with
  | nil => rfl
  | cons c text =>
    by_cases sign : c = '#'
    · subst sign
      change ofPairs? (visible (text.map Char.toLower)) = ofPairs? (visible text)
      rw [visible, List.filter_map]
      simp only [Function.comp_def, isBlank_toLower, ofPairs?_map, visible]
    · rw [List.map_cons, parseHex?_eq_none_of_head sign,
        parseHex?_eq_none_of_head (mt (numberSign_toLower c).mp sign)]

/-- Whether a literal has the form of a hex color does not depend on capitals. -/
@[simp] theorem isHexLiteral_map (literal : List Char) :
    isHexLiteral (literal.map Char.toLower) = isHexLiteral literal := by
  cases literal with
  | nil => rfl
  | cons c text =>
    by_cases sign : c = '#'
    · subst sign
      change (isPairs 3 (text.map Char.toLower) || isPairs 4 (text.map Char.toLower)) = _
      rw [isPairs_map, isPairs_map]
      rfl
    · have other := mt (numberSign_toLower c).mp sign
      rw [List.map_cons]
      unfold isHexLiteral
      split
      · rename_i same
        exact absurd (List.cons.inj same).1 other
      · split
        · rename_i same
          exact absurd (List.cons.inj same).1 sign
        · rfl

/-- The characters that a hexadecimal color can be read from. -/
def isHexChar (c : Char) : Bool :=
  Hexadecimal.isDigit c || c = '+' || isBlank c

private theorem isHexChar_of_channel? {a b : Char} {channel : UInt8}
    (read : channel? a b = some channel) :
    isHexChar a = true ∧ isHexChar b = true := by
  unfold channel? at read
  split at read
  · rename_i plus
    obtain ⟨low, second, -⟩ := Option.map_eq_some_iff.mp read
    exact ⟨by simp [isHexChar, plus], by simp [isHexChar, Hexadecimal.isDigit, second]⟩
  · obtain ⟨high, first, read⟩ := Option.bind_eq_some_iff.mp read
    obtain ⟨low, second, -⟩ := Option.bind_eq_some_iff.mp read
    exact ⟨by simp [isHexChar, Hexadecimal.isDigit, first],
      by simp [isHexChar, Hexadecimal.isDigit, second]⟩

private theorem isHexChar_of_ofPairs? {chars : List Char} {color : Color}
    (read : ofPairs? chars = some color) : ∀ c ∈ chars, isHexChar c = true := by
  unfold ofPairs? at read
  split at read
  · obtain ⟨red, first, read⟩ := Option.bind_eq_some_iff.mp read
    obtain ⟨green, second, read⟩ := Option.bind_eq_some_iff.mp read
    obtain ⟨blue, third, -⟩ := Option.bind_eq_some_iff.mp read
    simp [isHexChar_of_channel? first, isHexChar_of_channel? second, isHexChar_of_channel? third]
  · obtain ⟨red, first, read⟩ := Option.bind_eq_some_iff.mp read
    obtain ⟨green, second, read⟩ := Option.bind_eq_some_iff.mp read
    obtain ⟨blue, third, read⟩ := Option.bind_eq_some_iff.mp read
    obtain ⟨alpha, fourth, -⟩ := Option.bind_eq_some_iff.mp read
    simp [isHexChar_of_channel? first, isHexChar_of_channel? second, isHexChar_of_channel? third,
      isHexChar_of_channel? fourth]
  · cases read

private theorem isHexChar_of_parseHex? {color : Color}
    (read : parseHex? ('#' :: text) = some color) :
    ∀ c ∈ text, isHexChar c = true := by
  intro c member
  by_cases blank : isBlank c = true
  · simp [isHexChar, blank]
  · exact isHexChar_of_ofPairs? read c (List.mem_filter.mpr ⟨member, by simpa using blank⟩)

private theorem code_of_isHexChar (hex : isHexChar c = true) :
    c.toNat ≤ 0x66 ∨ isBlank c = true := by
  simp only [isHexChar, Bool.or_eq_true, decide_eq_true_eq] at hex
  rcases hex with (digit | rfl) | blank
  · obtain ⟨value, read⟩ := Option.isSome_iff_exists.mp digit
    exact .inl (of_ascii (P := fun c => ∀ value ∈ Hexadecimal.digit? c, c.toNat ≤ 0x66)
      (by decide) (Hexadecimal.ascii_of_digit? read) value read)
  · exact .inl (by decide)
  · exact .inr blank

/-- No capital outside ASCII has a small letter that a hexadecimal color can be read from. -/
theorem not_isHexChar_of_shifted? {code small : Nat} (large : ¬ code < 0x80)
    (shifted : LowerCase.shifted? code = some small) : isHexChar (Char.ofNat small) = false := by
  obtain ⟨run, known, first, last, rfl⟩ := LowerCase.exists_run_of_shifted? shifted
  have apart : ∀ run ∈ LowerCase.runs, run.last < 0x80 ∨ 0x66 < run.first + run.shift ∧
      (run.last + run.shift < 0xd800 ∨
        0xdfff < run.first + run.shift ∧ run.last + run.shift < 0x110000) ∧
      ∀ range ∈ Blank.ranges,
        run.last + run.shift < range.1 ∨ range.2 < run.first + run.shift := by decide +kernel
  rcases apart run known with ascii | ⟨above, valid, visible⟩
  · omega
  · have code : (Char.ofNat ((code : Int) + run.shift).toNat).toNat =
        ((code : Int) + run.shift).toNat :=
      toNat_ofNat_of_valid (by unfold Nat.isValidChar; omega)
    by_contra hex
    rcases code_of_isHexChar (by simpa using hex) with low | blank
    · omega
    · obtain ⟨range, member, low, high⟩ := CodeRanges.contains_iff.mp blank
      have := visible range member
      omega

/-- The small form of a character that a hexadecimal color cannot be read from is none either. -/
theorem isHexChar_of_ofChar (small : ∀ d ∈ LowerCase.ofChar c, isHexChar d = true) :
    isHexChar c = true := by
  unfold LowerCase.ofChar at small
  split at small
  · have same : isHexChar c.toLower = isHexChar c := apply_toLower (by decide) c
    exact same ▸ small _ List.mem_cons_self
  · rename_i large
    split at small
    · cases small 'i' List.mem_cons_self
    · split at small
      · rename_i shifted
        cases (not_isHexChar_of_shifted? large shifted).symm.trans (small _ List.mem_cons_self)
      · exact small c List.mem_cons_self

/-- A character that a hexadecimal color can be read from has the small form that ASCII gives it. -/
theorem ofChar_of_isHexChar (hex : isHexChar c = true) : LowerCase.ofChar c = [c.toLower] := by
  rcases code_of_isHexChar hex with low | blank
  · rw [LowerCase.ofChar, if_pos (by omega)]
  · exact LowerCase.ofChar_of_isBlank blank

private theorem ne_sigma_of_isHexChar (hex : isHexChar c = true) : c.toNat ≠ 0x3a3 := by
  intro sigma
  obtain rfl : c = '\u03a3' := Char.toNat_inj.mp sigma
  cases hex

/-- Of texts that a hexadecimal color can be read from, the lower case is that of ASCII. -/
theorem after_of_isHexChar (before : List Char) (hex : ∀ c ∈ text, isHexChar c = true) :
    LowerCase.after before text = text.map Char.toLower := by
  induction text generalizing before with
  | nil => rfl
  | cons c text ih =>
    have here := hex c List.mem_cons_self
    rw [LowerCase.after, if_neg (ne_sigma_of_isHexChar here), ofChar_of_isHexChar here,
      ih (c :: before) fun d member => hex d (List.mem_cons_of_mem c member)]
    rfl

private theorem isHexChar_of_after {before : List Char}
    (small : ∀ d ∈ LowerCase.after before text, isHexChar d = true) :
    ∀ c ∈ text, isHexChar c = true := by
  induction text generalizing before with
  | nil => nofun
  | cons c text ih =>
    rw [LowerCase.after, List.forall_mem_append] at small
    refine List.forall_mem_cons.mpr ⟨?_, ih small.2⟩
    have first := small.1
    split at first
    · split at first <;> cases first _ List.mem_cons_self
    · exact isHexChar_of_ofChar first

/-- The color of a hexadecimal text is that of its lower case. -/
theorem parseHex?_after (before text : List Char) :
    parseHex? ('#' :: LowerCase.after before text) = parseHex? ('#' :: text) := by
  by_cases hex : ∀ c ∈ text, isHexChar c = true
  · rw [after_of_isHexChar before hex]
    exact parseHex?_map ('#' :: text)
  · have unread : parseHex? ('#' :: text) = none :=
      Option.eq_none_iff_forall_ne_some.mpr fun color read => hex (isHexChar_of_parseHex? read)
    rw [unread]
    exact Option.eq_none_iff_forall_ne_some.mpr fun color read =>
      hex (isHexChar_of_after (isHexChar_of_parseHex? read))

end Color

namespace Hsv

/-- The characters of a triple. -/
def isTripleChar (c : Char) : Bool :=
  Literal.isDigit c || c = '.' || isSeparator c

@[simp] theorem isTripleChar_toLower (c : Char) : isTripleChar c.toLower = isTripleChar c :=
  apply_toLower (by decide) c

/-- None of them has a case. -/
theorem toLower_of_isTripleChar (plain : isTripleChar c = true) : c.toLower = c := by
  rcases toLower_cases c with same | ⟨letter, rfl, -⟩
  · exact same
  · have capitals : ∀ letter : Fin 26, isTripleChar (Char.ofNat (0x41 + letter)) = false := by
      decide
    cases (capitals letter).symm.trans plain

/-- In front of the rest, the text has characters of a triple only. -/
def Leaves (text rest : List Char) : Prop :=
  ∃ front, text = front ++ rest ∧ ∀ c ∈ front, isTripleChar c = true

variable {middle rest : List Char}

private theorem Leaves.trans (first : Leaves text middle) (second : Leaves middle rest) :
    Leaves text rest := by
  obtain ⟨front, rfl, plain⟩ := first
  obtain ⟨more, rfl, plain'⟩ := second
  exact ⟨front ++ more, (List.append_assoc ..).symm, List.forall_mem_append.mpr ⟨plain, plain'⟩⟩

private theorem leaves_cons (plain : isTripleChar c = true) : Leaves (c :: rest) rest :=
  ⟨[c], rfl, by simp [plain]⟩

private theorem leaves_dropWhile {p : Char → Bool} (plain : ∀ c, p c = true → isTripleChar c = true)
    (text : List Char) : Leaves text (text.dropWhile p) :=
  ⟨text.takeWhile p, List.takeWhile_append_dropWhile.symm,
    fun c member => plain c (List.mem_takeWhile_imp member)⟩

private theorem leaves_digits (text : List Char) : Leaves text (Literal.spanDigits text).2 :=
  leaves_dropWhile (fun c digit => by simp [isTripleChar, digit]) text

private theorem leaves_of_number? {number : List Char} (read : number? text = some (number, rest)) :
    Leaves text rest := by
  have whole := leaves_digits text
  unfold number? at read
  split at read
  · cases read
  · rename_i integer afterPoint _ span
    rw [span] at whole
    split at read
    · cases read
      exact whole
    · rename_i fraction
      cases read
      have digits := leaves_digits afterPoint
      rw [fraction] at digits
      exact whole.trans ((leaves_cons (by decide)).trans digits)
  · rename_i span
    cases read
    rw [span] at whole
    exact whole

private theorem leaves_of_afterSeparators? (read : afterSeparators? text = some rest) :
    Leaves text rest := by
  have plain (c : Char) (separator : isSeparator c = true) : isTripleChar c = true := by
    simp [isTripleChar, separator]
  cases text with
  | nil => cases read
  | cons c text =>
    rw [afterSeparators?] at read
    split at read
    · rename_i separator
      obtain rfl := Option.some.inj read
      exact (leaves_cons (plain c separator)).trans (leaves_dropWhile plain text)
    · cases read

/-- A triple of numbers is written with digits, points and separators only. -/
theorem isTripleChar_of_triple? {triple : Float × Float × Float}
    (read : triple? text = some triple) : ∀ c ∈ text, isTripleChar c = true := by
  unfold triple? at read
  obtain ⟨⟨hue, afterHue⟩, first, read⟩ := Option.bind_eq_some_iff.mp read
  obtain ⟨second, separated, read⟩ := Option.bind_eq_some_iff.mp read
  obtain ⟨⟨saturation, afterSaturation⟩, middle, read⟩ := Option.bind_eq_some_iff.mp read
  obtain ⟨third, separated', read⟩ := Option.bind_eq_some_iff.mp read
  obtain ⟨⟨value, rest⟩, last, read⟩ := Option.bind_eq_some_iff.mp read
  have leaves : Leaves text rest :=
    (leaves_of_number? first).trans <| (leaves_of_afterSeparators? separated).trans <|
      (leaves_of_number? middle).trans <| (leaves_of_afterSeparators? separated').trans <|
        leaves_of_number? last
  simp only at read
  split at read
  · rename_i done
    obtain ⟨front, rfl, plain⟩ := leaves
    rw [List.isEmpty_iff.mp done, List.append_nil]
    exact plain
  · cases read

/-- Since a triple has no letters, it is the same in either case. -/
@[simp] theorem triple?_map (text : List Char) :
    triple? (text.map Char.toLower) = triple? text := by
  have same (plain : ∀ c ∈ text, isTripleChar c = true) : text.map Char.toLower = text :=
    (List.map_congr_left fun c member => toLower_of_isTripleChar (plain c member)).trans
      (List.map_id' text)
  refine Option.ext fun triple => ⟨fun read => ?_, fun read => ?_⟩
  · have plain := isTripleChar_of_triple? read
    simp only [List.forall_mem_map, isTripleChar_toLower] at plain
    rwa [same plain] at read
  · rwa [same (isTripleChar_of_triple? read)]

end Hsv

/-- The same text up to the case of ASCII letters. -/
def Recased (a b : String) : Prop :=
  a.toList.map Char.toLower = b.toList.map Char.toLower

/-- Texts that differ in capitals have the same lower case. -/
theorem Recased.lowerCase_eq {a b : String} (recased : Recased a b) :
    lowerCase a = lowerCase b := by
  have small := congrArg (LowerCase.after []) recased
  rw [lowerCase, lowerCase, ← LowerCase.after_map, ← LowerCase.after_map [] b.toList]
  exact congrArg String.ofList small

/-- Texts that differ in capitals write the same color, or none. -/
theorem Recased.written?_eq {a b : String} (recased : Recased a b) :
    Palettes.written? a.toList = Palettes.written? b.toList := by
  have small (text : List Char) :
      Palettes.written? (text.map Char.toLower) = Palettes.written? text := by
    simp only [Palettes.written?, Color.isHexLiteral_map, Color.parseHex?_map, Hsv.triple?_map]
  rw [← small, recased, small]

end XdotViewer
