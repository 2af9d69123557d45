import Mathlib.Algebra.Ring.Parity
import Mathlib.Data.List.TakeWhile
import XdotViewer.Color.Hex

/-! # The form of hexadecimal colors

A hexadecimal color is a number sign and three or four pairs of digits, with blanks behind a pair
and nowhere else. The acceptor of literals keeps to that form. The reader of colors does not: it
passes over blanks wherever they stand, and takes a plus sign for the first digit of a pair. It is
right about exactly those texts that are tidy in both respects.
-/

namespace XdotViewer

/-- What has been checked of the ASCII characters one by one. -/
theorem of_ascii {P : Char → Prop} (checked : ∀ code : Fin 128, P (Char.ofNat code)) {c : Char}
    (ascii : c.toNat < 128) : P c := by
  have here := checked ⟨c.toNat, ascii⟩
  rwa [Char.ofNat_toNat] at here

namespace Hexadecimal

/-- Hex digits are ASCII characters. -/
theorem ascii_of_digit? {c : Char} {value : Nat} (read : digit? c = some value) :
    c.toNat < 128 := by
  by_contra large
  have beyond {low high : Char} (below : high.toNat < 128) : ¬ (low ≤ c ∧ c ≤ high) :=
    fun within => large (Nat.lt_of_le_of_lt within.2 below)
  rw [digit?, if_neg (beyond (by decide)), if_neg (beyond (by decide)),
    if_neg (beyond (by decide))] at read
  cases read

private theorem digit?_lt {c : Char} {value : Nat} (read : digit? c = some value) : value < 16 :=
  of_ascii (P := fun c => ∀ value ∈ digit? c, value < 16) (by decide)
    (ascii_of_digit? read) value read

private theorem not_isBlank_of_digit? {c : Char} {value : Nat} (read : digit? c = some value) :
    isBlank c = false :=
  of_ascii (P := fun c => ∀ value ∈ digit? c, isBlank c = false) (by decide)
    (ascii_of_digit? read) value read

private theorem ne_plus_of_digit? {c : Char} {value : Nat} (read : digit? c = some value) :
    c ≠ '+' := by
  rintro rfl
  cases read

end Hexadecimal

namespace Color

/-- Pairs of digits with blanks behind them, and what the pairs amount to. -/
inductive Pairs : List Char → List Nat → Prop
  | nil : Pairs [] []
  | cons {a b : Char} {high low : Nat} {blanks rest : List Char} {values : List Nat} :
    Hexadecimal.digit? a = some high → Hexadecimal.digit? b = some low →
    (∀ c ∈ blanks, isBlank c = true) → Pairs rest values →
    Pairs (a :: b :: (blanks ++ rest)) ((16 * high + low) :: values)

private theorem Pairs.cons_cons {a b : Char} {high low : Nat} {rest : List Char} {values : List Nat}
    (first : Hexadecimal.digit? a = some high) (second : Hexadecimal.digit? b = some low)
    (pairs : Pairs rest values) : Pairs (a :: b :: rest) ((16 * high + low) :: values) := by
  rw [← List.nil_append rest]
  exact .cons first second nofun pairs

/-- Three values are a color without an opacity of its own; a fourth is the opacity in parts of
255. -/
inductive OfValues : List Nat → Color → Prop
  | solid (red green blue : Nat) :
    OfValues [red, green, blue] (opaqueOf (.ofNat red) (.ofNat green) (.ofNat blue))
  | translucent (red green blue alpha : Nat) :
    OfValues [red, green, blue, alpha]
      ⟨.ofNat red, .ofNat green, .ofNat blue, Float.ofNat alpha / 255.0⟩

/-- The literal is written as a hexadecimal color, and means this one. -/
inductive HexForm : List Char → Color → Prop
  | intro {text : List Char} {values : List Nat} {color : Color} :
    Pairs text values → OfValues values color → HexForm ('#' :: text) color

/-- The characters of a text that are no blanks. -/
def visible (text : List Char) : List Char :=
  text.filter fun c => !isBlank c

/-- Blanks stand behind whole pairs only: none at the start, and an even number of other characters
in front of each. -/
structure Paired (text : List Char) : Prop where
  begun : trimStart text = text
  even : ∀ front c back, text = front ++ c :: back → isBlank c = true → Even (visible front).length

/-- After the number sign there is no plus sign, and blanks stand behind whole pairs only. -/
structure Tidy (text : List Char) : Prop where
  unsigned : '+' ∉ text
  paired : Paired text

variable {text rest blanks chars : List Char} {a b c : Char} {values : List Nat} {color : Color}

private theorem visible_cons (shown : isBlank c = false) :
    visible (c :: text) = c :: visible text := by
  simp [visible, shown]

private theorem visible_append_of_blank (blank : ∀ c ∈ blanks, isBlank c = true) :
    visible (blanks ++ rest) = visible rest := by
  have nothing : visible blanks = [] := List.filter_eq_nil_iff.mpr (by simpa using blank)
  rw [visible, List.filter_append]
  exact congrArg (· ++ visible rest) nothing

private theorem Pairs.begun (pairs : Pairs text values) : trimStart text = text := by
  cases pairs with
  | nil => rfl
  | cons first => exact trimStart_of_head (Hexadecimal.not_isBlank_of_digit? first)

private theorem trimStart_append (blank : ∀ c ∈ blanks, isBlank c = true)
    (begun : trimStart rest = rest) :
    trimStart (blanks ++ rest) = rest :=
  (trimStart_append_of_blank blank rest).trans begun

/-- The acceptor counts the pairs. -/
theorem isPairs_iff {count : Nat} :
    isPairs count text = true ↔ ∃ values, Pairs text values ∧ values.length = count := by
  constructor
  · intro accepted
    induction count generalizing text with
    | zero =>
      rw [isPairs, List.isEmpty_iff] at accepted
      subst accepted
      exact ⟨[], .nil, rfl⟩
    | succ count ih =>
      match text, accepted with
      | a :: b :: rest, accepted =>
        rw [isPairs, Bool.and_eq_true, Bool.and_eq_true] at accepted
        obtain ⟨⟨first, second⟩, later⟩ := accepted
        obtain ⟨high, first⟩ := Option.isSome_iff_exists.mp first
        obtain ⟨low, second⟩ := Option.isSome_iff_exists.mp second
        obtain ⟨values, pairs, length⟩ := ih later
        refine ⟨(16 * high + low) :: values, ?_, congrArg Nat.succ length⟩
        have split : rest = rest.takeWhile isBlank ++ trimStart rest :=
          List.takeWhile_append_dropWhile.symm
        rw [split]
        exact .cons first second (fun c member => List.mem_takeWhile_imp member) pairs
  · rintro ⟨values, pairs, rfl⟩
    induction pairs with
    | nil => rfl
    | cons first second blank pairs ih =>
      rw [List.length_cons, isPairs, trimStart_append blank pairs.begun, ih]
      simp [Hexadecimal.isDigit, first, second]

/-- A literal is accepted exactly if it is written as a hexadecimal color. -/
theorem isHexLiteral_iff {literal : List Char} :
    isHexLiteral literal = true ↔ ∃ color, HexForm literal color := by
  constructor
  · intro accepted
    unfold isHexLiteral at accepted
    split at accepted
    · rename_i text
      rw [Bool.or_eq_true, isPairs_iff, isPairs_iff] at accepted
      rcases accepted with ⟨values, pairs, three⟩ | ⟨values, pairs, four⟩
      · match values, three with
        | [red, green, blue], _ => exact ⟨_, pairs, .solid red green blue⟩
      · match values, four with
        | [red, green, blue, alpha], _ => exact ⟨_, pairs, .translucent red green blue alpha⟩
    · cases accepted
  · rintro ⟨color, pairs, meaning⟩
    rw [isHexLiteral, Bool.or_eq_true, isPairs_iff, isPairs_iff]
    cases meaning with
    | solid => exact .inl ⟨_, pairs, rfl⟩
    | translucent => exact .inr ⟨_, pairs, rfl⟩

/-- Without blanks, the pairs stand one after the other. -/
theorem pairs_cons_iff (shown : ∀ c ∈ chars, isBlank c = false) {value : Nat} :
    Pairs chars (value :: values) ↔ ∃ a b high low rest, chars = a :: b :: rest ∧
      Hexadecimal.digit? a = some high ∧ Hexadecimal.digit? b = some low ∧
      value = 16 * high + low ∧ Pairs rest values := by
  constructor
  · intro pairs
    cases pairs with
    | @cons a b high low blanks rest _ first second blank pairs =>
      have none : blanks = [] := List.eq_nil_iff_forall_not_mem.mpr fun c member => by
        cases (shown c (by simp [member])).symm.trans (blank c member)
      subst none
      exact ⟨a, b, high, low, rest, rfl, first, second, rfl, pairs⟩
  · rintro ⟨a, b, high, low, rest, rfl, first, second, rfl, pairs⟩
    exact .cons_cons first second pairs

private theorem shown_of_mem_visible (text : List Char) : ∀ c ∈ visible text, isBlank c = false :=
  fun c member => by simpa using (List.mem_filter.mp member).2

private theorem Pairs.unsigned (pairs : Pairs text values) : '+' ∉ text := by
  induction pairs with
  | nil => exact List.not_mem_nil
  | cons first second blank pairs ih =>
    simp only [List.mem_cons, List.mem_append, not_or]
    refine ⟨(Hexadecimal.ne_plus_of_digit? first).symm, (Hexadecimal.ne_plus_of_digit? second).symm,
      fun member => ?_, ih⟩
    cases blank _ member

private theorem Pairs.paired (pairs : Pairs text values) : Paired text := by
  refine ⟨pairs.begun, ?_⟩
  induction pairs with
  | nil =>
    intro front c back whole
    cases front <;> cases whole
  | @cons a b high low blanks rest values first second blank pairs ih =>
    have shownA := Hexadecimal.not_isBlank_of_digit? first
    have shownB := Hexadecimal.not_isBlank_of_digit? second
    rintro (_ | ⟨a', _ | ⟨b', front⟩⟩) c back whole isBlank
    · cases whole
      cases shownA.symm.trans isBlank
    · cases whole
      cases shownB.symm.trans isBlank
    · simp only [List.cons_append, List.cons.injEq] at whole
      obtain ⟨rfl, rfl, whole⟩ := whole
      rw [visible_cons shownA, visible_cons shownB]
      suffices even : Even (visible front).length from even.add even_two
      rcases List.append_eq_append_iff.mp whole with ⟨more, rfl, rest⟩ | ⟨more, rfl, rest⟩
      · rw [visible_append_of_blank blank]
        exact ih more c back rest isBlank
      · have nothing : visible (front ++ []) = [] :=
          visible_append_of_blank fun d member => blank d (List.mem_append_left more member)
        rw [List.append_nil] at nothing
        rw [nothing]
        exact .zero

/-- A text whose blanks stand behind whole pairs is a first pair, blanks, and such a text. -/
theorem Paired.exists_pair (paired : Paired text) (shown : visible text = a :: b :: chars) :
    ∃ blanks rest, text = a :: b :: (blanks ++ rest) ∧ (∀ c ∈ blanks, isBlank c = true) ∧
      Paired rest ∧ visible rest = chars := by
  cases text with
  | nil => cases shown
  | cons first text =>
    have shownA : isBlank first = false := head_trimStart_not_blank paired.begun
    rw [visible_cons shownA, List.cons.injEq] at shown
    obtain ⟨rfl, shown⟩ := shown
    cases text with
    | nil => cases shown
    | cons second text =>
      have shownB : isBlank second = false := by
        by_contra blank
        have even := paired.even [first] second text rfl (by simpa using blank)
        rw [visible_cons shownA] at even
        exact Nat.not_even_one even
      rw [visible_cons shownB, List.cons.injEq] at shown
      obtain ⟨rfl, shown⟩ := shown
      have blank : ∀ c ∈ text.takeWhile isBlank, isBlank c = true :=
        fun c member => List.mem_takeWhile_imp member
      have split : text = text.takeWhile isBlank ++ trimStart text :=
        List.takeWhile_append_dropWhile.symm
      refine ⟨text.takeWhile isBlank, trimStart text, by rw [← split], blank,
        ⟨trimStart_trimStart text, fun front c back whole isBlank => ?_⟩, ?_⟩
      · have even := paired.even (first :: second :: (text.takeWhile _ ++ front)) c back
          (by rw [List.cons_append, List.cons_append, List.append_assoc, ← whole, ← split]) isBlank
        rw [visible_cons shownA, visible_cons shownB, visible_append_of_blank blank] at even
        simpa [Nat.even_add_one] using even
      · rw [← shown, split, visible_append_of_blank blank, ← split]

/-- Pairs with blanks are pairs of what is visible, with every blank behind a whole pair. -/
theorem pairs_iff_visible : Pairs text values ↔ Pairs (visible text) values ∧ Paired text := by
  constructor
  · intro pairs
    refine ⟨?_, pairs.paired⟩
    induction pairs with
    | nil => exact .nil
    | cons first second blank pairs ih =>
      rw [visible_cons (Hexadecimal.not_isBlank_of_digit? first),
        visible_cons (Hexadecimal.not_isBlank_of_digit? second), visible_append_of_blank blank]
      exact .cons_cons first second ih
  · rintro ⟨pairs, paired⟩
    induction values generalizing text with
    | nil =>
      generalize same : visible text = chars at pairs
      cases pairs
      have blank : ∀ c ∈ text, isBlank c = true := by
        simpa using List.filter_eq_nil_iff.mp same
      rw [← paired.begun, trimStart_eq_nil_iff.mpr blank]
      exact .nil
    | cons value values ih =>
      obtain ⟨a, b, high, low, chars, same, first, second, rfl, later⟩ :=
        (pairs_cons_iff (shown_of_mem_visible text)).mp pairs
      obtain ⟨blanks, rest, rfl, blank, paired, rfl⟩ := paired.exists_pair same
      exact .cons first second blank (ih later paired)

/-- Without a plus sign, a channel is a pair of digits. -/
theorem Pairs.of_channel? (unsigned : a ≠ '+') {channel : UInt8}
    (read : channel? a b = some channel) (pairs : Pairs rest values) :
    Pairs (a :: b :: rest) (channel.toNat :: values) := by
  rw [channel?, if_neg unsigned] at read
  obtain ⟨high, first, read⟩ := Option.bind_eq_some_iff.mp read
  obtain ⟨low, second, read⟩ := Option.bind_eq_some_iff.mp read
  obtain rfl := Option.some.inj read
  have small : 16 * high + low < 256 := by
    have := Hexadecimal.digit?_lt first
    have := Hexadecimal.digit?_lt second
    omega
  have same : (UInt8.ofNat (16 * high + low)).toNat = 16 * high + low :=
    UInt8.toNat_ofNat_of_lt' small
  rw [same]
  exact .cons_cons first second pairs

private theorem Pairs.exists_channel? (shown : ∀ c ∈ chars, isBlank c = false) {value : Nat}
    (pairs : Pairs chars (value :: values)) :
    ∃ a b rest, chars = a :: b :: rest ∧ channel? a b = some (.ofNat value) ∧ value < 256 ∧
      Pairs rest values ∧ ∀ c ∈ rest, isBlank c = false := by
  obtain ⟨a, b, high, low, rest, rfl, first, second, rfl, later⟩ := (pairs_cons_iff shown).mp pairs
  refine ⟨a, b, rest, rfl, ?_, ?_, later, fun c member => shown c (by simp [member])⟩
  · simp [channel?, Hexadecimal.ne_plus_of_digit? first, first, second]
  · have := Hexadecimal.digit?_lt first
    have := Hexadecimal.digit?_lt second
    omega

/-- A color is read from pairs without blanks if there are three or four of them. -/
theorem ofPairs?_eq_some_iff (shown : ∀ c ∈ chars, isBlank c = false) (unsigned : '+' ∉ chars) :
    ofPairs? chars = some color ↔ ∃ values, Pairs chars values ∧ OfValues values color := by
  constructor
  · intro read
    have digits {c : Char} (member : c ∈ chars) : c ≠ '+' := fun same => unsigned (same ▸ member)
    unfold ofPairs? at read
    split at read
    · rename_i a b c d e f
      obtain ⟨red, first, read⟩ := Option.bind_eq_some_iff.mp read
      obtain ⟨green, second, read⟩ := Option.bind_eq_some_iff.mp read
      obtain ⟨blue, third, read⟩ := Option.bind_eq_some_iff.mp read
      obtain rfl := Option.some.inj read
      refine ⟨[red.toNat, green.toNat, blue.toNat], ?_, ?_⟩
      · exact .of_channel? (digits (by simp)) first (.of_channel? (digits (by simp)) second
          (.of_channel? (digits (by simp)) third .nil))
      · simpa using OfValues.solid red.toNat green.toNat blue.toNat
    · rename_i a b c d e f g h
      obtain ⟨red, first, read⟩ := Option.bind_eq_some_iff.mp read
      obtain ⟨green, second, read⟩ := Option.bind_eq_some_iff.mp read
      obtain ⟨blue, third, read⟩ := Option.bind_eq_some_iff.mp read
      obtain ⟨alpha, fourth, read⟩ := Option.bind_eq_some_iff.mp read
      obtain rfl := Option.some.inj read
      refine ⟨[red.toNat, green.toNat, blue.toNat, alpha.toNat], ?_, ?_⟩
      · exact .of_channel? (digits (by simp)) first (.of_channel? (digits (by simp)) second
          (.of_channel? (digits (by simp)) third (.of_channel? (digits (by simp)) fourth .nil)))
      · simpa using OfValues.translucent red.toNat green.toNat blue.toNat alpha.toNat
    · cases read
  · rintro ⟨values, pairs, meaning⟩
    cases meaning with
    | solid red green blue =>
      obtain ⟨a, b, chars, rfl, first, -, pairs, shown⟩ := pairs.exists_channel? shown
      obtain ⟨c, d, chars, rfl, second, -, pairs, shown⟩ := pairs.exists_channel? shown
      obtain ⟨e, f, chars, rfl, third, -, pairs, shown⟩ := pairs.exists_channel? shown
      cases pairs
      simp [ofPairs?, first, second, third]
    | translucent red green blue alpha =>
      obtain ⟨a, b, chars, rfl, first, -, pairs, shown⟩ := pairs.exists_channel? shown
      obtain ⟨c, d, chars, rfl, second, -, pairs, shown⟩ := pairs.exists_channel? shown
      obtain ⟨e, f, chars, rfl, third, -, pairs, shown⟩ := pairs.exists_channel? shown
      obtain ⟨g, h, chars, rfl, fourth, small, pairs, shown⟩ := pairs.exists_channel? shown
      cases pairs
      simp [ofPairs?, first, second, third, fourth, Nat.mod_eq_of_lt small]

/-- A color is written in the hexadecimal form exactly if it is read from a tidy text. -/
theorem hexForm_iff {literal : List Char} :
    HexForm literal color ↔ parseHex? literal = some color ∧ Tidy literal.tail := by
  constructor
  · rintro ⟨pairs, meaning⟩
    obtain ⟨shownPairs, paired⟩ := pairs_iff_visible.mp pairs
    exact ⟨(ofPairs?_eq_some_iff (shown_of_mem_visible _) shownPairs.unsigned).mpr
      ⟨_, shownPairs, meaning⟩, pairs.unsigned, paired⟩
  · rintro ⟨read, unsigned, paired⟩
    unfold parseHex? at read
    split at read
    · rename_i text
      have none : '+' ∉ visible text := fun member => unsigned (List.mem_filter.mp member).1
      obtain ⟨values, pairs, meaning⟩ :=
        (ofPairs?_eq_some_iff (shown_of_mem_visible text) none).mp read
      exact ⟨pairs_iff_visible.mpr ⟨pairs, paired⟩, meaning⟩
    · cases read

/-- The acceptor takes exactly the literals that are written in the hexadecimal form, and the reader
gives each of them the color that it means. The reader takes nothing else exactly if it takes no
literal that is untidy after its number sign; then the two accept the same. -/
theorem parseHex?_iff_hexForm_iff (literal : List Char) :
    (isHexLiteral literal = true ↔ ∃ color, HexForm literal color) ∧
    (∀ color, HexForm literal color ↔ parseHex? literal = some color ∧ Tidy literal.tail) ∧
    ((∀ color, parseHex? literal = some color ↔ HexForm literal color) ↔
      ((parseHex? literal).isSome = true → Tidy literal.tail)) ∧
    (isHexLiteral literal = (parseHex? literal).isSome ↔
      ((parseHex? literal).isSome = true → Tidy literal.tail)) := by
  have form (color : Color) : HexForm literal color ↔ _ := hexForm_iff
  refine ⟨isHexLiteral_iff, form, ⟨fun alike read => ?_, fun tidy color => ?_⟩, ?_⟩
  · obtain ⟨color, read⟩ := Option.isSome_iff_exists.mp read
    exact ((form color).mp ((alike color).mp read)).2
  · rw [form]
    exact ⟨fun read => ⟨read, tidy (read ▸ rfl)⟩, And.left⟩
  · rw [Bool.eq_iff_iff, isHexLiteral_iff]
    constructor
    · intro alike read
      obtain ⟨color, written⟩ := alike.mpr read
      exact ((form color).mp written).2
    · intro tidy
      constructor
      · rintro ⟨color, written⟩
        exact Option.isSome_iff_exists.mpr ⟨color, ((form color).mp written).1⟩
      · intro read
        obtain ⟨color, known⟩ := Option.isSome_iff_exists.mp read
        exact ⟨color, (form color).mpr ⟨known, tidy read⟩⟩

/-- Two literals are read as colors that have not the form: one has plus signs, the other a blank
within a pair. -/
theorem not_parseHex?_iff_hexForm_untidy :
    (parseHex? "#+1+2+3".toList = some (opaqueOf 1 2 3) ∧
      isHexLiteral "#+1+2+3".toList = false ∧ ∀ color, ¬ HexForm "#+1+2+3".toList color) ∧
    (parseHex? "#1 23456".toList = some (opaqueOf 0x12 0x34 0x56) ∧
      isHexLiteral "#1 23456".toList = false ∧ ∀ color, ¬ HexForm "#1 23456".toList color) := by
  have formless {literal : List Char} (refused : isHexLiteral literal = false) (color : Color) :
      ¬ HexForm literal color := fun written => by
    cases refused.symm.trans (isHexLiteral_iff.mpr ⟨color, written⟩)
  have signed : isHexLiteral "#+1+2+3".toList = false := by decide
  have torn : isHexLiteral "#1 23456".toList = false := by decide
  exact ⟨⟨by rfl, signed, formless signed⟩, by rfl, torn, formless torn⟩

end Color
end XdotViewer
