import XdotViewer.Text.Blank

/-! # Readings

A reading finds all ways to read something off the front of a text, the preferred one first. Where
a later part fails with one way, the next one counts.
-/

namespace XdotViewer

def Reading (α : Type) := List Char → List (α × List Char)

namespace Reading

variable {α β : Type}

instance : Monad Reading where
  pure a := fun text => [(a, text)]
  bind reading next := fun text => (reading text).flatMap fun way => next way.1 way.2

/-- The ways of one reading before those of another. -/
def orElse (first second : Reading α) : Reading α :=
  fun text => first text ++ second text

/-- With something in front if possible, else without it. -/
def optional (reading : Reading α) : Reading (Option α) :=
  orElse (some <$> reading) (pure none)

def character (wanted : Char) : Reading Unit
  | c :: rest => if c = wanted then [((), rest)] else []
  | [] => []

/-- The letters of a word one by one, each accepted by `same`. -/
def spelled (same : Char → Char → Bool) : List Char → Reading Unit
  | [] => pure ()
  | wanted :: word => fun
    | c :: rest => if same wanted c then spelled same word rest else []
    | [] => []

def exactly (word : List Char) : Reading Unit :=
  spelled (· == ·) word

/-- Whether a letter stands for a small letter when case does not matter; the long s does for s. -/
def sameLetter (small c : Char) : Bool :=
  c.toLower == small || small == 's' && c == 'ſ'

/-- A word in small letters, found in any letter case. -/
def keyword (word : List Char) : Reading Unit :=
  spelled sameLetter word

/-- Any number of blanks, all that there are. What follows begins with no blank. -/
def blanks : Reading Unit :=
  fun text => [((), trimStart text)]

/-- At least one blank, and all that there are. -/
def someBlanks : Reading Unit
  | c :: rest => if isBlank c then blanks rest else []
  | [] => []

def atEnd : Reading Unit
  | [] => [((), [])]
  | _ :: _ => []

/-- The preferred way to read a whole text. -/
def whole? (reading : Reading α) (text : List Char) : Option α :=
  ((reading text).find? fun way => way.2.isEmpty).map Prod.fst

/-- The preferred way to read the front of a text. -/
def front? (reading : Reading α) (text : List Char) : Option (α × List Char) :=
  (reading text).head?

/-- No way leaves more than there was. -/
def Bounded (reading : Reading α) : Prop :=
  ∀ text, ∀ way ∈ reading text, way.2.length ≤ text.length

/-- Every way takes something. -/
def Consuming (reading : Reading α) : Prop :=
  ∀ text, ∀ way ∈ reading text, way.2.length < text.length

/-- A reading that takes something leaves no more than there was. -/
theorem Consuming.bounded {reading : Reading α} (consuming : reading.Consuming) :
    reading.Bounded :=
  fun text way member => Nat.le_of_lt (consuming text way member)

/-- The ways of readings one after the other. -/
theorem mem_bind {reading : Reading α} {next : α → Reading β} {text : List Char}
    {way : β × List Char} :
    way ∈ (reading >>= next) text ↔ ∃ first ∈ reading text, way ∈ next first.1 first.2 :=
  List.mem_flatMap

theorem bounded_pure (a : α) : Bounded (pure a) := by
  intro text way member
  cases List.mem_singleton.mp member
  exact Nat.le_refl _

/-- Readings one after the other leave no more than there was. -/
theorem Bounded.bind {reading : Reading α} {next : α → Reading β} (bounded : reading.Bounded)
    (rest : ∀ a, (next a).Bounded) : (reading >>= next).Bounded := by
  intro text way member
  obtain ⟨first, present, member⟩ := mem_bind.mp member
  exact Nat.le_trans (rest _ _ _ member) (bounded _ _ present)

/-- It is enough that the first of two readings takes something. -/
theorem Consuming.bind {reading : Reading α} {next : α → Reading β}
    (consuming : reading.Consuming) (rest : ∀ a, (next a).Bounded) :
    (reading >>= next).Consuming := by
  intro text way member
  obtain ⟨first, present, member⟩ := mem_bind.mp member
  exact Nat.lt_of_le_of_lt (rest _ _ _ member) (consuming _ _ present)

/-- It is enough that the second of two readings takes something. -/
theorem Bounded.bind_consuming {reading : Reading α} {next : α → Reading β}
    (bounded : reading.Bounded) (rest : ∀ a, (next a).Consuming) :
    (reading >>= next).Consuming := by
  intro text way member
  obtain ⟨first, present, member⟩ := mem_bind.mp member
  exact Nat.lt_of_lt_of_le (rest _ _ _ member) (bounded _ _ present)

theorem bounded_blanks : blanks.Bounded := by
  intro text way member
  cases List.mem_singleton.mp member
  exact (trimStart_suffix text).length_le

theorem bounded_character (wanted : Char) : (character wanted).Bounded := by
  intro text way member
  cases text with
  | nil => cases member
  | cons c rest =>
    simp only [character] at member
    split at member
    · cases List.mem_singleton.mp member
      exact Nat.le_succ _
    · cases member

end Reading
end XdotViewer
