import Lockstep.Json.Parser

/-!
# The grammar of JSON

Which texts are JSON, and which values they spell, said without a reader. A text of the grammar is
a whole text: nothing is said here about what may follow it, how it is taken apart, or in what
order. Values nest, so `ValueText` goes by the depth up to which they may; everything below it
(strings with their escapes, numbers, rows of entries between brackets) stands on its own.

A number that is written as an integer of 64 bits is kept exactly, and any other is rounded. The
rounding is the one of `Numeral.magnitude?`, which has no result where the number is too large.
`number?_eq_natural` says which numerals are natural numbers, since these alone can stand for
lines and ports.
-/

namespace Lockstep.Json

open Decimal (isDigit valueOf)

/-- Blanks and nothing else. -/
def Blanks (s : List Char) : Prop := ∀ c ∈ s, isBlank c = true

/-! ## Strings -/

/-- The number that hexadecimal digits stand for after others that gave `value`. -/
def hexNumber? (value : Nat) : List Char → Option Nat
  | [] => some value
  | c :: rest =>
    match Hexadecimal.value? c with
    | some d => hexNumber? (value * 16 + d) rest
    | none => none

/-- Four digits spell a unit of sixteen bits. -/
structure UnitText (ds : List Char) (unit : Nat) : Prop where
  length : ds.length = 4
  number : hexNumber? 0 ds = some unit

/-- What stands for one character between the quotes of a string. -/
inductive CharText : List Char → Char → Prop
  | plain {c : Char} : c ≠ '"' → c ≠ '\\' → ¬ c.toNat < 0x20 → CharText [c] c
  | short {letter c : Char} : shortEscape? letter = some c → CharText ['\\', letter] c
  | unit {ds : List Char} {n : Nat} : UnitText ds n → isHigh n = false → isLow n = false →
      CharText ('\\' :: 'u' :: ds) (Char.ofNat n)
  | pair {ds es : List Char} {high low : Nat} : UnitText ds high → isHigh high = true →
      UnitText es low → isLow low = true →
      CharText ('\\' :: 'u' :: (ds ++ '\\' :: 'u' :: es)) (ofPair high low)

/-- What stands for some characters between the quotes of a string. -/
inductive CharsText : List Char → List Char → Prop
  | nil : CharsText [] []
  | cons {t s : List Char} {c : Char} {cs : List Char} :
      CharText t c → CharsText s cs → CharsText (t ++ s) (c :: cs)

/-- A string between its quotes. -/
def StringText (text : List Char) (s : String) : Prop :=
  ∃ body cs, CharsText body cs ∧ text = '"' :: (body ++ ['"']) ∧ s = String.ofList cs

/-! ## Numbers -/

/-- At least one digit, and nothing else. -/
structure Digits (ds : List Char) : Prop where
  nonempty : ds ≠ []
  digit : ∀ c ∈ ds, isDigit c = true

/-- The number that decimal digits stand for after others that gave `value`. -/
def natFrom (value : Nat) (ds : List Char) : Nat := ds.foldl (fun n c => n * 10 + valueOf c) value

/-- The number that decimal digits stand for. -/
def natOf (ds : List Char) : Nat := natFrom 0 ds

/-- An exponent of a numeral: its letter, its sign and its digits. -/
structure Scale where
  mark : Char
  sign : List Char
  digits : List Char

/-- A numeral in its parts. -/
structure Numeral where
  isNegative : Bool
  whole : List Char
  fraction : Option (List Char)
  scale : Option Scale

/-- The letter is an `e` of either case, and the sign may be left out. -/
structure Scale.WellFormed (p : Scale) : Prop where
  mark : p.mark = 'e' ∨ p.mark = 'E'
  sign : p.sign = [] ∨ p.sign = ['+'] ∨ p.sign = ['-']
  digits : Digits p.digits

/-- The digits before the point; a zero stands alone. -/
structure WholeText (ds : List Char) : Prop where
  digits : Digits ds
  zero : ds.head? = some '0' → ds = ['0']

/-- The parts are numerals of their own; a fraction has digits after its point. -/
structure Numeral.WellFormed (n : Numeral) : Prop where
  whole : WholeText n.whole
  fraction : ∀ ds, n.fraction = some ds → Digits ds
  scale : ∀ p, n.scale = some p → p.WellFormed

/-- The text of an exponent. -/
def Scale.text (p : Scale) : List Char := p.mark :: (p.sign ++ p.digits)

/-- The text of a fraction, with its point. -/
def fractionText : Option (List Char) → List Char
  | none => []
  | some ds => '.' :: ds

/-- The text of an exponent, where there is one. -/
def scaleText : Option Scale → List Char
  | none => []
  | some p => p.text

/-- The text of a numeral after its sign. -/
def Numeral.body (n : Numeral) : List Char :=
  n.whole ++ (fractionText n.fraction ++ scaleText n.scale)

/-- The text of a numeral. -/
def Numeral.text (n : Numeral) : List Char := if n.isNegative then '-' :: n.body else n.body

/-- Whether an exponent makes its number smaller. -/
def Scale.isNegative (p : Scale) : Bool := p.sign == ['-']

/-- The exponent as a number, without regard to its size. -/
def Scale.power (p : Scale) : Int := if p.isNegative then -(natOf p.digits : Int) else natOf p.digits

/-- Written without fraction and exponent, by digits that fit in 64 bits. -/
def Numeral.isWhole (n : Numeral) : Bool :=
  n.fraction.isNone && n.scale.isNone && natOf n.whole ≤ Decimal.max64

/-- The greatest exponent that is taken as it is. -/
def maxPower : Nat := 2147483647

/--
The magnitude of a numeral, rounded; `none` if it is too large. An exponent beyond 32 bits is too
large for any number but zero, and makes nothing of any number if it is negative.
-/
def Numeral.magnitude? (n : Numeral) : Option Binary64 :=
  let s := (Significand.addWhole 0 n.whole).addFraction (n.fraction.getD [])
  match n.scale with
  | none => s.magnitude
  | some p =>
    if natOf p.digits ≤ maxPower then Significand.magnitude ⟨s.value, s.exponent + p.power⟩
    else if s.value ≠ 0 ∧ !p.isNegative then none
    else some (.finite 0 (-1074))

/-- The number of a numeral. A minus before a zero, or before more than 63 bits, makes it real. -/
def Numeral.number? (n : Numeral) : Option Number :=
  if n.isWhole then
    if !n.isNegative then some (.natural (natOf n.whole))
    else if 1 ≤ natOf n.whole ∧ natOf n.whole ≤ Decimal.maxSigned64 + 1 then
      some (.negative (natOf n.whole))
    else some (.real true (.ofNat (natOf n.whole)))
  else n.magnitude?.map (.real n.isNegative)

/-- The texts of numbers. -/
def NumberText (text : List Char) (x : Number) : Prop :=
  ∃ n : Numeral, n.WellFormed ∧ text = n.text ∧ n.number? = some x

/-- **A natural number is written without sign, fraction and exponent,** and fits in 64 bits. -/
theorem Numeral.number?_eq_natural {n : Numeral} {k : Nat} :
    n.number? = some (.natural k) ↔
      n.isNegative = false ∧ n.fraction = none ∧ n.scale = none ∧ natOf n.whole = k ∧
        k ≤ Decimal.max64 := by
  have hwhole : n.isWhole = true ↔
      (n.fraction = none ∧ n.scale = none) ∧ natOf n.whole ≤ Decimal.max64 := by
    simp [isWhole, Option.isNone_iff_eq_none]
  unfold number?
  by_cases hw : n.isWhole = true
  · obtain ⟨⟨hfraction, hscale⟩, hsize⟩ := hwhole.mp hw
    rw [if_pos hw]
    cases hn : n.isNegative with
    | false =>
        simp only [Bool.not_false, if_true, Option.some.injEq, Number.natural.injEq]
        constructor
        · rintro rfl
          exact ⟨trivial, hfraction, hscale, rfl, hsize⟩
        · exact fun h => h.2.2.2.1
    | true =>
        -- a minus gives a negative number or a real one
        simp only [Bool.not_true, Bool.false_eq_true, if_false]
        constructor
        · intro h
          split at h <;> exact absurd h (by simp)
        · exact fun h => absurd h.1 (by simp)
  · rw [if_neg hw]
    constructor
    · intro h
      obtain ⟨x, -, hx⟩ := Option.map_eq_some_iff.mp h
      exact absurd hx (by simp)
    · rintro ⟨-, hfraction, hscale, rfl, hsize⟩
      exact absurd (hwhole.mpr ⟨⟨hfraction, hscale⟩, hsize⟩) hw

/-! ## Values -/

/-- A text with blanks around it. -/
def Padded {α : Type} (P : List Char → α → Prop) (text : List Char) (a : α) : Prop :=
  ∃ before inner after, Blanks before ∧ P inner a ∧ Blanks after ∧
    text = before ++ inner ++ after

/-- At least one entry, and a comma between any two. -/
inductive Row {α : Type} (P : List Char → α → Prop) : List Char → List α → Prop
  | one {s : List Char} {a : α} : P s a → Row P s [a]
  | cons {s rest : List Char} {a : α} {as : List α} :
      P s a → Row P rest as → Row P (s ++ ',' :: rest) (a :: as)

/-- What stands between two brackets: blanks, or a row of entries with blanks around each. -/
inductive Listed {α : Type} (P : List Char → α → Prop) : List Char → List α → Prop
  | empty {s : List Char} : Blanks s → Listed P s []
  | row {s : List Char} {as : List α} : Row (Padded P) s as → Listed P s as

/-- A key, a colon and a value. -/
def MemberText (P : List Char → Value → Prop) (text : List Char) (m : String × Value) : Prop :=
  ∃ key before after value, StringText key m.1 ∧ Blanks before ∧ Blanks after ∧ P value m.2 ∧
    text = key ++ (before ++ ':' :: (after ++ value))

/-- Values that hold no other values. -/
inductive ScalarText : List Char → Value → Prop
  | null : ScalarText "null".toList .null
  | yes : ScalarText "true".toList (.bool true)
  | no : ScalarText "false".toList (.bool false)
  | number {t : List Char} {x : Number} : NumberText t x → ScalarText t (.number x)
  | string {t : List Char} {s : String} : StringText t s → ScalarText t (.string s)

/-- Values in which arrays and objects nest no deeper than the given depth. -/
def ValueText : Nat → List Char → Value → Prop
  | 0, t, v => ScalarText t v
  | depth + 1, t, v =>
    ScalarText t v ∨
      (∃ inner items, Listed (ValueText depth) inner items ∧ t = '[' :: (inner ++ [']']) ∧
        v = .array items) ∨
      ∃ inner members, Listed (MemberText (ValueText depth)) inner members ∧
        t = '\x7b' :: (inner ++ ['\x7d']) ∧ v = .object members

/-- **The texts of JSON values:** one value with blanks around it. -/
def Spells (text : List Char) (v : Value) : Prop := Padded (ValueText maxDepth) text v

/-! ## Members -/

/-- The last member with a key has this value. -/
def LastMember (members : List (String × Value)) (key : String) (v : Value) : Prop :=
  ∃ before after, members = before ++ (key, v) :: after ∧ ∀ m ∈ after, m.1 ≠ key

theorem member?_eq_some_iff {members : List (String × Value)} {key : String} {v : Value} :
    member? members key = some v ↔ LastMember members key v := by
  unfold member?
  rw [List.findRev?_eq_find?_reverse, Option.map_eq_some_iff]
  constructor
  · rintro ⟨⟨k, v'⟩, hfind, rfl⟩
    obtain ⟨hk, after, before, hsplit, hafter⟩ := List.find?_eq_some_iff_append.mp hfind
    obtain rfl : k = key := eq_of_beq hk
    refine ⟨before.reverse, after.reverse, ?_, ?_⟩
    · rw [← List.reverse_reverse members, hsplit]
      simp
    · intro m hm
      have := hafter m (List.mem_reverse.mp hm)
      simpa using this
  · rintro ⟨before, after, rfl, hafter⟩
    refine ⟨(key, v), List.find?_eq_some_iff_append.mpr ?_, rfl⟩
    refine ⟨beq_self_eq_true key, after.reverse, before.reverse, by simp, ?_⟩
    intro m hm
    have := hafter m (List.mem_reverse.mp hm)
    simpa using this

theorem member?_eq_none_iff {members : List (String × Value)} {key : String} :
    member? members key = none ↔ ∀ m ∈ members, m.1 ≠ key := by
  unfold member?
  rw [List.findRev?_eq_find?_reverse, Option.map_eq_none_iff, List.find?_eq_none]
  simp

end Lockstep.Json
