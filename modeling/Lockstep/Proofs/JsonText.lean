import Lockstep.Json.Printer
import Lockstep.Proofs.JsonParse

/-!
# Written JSON is read back

What is written is a text of the grammar, and it spells what was written; so the reader, which
accepts the grammar, reads it back.

Statements go up from one character of a string and one digit of a number to the members of an
object. Objects are those whose members are strings and natural numbers of 64 bits, one level
deep.
-/

namespace Lockstep.Json

open Decimal (isDigit valueOf digit digits)

/-! ## Strings -/

theorem hexValue_digit {n : Nat} (h : n < 16) :
    Hexadecimal.value? (Hexadecimal.digit n) = some n := by
  revert n
  decide

/-- A control character is written as an escape of four digits, of which the first two are 0. -/
theorem charText_control {c : Char} (h : c.toNat < 0x20) :
    CharText ['\\', 'u', '0', '0', Hexadecimal.digit (c.toNat / 16),
      Hexadecimal.digit (c.toNat % 16)] c := by
  have hhigh := hexValue_digit (n := c.toNat / 16) (by omega)
  have hlow := hexValue_digit (n := c.toNat % 16) (by omega)
  have hzero : Hexadecimal.value? '0' = some 0 := by decide
  have hunit : UnitText ['0', '0', Hexadecimal.digit (c.toNat / 16),
      Hexadecimal.digit (c.toNat % 16)] c.toNat := by
    refine ⟨rfl, ?_⟩
    simp only [hexNumber?, hzero, hhigh, hlow, Option.some.injEq]
    omega
  have htext := CharText.unit hunit (by simp [isHigh]; omega) (by simp [isLow]; omega)
  rwa [Char.ofNat_toNat] at htext

/-- A character of a string is written as the grammar says. -/
theorem charText_escape (c : Char) : CharText (escape c) c := by
  unfold escape
  -- each character with an escape of its own is computed, and the others go by their kind
  split
  · rename_i h; subst h; exact .short rfl
  split
  · rename_i h; subst h; exact .short rfl
  split
  · rename_i h; subst h; exact .short rfl
  split
  · rename_i h; subst h; exact .short rfl
  split
  · rename_i h; subst h; exact .short rfl
  split
  · rename_i h; subst h; exact .short rfl
  split
  · rename_i h; subst h; exact .short rfl
  split
  · rename_i h
    exact charText_control h
  · rename_i hquote hslash _ _ _ _ _ hcontrol
    exact .plain hquote hslash hcontrol

theorem charsText_escapes (s : List Char) : CharsText (s.flatMap escape) s := by
  induction s with
  | nil => exact .nil
  | cons c s ih => exact .cons (charText_escape c) ih

theorem stringText_render (s : String) : StringText (renderString s.toList) s :=
  ⟨_, s.toList, charsText_escapes s.toList, rfl, String.ofList_toList.symm⟩

/-! ## Numbers -/

theorem isDigit_digit {n : Nat} (h : n < 10) : isDigit (digit n) = true := by
  revert n
  decide

theorem valueOf_digit {n : Nat} (h : n < 10) : valueOf (digit n) = n := by
  revert n
  decide

theorem isDigit_of_mem_digits {n : Nat} {c : Char} (h : c ∈ digits n) : isDigit c = true := by
  fun_induction digits n with
  | case1 n hn =>
      rw [List.mem_singleton.mp h]
      exact isDigit_digit hn
  | case2 n hn ih =>
      rcases List.mem_append.mp h with h | h
      · exact ih h
      · rw [List.mem_singleton.mp h]
        exact isDigit_digit (Nat.mod_lt _ (by decide))

/-- Only the numeral of zero begins with a zero. -/
theorem digits_head {n : Nat} (h : n ≠ 0) : ∃ c rest, digits n = c :: rest ∧ c ≠ '0' := by
  fun_induction digits n with
  | case1 n hn =>
      refine ⟨_, [], rfl, ?_⟩
      revert n
      decide
  | case2 n hn ih =>
      obtain ⟨c, rest, hcons, hzero⟩ := ih (by omega)
      exact ⟨c, rest ++ [digit (n % 10)], by rw [hcons]; rfl, hzero⟩

/-- A numeral is one zero, or begins with another digit. -/
theorem digits_cases (n : Nat) :
    digits n = ['0'] ∨
      ∃ c ds, digits n = c :: ds ∧ c ≠ '0' ∧ ∀ d ∈ c :: ds, isDigit d = true := by
  by_cases hn : n = 0
  · refine .inl ?_
    rw [hn, digits]
    rfl
  · obtain ⟨c, ds, hcons, hc⟩ := digits_head hn
    exact .inr ⟨c, ds, hcons, hc, fun d hd => isDigit_of_mem_digits (hcons ▸ hd)⟩

theorem wholeText_digits (n : Nat) : WholeText (digits n) := by
  rcases digits_cases n with hzero | ⟨c, ds, hcons, hc, hall⟩
  · rw [hzero]
    exact ⟨⟨by simp, List.forall_mem_singleton.mpr rfl⟩, fun _ => rfl⟩
  · rw [hcons]
    exact ⟨⟨by simp, hall⟩, fun hhead => absurd (Option.some.inj hhead) hc⟩

theorem natOf_digits (n : Nat) : natOf (digits n) = n := by
  fun_induction digits n with
  | case1 n hn => simp [natOf, natFrom, valueOf_digit hn]
  | case2 n hn ih =>
      rw [natOf, natFrom] at ih ⊢
      rw [List.foldl_append, ih, List.foldl_cons, List.foldl_nil,
        valueOf_digit (Nat.mod_lt _ (by decide))]
      omega

/-- **A natural number of 64 bits is written by its digits.** -/
theorem numberText_digits {n : Nat} (h : n ≤ Decimal.max64) :
    NumberText (digits n) (.natural n) := by
  refine ⟨⟨false, digits n, none, none⟩, ⟨wholeText_digits n, nofun, nofun⟩, ?_, ?_⟩
  · simp [Numeral.text, Numeral.body, fractionText, scaleText]
  · exact Numeral.number?_eq_natural.mpr ⟨rfl, rfl, rfl, natOf_digits n, h⟩

/-! ## Values and objects -/

/-- A value that is written as the grammar says, however deep it stands. -/
def Legible (v : Value) : Prop := ∀ depth, ValueText depth v.render v

theorem legible_string (s : String) : Legible (.string s) :=
  (ScalarText.string (stringText_render s)).value

theorem legible_natural {n : Nat} (h : n ≤ Decimal.max64) : Legible (.number (.natural n)) :=
  (ScalarText.number (numberText_digits h)).value

/-- The text of one member. -/
def renderMember (m : String × Value) : List Char := renderString m.1.toList ++ ':' :: m.2.render

theorem renderMembers_eq_map (members : List (String × Value)) :
    renderMembers members = members.map renderMember := by
  induction members with
  | nil => rfl
  | cons m rest ih =>
      obtain ⟨key, v⟩ := m
      rw [renderMembers, ih]
      rfl

theorem commaSeparated_cons (s : List Char) (rest : List (List Char)) :
    commaSeparated (s :: rest) = s ++ rest.flatMap (',' :: ·) := by
  induction rest generalizing s with
  | nil => simp [commaSeparated]
  | cons t rest ih => simp [commaSeparated, ih]

theorem padded_of {α : Type} {P : List Char → α → Prop} {text : List Char} {a : α}
    (h : P text a) : Padded P text a :=
  ⟨[], text, [], nofun, h, nofun, by simp⟩

theorem memberText_render {m : String × Value} (h : Legible m.2) (depth : Nat) :
    MemberText (ValueText depth) (renderMember m) m :=
  ⟨_, [], [], _, stringText_render m.1, nofun, nofun, h depth, rfl⟩

/-- Members with commas between them are a row. -/
theorem row_render {m : String × Value} {members : List (String × Value)}
    (h : ∀ m' ∈ m :: members, Legible m'.2) (depth : Nat) :
    Row (Padded (MemberText (ValueText depth)))
      (commaSeparated ((m :: members).map renderMember)) (m :: members) := by
  rw [List.map_cons, commaSeparated_cons]
  induction members generalizing m with
  | nil =>
      have hm := memberText_render (h m List.mem_cons_self) depth
      simpa using Row.one (padded_of hm)
  | cons m' members ih =>
      obtain ⟨hm, hmembers⟩ := List.forall_mem_cons.mp h
      rw [List.map_cons, List.flatMap_cons, List.cons_append]
      exact .cons (padded_of (memberText_render hm depth)) (ih hmembers)

/-- **The text of an object of legible members is the text of that object.** -/
theorem parse_render {members : List (String × Value)} (h : ∀ m ∈ members, Legible m.2) :
    parse (Value.object members).render = .ok (.object members) := by
  have hlisted : Listed (MemberText (ValueText 126)) (commaSeparated (renderMembers members))
      members := by
    rw [renderMembers_eq_map]
    cases members with
    | nil => exact .empty nofun
    | cons m members => exact .row (row_render h 126)
  refine parse_eq_ok_iff.mpr (padded_of (.inr (.inr ⟨_, members, hlisted, ?_, rfl⟩)))
  rfl

end Lockstep.Json
