import Lockstep.Proofs.JsonGrammar

/-!
# Strings are read by the grammar

The reader of strings is a machine that takes one character at a time. `Pending` says which part of
an escape each of its states has read, so one step of the machine either closes the string, adds to
the escape, or completes the text of one character; that is `readString_step`, and the strings
that are read are those of the grammar by going through it.
-/

namespace Lockstep.Json

theorem hexNumber?_append {ds : List Char} {value unit d : Nat} {c : Char}
    (h : hexNumber? value ds = some unit) (hc : Hexadecimal.value? c = some d) :
    hexNumber? value (ds ++ [c]) = some (unit * 16 + d) := by
  induction ds generalizing value with
  | nil =>
      obtain rfl : value = unit := Option.some.inj h
      simp [hexNumber?, hc]
  | cons e ds ih =>
      simp only [hexNumber?, List.cons_append] at h ⊢
      cases he : Hexadecimal.value? e with
      | none => rw [he] at h; exact absurd h (by simp)
      | some f =>
          rw [he] at h
          exact ih h

theorem isLow_of_isHigh {unit : Nat} (h : isHigh unit = true) : isLow unit = false := by
  simp only [isHigh, isLow, Bool.and_eq_true, Bool.and_eq_false_iff, decide_eq_true_eq,
    decide_eq_false_iff_not] at h ⊢
  omega

/-- Some of the four digits of a unit. -/
structure PartUnit (ds : List Char) (owed value : Nat) : Prop where
  unfinished : 0 < owed
  length : ds.length + owed = 4
  number : hexNumber? 0 ds = some value

/-- What has been read of a character when the machine is in a state. -/
def Pending : EscapeState → List Char → Prop
  | .plain, p => p = []
  | .opened, p => p = ['\\']
  | .digits none owed value, p => ∃ ds, p = '\\' :: 'u' :: ds ∧ PartUnit ds owed value
  | .paired high, p => ∃ ds, p = '\\' :: 'u' :: ds ∧ UnitText ds high ∧ isHigh high = true
  | .pairedOpened high, p =>
    ∃ ds, p = '\\' :: 'u' :: (ds ++ ['\\']) ∧ UnitText ds high ∧ isHigh high = true
  | .digits (some high) owed value, p =>
    ∃ ds es, p = '\\' :: 'u' :: (ds ++ '\\' :: 'u' :: es) ∧ UnitText ds high ∧
      isHigh high = true ∧ PartUnit es owed value

theorem PartUnit.start : PartUnit [] 4 0 := ⟨by decide, rfl, rfl⟩

theorem PartUnit.last {ds : List Char} {owed value d : Nat} {c : Char} (h : PartUnit ds owed value)
    (hc : Hexadecimal.value? c = some d) (howed : ¬ owed > 1) :
    UnitText (ds ++ [c]) (value * 16 + d) where
  length := by
    have := h.unfinished
    have := h.length
    rw [List.length_append, List.length_singleton]
    omega
  number := hexNumber?_append h.number hc

theorem PartUnit.more {ds : List Char} {owed value d : Nat} {c : Char} (h : PartUnit ds owed value)
    (hc : Hexadecimal.value? c = some d) (howed : owed > 1) :
    PartUnit (ds ++ [c]) (owed - 1) (value * 16 + d) where
  unfinished := by omega
  length := by
    have := h.length
    rw [List.length_append, List.length_singleton]
    omega
  number := hexNumber?_append h.number hc

/-- **What one character does:** it closes the string, is part of an escape that is not complete,
or completes the text of a character. -/
theorem readString_step {state : EscapeState} {done p rest : List Char} {c : Char}
    {r : List Char × List Char} (h : readString state done (c :: rest) = .ok r)
    (hp : Pending state p) :
    (p = [] ∧ c = '"' ∧ r = (done.reverse, rest)) ∨
      (∃ later, Pending later (p ++ [c]) ∧ readString later done rest = .ok r) ∨
      ∃ d, CharText (p ++ [c]) d ∧ readString .plain (d :: done) rest = .ok r := by
  cases state with
  | plain =>
      obtain rfl : p = [] := hp
      simp only [readString] at h
      split at h
      · rename_i hquote
        exact .inl ⟨rfl, hquote, (Except.ok.inj h).symm⟩
      · split at h
        · rename_i hslash
          exact .inr (.inl ⟨.opened, by rw [hslash]; rfl, h⟩)
        · split at h
          · exact absurd h (by simp)
          · rename_i hquote hslash hcontrol
            exact .inr (.inr ⟨c, .plain hquote hslash hcontrol, h⟩)
  | opened =>
      obtain rfl : p = ['\\'] := hp
      simp only [readString] at h
      split at h
      · rename_i hu
        exact .inr (.inl ⟨.digits none 4 0, ⟨[], by rw [hu]; rfl, .start⟩, h⟩)
      · split at h
        · rename_i d hd
          exact .inr (.inr ⟨d, .short hd, h⟩)
        · exact absurd h (by simp)
  | digits high owed value =>
      simp only [readString] at h
      cases hc : Hexadecimal.value? c with
      | none => rw [hc] at h; exact absurd h (by simp)
      | some d =>
          rw [hc] at h
          dsimp only at h
          split at h
          · -- a digit that is not the last of its unit
            rename_i howed
            refine .inr (.inl ⟨.digits high (owed - 1) (value * 16 + d), ?_, h⟩)
            cases high with
            | none =>
                obtain ⟨ds, rfl, hds⟩ := hp
                exact ⟨ds ++ [c], rfl, hds.more hc howed⟩
            | some high =>
                obtain ⟨ds, es, rfl, hunit, hhigh, hes⟩ := hp
                exact ⟨ds, es ++ [c], by simp, hunit, hhigh, hes.more hc howed⟩
          · rename_i howed
            cases high with
            | none =>
                obtain ⟨ds, rfl, hds⟩ := hp
                have hunit := hds.last hc howed
                dsimp only at h
                split at h
                · exact absurd h (by simp)
                · split at h
                  · -- the unit begins a pair
                    rename_i hhigh
                    exact .inr (.inl ⟨.paired _, ⟨ds ++ [c], rfl, hunit, hhigh⟩, h⟩)
                  · rename_i hlow hhigh
                    exact .inr (.inr ⟨_, .unit hunit (by simpa using hhigh) (by simpa using hlow),
                      h⟩)
            | some high =>
                obtain ⟨ds, es, rfl, hfirst, hhigh, hes⟩ := hp
                have hunit := hes.last hc howed
                dsimp only at h
                split at h
                · rename_i hlow
                  refine .inr (.inr ⟨_, ?_, h⟩)
                  have hpair := CharText.pair hfirst hhigh hunit hlow
                  simpa using hpair
                · exact absurd h (by simp)
  | paired high =>
      obtain ⟨ds, rfl, hunit, hhigh⟩ := hp
      simp only [readString] at h
      split at h
      · rename_i hslash
        exact .inr (.inl ⟨.pairedOpened high, ⟨ds, by rw [hslash]; rfl, hunit, hhigh⟩, h⟩)
      · exact absurd h (by simp)
  | pairedOpened high =>
      obtain ⟨ds, rfl, hunit, hhigh⟩ := hp
      simp only [readString] at h
      split at h
      · rename_i hu
        refine .inr (.inl ⟨.digits (some high) 4 0, ⟨ds, [], ?_, hunit, hhigh, .start⟩, h⟩)
        rw [hu]
        simp
      · exact absurd h (by simp)

/-- A string that is read is one of the grammar, also from the middle of an escape. -/
theorem readString_sound {state : EscapeState} {done p s cs rest : List Char}
    (h : readString state done s = .ok (cs, rest)) (hp : Pending state p) :
    ∃ body chars, CharsText body chars ∧ p ++ s = body ++ '"' :: rest ∧
      cs = done.reverse ++ chars := by
  induction s generalizing state done p with
  | nil =>
      cases state <;> simp [readString] at h
  | cons c s ih =>
      rcases readString_step h hp with ⟨rfl, rfl, heq⟩ | ⟨later, hlater, h⟩ | ⟨d, hd, h⟩
      · obtain ⟨rfl, rfl⟩ := Prod.mk.inj heq
        exact ⟨[], [], .nil, rfl, by simp⟩
      · obtain ⟨body, chars, hbody, htext, hcs⟩ := ih h hlater
        exact ⟨body, chars, hbody, by rw [← htext]; simp, hcs⟩
      · -- a character is complete, and the machine starts on the next one
        obtain ⟨body, chars, hbody, htext, hcs⟩ := ih (p := []) h rfl
        refine ⟨(p ++ [c]) ++ body, d :: chars, .cons hd hbody, ?_, by rw [hcs]; simp⟩
        rw [List.append_assoc, ← htext]
        simp

/-- The digits of a unit are read one after another. -/
theorem readString_digits (high : Option Nat) {ds : List Char} {owed value unit : Nat}
    (hlength : ds.length = owed + 1) (hnumber : hexNumber? value ds = some unit)
    (done rest : List Char) :
    readString (.digits high (owed + 1) value) done (ds ++ rest) =
      match high with
      | none =>
        if isLow unit then .error (.before .loneSurrogate rest)
        else if isHigh unit then readString (.paired unit) done rest
        else readString .plain (Char.ofNat unit :: done) rest
      | some first =>
        if isLow unit then readString .plain (ofPair first unit :: done) rest
        else .error (.before .loneSurrogate rest) := by
  induction ds generalizing owed value with
  | nil => exact absurd hlength (by simp)
  | cons c ds ih =>
      rw [hexNumber?] at hnumber
      cases hc : Hexadecimal.value? c with
      | none => rw [hc] at hnumber; exact absurd hnumber (by simp)
      | some d =>
          rw [hc] at hnumber
          rw [List.cons_append, readString]
          cases owed with
          | zero =>
              obtain rfl : ds = [] := List.eq_nil_of_length_eq_zero (by simpa using hlength)
              obtain rfl : value * 16 + d = unit := Option.some.inj hnumber
              rw [hc]
              rfl
          | succ owed =>
              rw [hc]
              dsimp only
              rw [if_pos (by omega), Nat.add_sub_cancel]
              exact ih (by simpa using hlength) hnumber

/-- **The text of a character is read** as this character. -/
theorem readString_char {t : List Char} {c : Char} (h : CharText t c) (done rest : List Char) :
    readString .plain done (t ++ rest) = readString .plain (c :: done) rest := by
  cases h with
  | plain hquote hslash hcontrol => simp [readString, hquote, hslash, hcontrol]
  | @short letter c hc =>
      have hu : letter ≠ 'u' := by
        rintro rfl
        rw [show shortEscape? 'u' = none by decide] at hc
        exact absurd hc (by simp)
      simp [readString, hu, hc]
  | unit hunit hhigh hlow =>
      have hdigits := readString_digits none hunit.length hunit.number done
      simp [readString, hdigits, hhigh, hlow]
  | @pair ds es high low hfirst hhigh hsecond hlow =>
      have hd := readString_digits none hfirst.length hfirst.number done
      have he := readString_digits (some high) hsecond.length hsecond.number done
      simp [readString, hd, he, hhigh, hlow, isLow_of_isHigh hhigh]

theorem readString_chars {body cs : List Char} (h : CharsText body cs) (done rest : List Char) :
    readString .plain done (body ++ '"' :: rest) = .ok (done.reverse ++ cs, rest) := by
  induction h generalizing done with
  | nil => simp [readString]
  | cons hc _ ih =>
      rw [List.append_assoc, readString_char hc, ih]
      simp

end Lockstep.Json
