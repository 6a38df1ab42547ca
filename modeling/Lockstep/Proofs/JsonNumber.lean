import Lockstep.Proofs.JsonGrammar

/-!
# Numbers are read by the grammar

The reader takes the parts of a numeral one after another: digits, a fraction, an exponent. Each part
is taken as far as it goes, so the numeral that is read is the one that is written if nothing follows
that could belong to it; `Ended` says that nothing does. The parts then have the number of the
numeral, and none where its magnitude is too large.
-/

namespace Lockstep.Json

open Decimal (isDigit valueOf)

/-- What follows does not begin with a digit. -/
def NoDigit (rest : List Char) : Prop := ∀ c, rest.head? = some c → isDigit c = false

/-- Nothing follows that could go on with a number. -/
def Ended (rest : List Char) : Prop :=
  ∀ c, rest.head? = some c → isDigit c = false ∧ c ≠ '.' ∧ c ≠ 'e' ∧ c ≠ 'E'

theorem Ended.noDigit {rest : List Char} (h : Ended rest) : NoDigit rest := fun c hc => (h c hc).1

theorem spanDigits_append {ds rest : List Char} (hds : ∀ c ∈ ds, isDigit c = true)
    (hrest : NoDigit rest) : spanDigits (ds ++ rest) = (ds, rest) := by
  have hstop : rest.takeWhile isDigit = [] ∧ rest.dropWhile isDigit = rest := by
    cases rest with
    | nil => exact ⟨rfl, rfl⟩
    | cons c rest => simp [hrest c rfl]
  rw [spanDigits, List.takeWhile_append_of_pos hds, List.dropWhile_append_of_pos hds, hstop.1,
    hstop.2, List.append_nil]

/-- The run of digits at the front of a text, if there is one. -/
theorem spanDigits_sound {s ds rest : List Char} (h : spanDigits s = (ds, rest)) :
    s = ds ++ rest ∧ ∀ c ∈ ds, isDigit c = true := by
  obtain ⟨rfl, rfl⟩ := Prod.mk.inj h
  exact ⟨List.takeWhile_append_dropWhile.symm, List.all_eq_true.mp List.all_takeWhile⟩

/-! ## The parts of a numeral -/

theorem readWhole_sound {s whole rest : List Char} (h : readWhole s = .ok (whole, rest)) :
    s = whole ++ rest ∧ WholeText whole := by
  have hzero : WholeText ['0'] := ⟨⟨by simp, List.forall_mem_singleton.mpr rfl⟩, fun _ => rfl⟩
  unfold readWhole at h
  split at h
  · exact absurd h (by simp)
  · rename_i tail
    have : whole = ['0'] ∧ tail = rest := by
      split at h
      · split at h
        · exact absurd h (by simp)
        · simpa [eq_comm] using h
      · simpa [eq_comm] using h
    obtain ⟨rfl, rfl⟩ := this
    exact ⟨rfl, hzero⟩
  · rename_i c tail hne
    split at h
    · rename_i hc
      obtain ⟨hs, hds⟩ := spanDigits_sound (Except.ok.inj h)
      refine ⟨hs, ⟨?_, hds⟩, ?_⟩
      · rintro rfl
        -- the first character is a digit, so the run is not empty
        have := congrArg Prod.fst (Except.ok.inj h)
        simp [spanDigits, hc] at this
      · intro hhead
        cases whole with
        | nil => exact absurd hhead (by simp)
        | cons d ds =>
            obtain rfl : d = '0' := by simpa using hhead
            exact absurd (List.cons.inj hs).1 hne
    · exact absurd h (by simp)

theorem readWhole_text {whole : List Char} (h : WholeText whole) {rest : List Char}
    (hrest : NoDigit rest) : readWhole (whole ++ rest) = .ok (whole, rest) := by
  obtain ⟨⟨hne, hds⟩, hzero⟩ := h
  cases whole with
  | nil => exact absurd rfl hne
  | cons c ds =>
      by_cases hc : c = '0'
      · -- a zero stands alone, and the reader ends the number after it
        obtain rfl : ds = [] := by simpa [hc] using hzero (by rw [hc]; rfl)
        subst hc
        cases rest with
        | nil => rfl
        | cons d rest => simp [readWhole, hrest d rfl]
      · have hspan := spanDigits_append hds hrest
        have hcdigit : isDigit c = true := hds c List.mem_cons_self
        rw [List.cons_append] at hspan ⊢
        unfold readWhole
        split
        · rename_i heq; exact absurd heq (by simp)
        · rename_i heq; exact absurd (List.cons.inj heq).1 hc
        · rename_i heq
          rw [← (List.cons.inj heq).1, if_pos hcdigit, hspan]

theorem readFraction_sound {s rest : List Char} {fraction : Option (List Char)}
    (h : readFraction s = .ok (fraction, rest)) :
    s = fractionText fraction ++ rest ∧ ∀ ds, fraction = some ds → Digits ds := by
  unfold readFraction at h
  split at h
  · rename_i tail
    split at h
    · exact absurd h (by simp)
    · exact absurd h (by simp)
    · rename_i ds other hne hspan
      obtain ⟨rfl, rfl⟩ := Prod.mk.inj (Except.ok.inj h)
      obtain ⟨rfl, hds⟩ := spanDigits_sound hspan
      refine ⟨rfl, ?_⟩
      intro es hes
      obtain rfl := Option.some.inj hes
      refine ⟨?_, hds⟩
      rintro rfl
      exact hne rfl
  · obtain ⟨rfl, rfl⟩ := Prod.mk.inj (Except.ok.inj h)
    exact ⟨rfl, nofun⟩

theorem readFraction_text {fraction : Option (List Char)}
    (h : ∀ ds, fraction = some ds → Digits ds) {rest : List Char} (hrest : NoDigit rest)
    (hpoint : rest.head? ≠ some '.') :
    readFraction (fractionText fraction ++ rest) = .ok (fraction, rest) := by
  cases fraction with
  | none =>
      unfold readFraction
      split
      · rename_i heq
        exact absurd (congrArg List.head? heq) hpoint
      · rfl
  | some ds =>
      obtain ⟨hne, hds⟩ := h ds rfl
      have hspan := spanDigits_append hds hrest
      cases ds with
      | nil => exact absurd rfl hne
      | cons d ds =>
          rw [fractionText, List.cons_append, readFraction, hspan]

theorem natFrom_cons (value : Nat) (c : Char) (ds : List Char) :
    natFrom value (c :: ds) = natFrom (value * 10 + valueOf c) ds := by
  rw [natFrom, natFrom, List.foldl_cons]

theorem le_natFrom (value : Nat) (ds : List Char) : value ≤ natFrom value ds := by
  induction ds generalizing value with
  | nil => exact Nat.le_refl _
  | cons c ds ih =>
      have := ih (value * 10 + valueOf c)
      rw [natFrom_cons]
      omega

/-- What the reader makes of the digits of an exponent that stand for `n`. -/
def Exponent.Reads (isNegative : Bool) (n : Nat) : Exponent → Prop
  | .fits v => n ≤ maxPower ∧ v = if isNegative then -(n : Int) else n
  | .huge b _ => maxPower < n ∧ b = isNegative

theorem readExponent_sound {isNegative : Bool} {value : Nat} {s rest : List Char} {e : Exponent}
    (hvalue : value ≤ maxPower) (h : readExponent isNegative value s = (e, rest)) :
    ∃ ds, s = ds ++ rest ∧ (∀ c ∈ ds, isDigit c = true) ∧
      e.Reads isNegative (natFrom value ds) := by
  induction s generalizing value with
  | nil =>
      obtain ⟨rfl, rfl⟩ := Prod.mk.inj h
      exact ⟨[], rfl, nofun, hvalue, rfl⟩
  | cons c s ih =>
      rw [readExponent] at h
      split at h
      · rename_i hc
        dsimp only at h
        split at h
        · rename_i hfits
          obtain ⟨ds, rfl, hds, hreads⟩ := ih hfits h
          exact ⟨c :: ds, rfl, List.forall_mem_cons.mpr ⟨hc, hds⟩, hreads⟩
        · -- one digit shows that the exponent is too large, and the others do not count
          rename_i hhuge
          obtain ⟨rfl, rfl⟩ := Prod.mk.inj h
          refine ⟨c :: s.takeWhile isDigit, ?_, ?_, ?_, rfl⟩
          · rw [List.cons_append, List.takeWhile_append_dropWhile]
          · exact List.forall_mem_cons.mpr ⟨hc, List.all_eq_true.mp List.all_takeWhile⟩
          · have := le_natFrom (value * 10 + valueOf c) (s.takeWhile isDigit)
            rw [natFrom_cons]
            unfold maxPower
            omega
      · obtain ⟨rfl, rfl⟩ := Prod.mk.inj h
        exact ⟨[], rfl, nofun, hvalue, rfl⟩

theorem readExponent_digits (isNegative : Bool) {value : Nat} (hvalue : value ≤ maxPower)
    {ds : List Char} (hds : ∀ c ∈ ds, isDigit c = true) {rest : List Char} (hrest : NoDigit rest) :
    ∃ e, readExponent isNegative value (ds ++ rest) = (e, rest) ∧
      e.Reads isNegative (natFrom value ds) := by
  induction ds generalizing value with
  | nil =>
      refine ⟨.fits _, ?_, hvalue, rfl⟩
      cases rest with
      | nil => rfl
      | cons c rest => simp [readExponent, hrest c rfl, natFrom]
  | cons c ds ih =>
      obtain ⟨hc, hds⟩ := List.forall_mem_cons.mp hds
      rw [List.cons_append, readExponent, if_pos hc]
      dsimp only
      by_cases hfits : value * 10 + valueOf c ≤ 2147483647
      · rw [if_pos hfits]
        exact ih hfits hds
      · rw [if_neg hfits]
        have hspan := congrArg Prod.snd (spanDigits_append hds hrest)
        refine ⟨.huge isNegative (ds ++ rest), ?_, ?_, rfl⟩
        · rw [show (ds ++ rest).dropWhile isDigit = rest from hspan]
        · have := le_natFrom (value * 10 + valueOf c) ds
          rw [natFrom_cons]
          unfold maxPower
          omega

theorem valueOf_le_maxPower {c : Char} (h : isDigit c = true) : valueOf c ≤ maxPower := by
  simp only [isDigit, Bool.and_eq_true, decide_eq_true_eq] at h
  unfold valueOf maxPower
  omega

/-- What the reader makes of an exponent, where there is one. -/
def ScaleReads : Option Scale → Option Exponent → Prop
  | none, none => True
  | some p, some e => e.Reads p.isNegative (natOf p.digits)
  | _, _ => False

theorem readPower_sound {isNegative : Bool} {s rest : List Char} {exponent : Option Exponent}
    (h : readPower isNegative s = .ok (exponent, rest)) :
    ∃ ds e, Digits ds ∧ s = ds ++ rest ∧ exponent = some e ∧ e.Reads isNegative (natOf ds) := by
  unfold readPower at h
  split at h
  · exact absurd h (by simp)
  · rename_i c tail
    split at h
    · rename_i hc
      generalize hread : readExponent isNegative (valueOf c) tail = r at h
      obtain ⟨e, other⟩ := r
      obtain ⟨rfl, rfl⟩ := Prod.mk.inj (Except.ok.inj h)
      obtain ⟨ds, rfl, hds, hreads⟩ := readExponent_sound (valueOf_le_maxPower hc) hread
      refine ⟨c :: ds, e, ⟨by simp, List.forall_mem_cons.mpr ⟨hc, hds⟩⟩, rfl, rfl, ?_⟩
      rw [natOf, natFrom_cons, Nat.zero_mul, Nat.zero_add]
      exact hreads
    · exact absurd h (by simp)

theorem readPower_digits (isNegative : Bool) {ds : List Char} (h : Digits ds) {rest : List Char}
    (hrest : NoDigit rest) : ∃ e, readPower isNegative (ds ++ rest) = .ok (some e, rest) ∧
      e.Reads isNegative (natOf ds) := by
  obtain ⟨hne, hds⟩ := h
  cases ds with
  | nil => exact absurd rfl hne
  | cons c ds =>
      obtain ⟨hc, hds⟩ := List.forall_mem_cons.mp hds
      obtain ⟨e, he, hreads⟩ :=
        readExponent_digits isNegative (valueOf_le_maxPower hc) hds hrest
      refine ⟨e, ?_, ?_⟩
      · rw [List.cons_append, readPower, if_pos hc, he]
      · rw [natOf, natFrom_cons, Nat.zero_mul, Nat.zero_add]
        exact hreads

theorem readScale_sound {s rest : List Char} {exponent : Option Exponent}
    (h : readScale s = .ok (exponent, rest)) :
    ∃ scale, s = scaleText scale ++ rest ∧ (∀ p, scale = some p → p.WellFormed) ∧
      ScaleReads scale exponent := by
  have hnone : ∀ s : List Char, (none, s) = (exponent, rest) →
      ∃ scale, s = scaleText scale ++ rest ∧ (∀ p, scale = some p → p.WellFormed) ∧
        ScaleReads scale exponent := by
    intro s hs
    obtain ⟨rfl, rfl⟩ := Prod.mk.inj hs
    exact ⟨none, rfl, nofun, trivial⟩
  unfold readScale at h
  split at h
  · rename_i c tail
    split at h
    · rename_i hmark
      -- the sign says whether the digits after it make the number smaller
      have hpower : ∀ sign after, tail = sign ++ after → sign = [] ∨ sign = ['+'] ∨ sign = ['-'] →
          readPower (sign == ['-']) after = .ok (exponent, rest) →
          ∃ scale, c :: tail = scaleText scale ++ rest ∧ (∀ p, scale = some p → p.WellFormed) ∧
            ScaleReads scale exponent := by
        rintro sign after rfl hsign hread
        obtain ⟨ds, e, hds, rfl, rfl, hreads⟩ := readPower_sound hread
        refine ⟨some ⟨c, sign, ds⟩, by simp [scaleText, Scale.text], ?_, hreads⟩
        intro p hp
        obtain rfl := Option.some.inj hp
        exact ⟨hmark, hsign, hds⟩
      split at h
      · exact hpower ['+'] _ rfl (by simp) h
      · exact hpower ['-'] _ rfl (by simp) h
      · exact hpower [] _ rfl (by simp) h
    · exact hnone _ (Except.ok.inj h)
  · exact hnone _ (Except.ok.inj h)

theorem readScale_text {scale : Option Scale} (h : ∀ p, scale = some p → p.WellFormed)
    {rest : List Char} (hrest : Ended rest) :
    ∃ exponent, readScale (scaleText scale ++ rest) = .ok (exponent, rest) ∧
      ScaleReads scale exponent := by
  cases scale with
  | none =>
      refine ⟨none, ?_, trivial⟩
      cases rest with
      | nil => rfl
      | cons c rest =>
          obtain ⟨-, -, he, hE⟩ := hrest c rfl
          simp [scaleText, readScale, he, hE]
  | some p =>
      obtain ⟨hmark, hsign, hds⟩ := h p rfl
      obtain ⟨e, hread, hreads⟩ := readPower_digits p.isNegative hds hrest.noDigit
      refine ⟨some e, ?_, hreads⟩
      obtain ⟨mark, sign, ds⟩ := p
      simp only at hmark hsign hds
      simp only [scaleText, Scale.text, List.cons_append, List.append_assoc, readScale, if_pos hmark]
      simp only [Scale.isNegative] at hread
      rcases hsign with rfl | rfl | rfl
      · -- without a sign the digits follow at once, and no digit is a sign
        obtain ⟨hne, hdigit⟩ := hds
        cases ds with
        | nil => exact absurd rfl hne
        | cons d ds =>
            have hd := hdigit d List.mem_cons_self
            rw [List.nil_append, List.cons_append] at *
            split
            · rename_i heq
              rw [(List.cons.inj heq).1] at hd
              exact absurd hd (by decide)
            · rename_i heq
              rw [(List.cons.inj heq).1] at hd
              exact absurd hd (by decide)
            · exact hread
      · exact hread
      · exact hread

/-! ## The value of a numeral -/

/-- Digits that fit in 64 bits are all taken. -/
theorem addWhole_fits {value : Nat} {ds : List Char} (h : natFrom value ds ≤ Decimal.max64) :
    Significand.addWhole value ds = ⟨natFrom value ds, 0⟩ := by
  induction ds generalizing value with
  | nil => rfl
  | cons c ds ih =>
      rw [natFrom_cons] at h ⊢
      have := le_natFrom (value * 10 + valueOf c) ds
      rw [Significand.addWhole, if_pos (by omega), ih h]

/-- Of digits that do not fit some are only counted. -/
theorem addWhole_exceeds {value : Nat} {ds : List Char} (hvalue : value ≤ Decimal.max64)
    (h : Decimal.max64 < natFrom value ds) : (Significand.addWhole value ds).exponent ≠ 0 := by
  induction ds generalizing value with
  | nil => exact absurd hvalue (Nat.not_le.mpr h)
  | cons c ds ih =>
      rw [natFrom_cons] at h
      rw [Significand.addWhole]
      split
      · rename_i hfits
        exact ih hfits h
      · show (ds.length + 1 : Int) ≠ 0
        omega

/-- Where an integer is expected, it is one of 64 bits. -/
theorem isWhole_iff (n : Numeral) {exponent : Option Exponent} (h : ScaleReads n.scale exponent) :
    (n.fraction.isNone = true ∧ exponent.isNone = true ∧
        (Significand.addWhole 0 n.whole).exponent = 0) ↔ n.isWhole = true := by
  have hscale : exponent.isNone = n.scale.isNone := by
    cases hs : n.scale <;> cases exponent <;> rw [hs] at h <;> first | rfl | exact h.elim
  have hfits : (Significand.addWhole 0 n.whole).exponent = 0 ↔ natOf n.whole ≤ Decimal.max64 := by
    constructor
    · intro hzero
      refine Nat.le_of_not_lt ?_
      intro hlarge
      exact addWhole_exceeds (Nat.zero_le _) hlarge hzero
    · intro hsmall
      rw [addWhole_fits hsmall]
  rw [hscale, hfits, Numeral.isWhole]
  simp [and_assoc]

/-- A number that is not whole is read if its magnitude is in range. -/
theorem toOption_scaled (isNegative : Bool) (magnitude : Option Binary64) (fault : Fault) :
    Except.toOption (match magnitude with
      | some x => .ok (Number.real isNegative x)
      | none => .error fault) = magnitude.map (.real isNegative) := by
  cases magnitude <;> rfl

/-- **The parts that were read have the number of the numeral,** or none where it has none. -/
theorem value_eq_number? (n : Numeral) {exponent : Option Exponent}
    (h : ScaleReads n.scale exponent) (rest : List Char) :
    (Parts.value ⟨n.isNegative, n.whole, n.fraction, exponent⟩ rest).toOption = n.number? := by
  unfold Parts.value Numeral.number?
  dsimp only
  by_cases hw : n.isWhole = true
  · -- an integer, and the sign decides between the three kinds
    have hfits : natOf n.whole ≤ Decimal.max64 := by
      rw [Numeral.isWhole, Bool.and_eq_true, decide_eq_true_eq] at hw
      exact hw.2
    have hwhole : Significand.addWhole 0 n.whole = ⟨natOf n.whole, 0⟩ := addWhole_fits hfits
    rw [if_pos ((isWhole_iff n h).mpr hw), if_pos hw, hwhole]
    cases n.isNegative with
    | false => rfl
    | true =>
        simp only [Bool.not_true, Bool.false_eq_true, if_false]
        split <;> rfl
  · rw [if_neg (fun hc => hw ((isWhole_iff n h).mp hc)), if_neg hw, Numeral.magnitude?]
    generalize (Significand.addWhole 0 n.whole).addFraction (n.fraction.getD []) = s
    cases hs : n.scale with
    | none =>
        rw [hs] at h
        cases exponent with
        | some e => exact h.elim
        | none =>
            dsimp only
            rw [Int.add_zero]
            exact toOption_scaled _ _ _
    | some p =>
        rw [hs] at h
        cases exponent with
        | none => exact h.elim
        | some e =>
            cases e with
            | fits v =>
                obtain ⟨hsmall, rfl⟩ := h
                dsimp only
                rw [if_pos hsmall]
                exact toOption_scaled _ _ _
            | huge b place =>
                obtain ⟨hlarge, rfl⟩ := h
                dsimp only
                rw [if_neg (Nat.not_le.mpr hlarge)]
                split <;> rfl

/-! ## Numbers -/

theorem readNumber_sound {isNegative : Bool} {s rest : List Char} {x : Number}
    (h : readNumber isNegative s = .ok (x, rest)) :
    ∃ n : Numeral, n.WellFormed ∧ n.isNegative = isNegative ∧ s = n.body ++ rest ∧
      n.number? = some x := by
  unfold readNumber at h
  cases hwhole : readWhole s with
  | error fault => rw [hwhole] at h; exact absurd h nofun
  | ok r =>
      obtain ⟨whole, s1⟩ := r
      obtain ⟨rfl, hw⟩ := readWhole_sound hwhole
      rw [hwhole] at h
      cases hfraction : readFraction s1 with
      | error fault => simp [bind, Except.bind, hfraction] at h
      | ok r =>
          obtain ⟨fraction, s2⟩ := r
          obtain ⟨rfl, hf⟩ := readFraction_sound hfraction
          cases hscale : readScale s2 with
          | error fault => simp [bind, Except.bind, hfraction, hscale] at h
          | ok r =>
              obtain ⟨exponent, s3⟩ := r
              obtain ⟨scale, rfl, hp, hreads⟩ := readScale_sound hscale
              have hvalue := value_eq_number? ⟨isNegative, whole, fraction, scale⟩ hreads s3
              cases hx : Parts.value ⟨isNegative, whole, fraction, exponent⟩ s3 with
              | error fault => simp [bind, Except.bind, hfraction, hscale, hx] at h
              | ok y =>
                  simp only [bind, Except.bind, hfraction, hscale, hx, pure, Except.pure,
                    Except.ok.injEq, Prod.mk.injEq] at h
                  obtain ⟨rfl, rfl⟩ := h
                  rw [hx] at hvalue
                  exact ⟨⟨isNegative, whole, fraction, scale⟩, ⟨hw, hf, hp⟩, rfl,
                    by simp [Numeral.body], hvalue.symm⟩

/-- **The text of a number is read** where nothing follows that could belong to it. -/
theorem readNumber_body {n : Numeral} {x : Number} (h : n.WellFormed) (hx : n.number? = some x)
    {rest : List Char} (hrest : Ended rest) :
    readNumber n.isNegative (n.body ++ rest) = .ok (x, rest) := by
  obtain ⟨hwhole, hfraction, hscale⟩ := h
  -- what follows the digits before the point, and what follows the fraction
  have hscaleText : ∀ c, (scaleText n.scale ++ rest).head? = some c →
      isDigit c = false ∧ c ≠ '.' := by
    intro c hc
    cases hs : n.scale with
    | none =>
        rw [hs] at hc
        exact ⟨(hrest c hc).1, (hrest c hc).2.1⟩
    | some p =>
        rw [hs] at hc
        obtain rfl : p.mark = c := Option.some.inj hc
        rcases (hscale p hs).mark with h | h <;> rw [h] <;> decide
  have hfractionText : NoDigit (fractionText n.fraction ++ (scaleText n.scale ++ rest)) := by
    intro c hc
    cases hf : n.fraction with
    | none =>
        rw [hf] at hc
        exact (hscaleText c hc).1
    | some ds =>
        rw [hf] at hc
        obtain rfl : '.' = c := Option.some.inj hc
        rfl
  obtain ⟨exponent, hreadScale, hreads⟩ := readScale_text hscale hrest
  have hreadWhole := readWhole_text hwhole hfractionText
  have hreadFraction := readFraction_text hfraction (fun c hc => (hscaleText c hc).1)
    (fun hc => (hscaleText '.' hc).2 rfl)
  have hvalue := value_eq_number? n hreads rest
  rw [hx] at hvalue
  cases hv : Parts.value ⟨n.isNegative, n.whole, n.fraction, exponent⟩ rest with
  | error fault => rw [hv] at hvalue; exact absurd hvalue nofun
  | ok y =>
      rw [hv] at hvalue
      obtain rfl : y = x := Option.some.inj hvalue
      simp [Numeral.body, readNumber, hreadWhole, hreadFraction, hreadScale, hv, bind, Except.bind,
        pure, Except.pure]

end Lockstep.Json
