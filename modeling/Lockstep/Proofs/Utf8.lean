import Lockstep.Text.Utf8
import Lockstep.Wire.Source

/-!
# Text survives the wire

`encode` writes the bytes of each character in turn, and the reading machine takes them one at a
time. The range that a lead byte sets for the byte after it is the range in which the second
bytes of real characters lie, so a character that was written is never refused and comes back as
it was. Nor is anything else accepted: `Begun` holds what the machine knows in the middle of a
character against the bytes that it has read of it, and so bytes are text only if a text is written
by them (`decode_eq_ok_iff`).

The line feed is the other half: its byte is part of no character but the line feed, so cutting
bytes at line feeds cuts text at line feeds.
-/

namespace Lockstep.Utf8

/-- The numbers that characters have. -/
theorem toNat_range (c : Char) : c.toNat < 0xD800 ∨ 0xDFFF < c.toNat ∧ c.toNat < 0x110000 := c.valid

theorem toNat_byte {n : Nat} (h : n < 256) : (UInt8.ofNat n).toNat = n := by
  rw [UInt8.toNat_ofNat']
  omega

/-! ## One character -/

theorem lead_two {k : Nat} (h : 2 ≤ k) (hk : k < 32) :
    lead (UInt8.ofNat (0xC0 + k)) = .more ⟨0, 0x80, 0xBF, k, 1⟩ := by
  unfold lead
  rw [toNat_byte (by omega)]
  dsimp only
  rw [if_neg (by omega), if_neg (by omega), if_pos (by omega), Nat.add_sub_cancel_left]

theorem lead_three {k : Nat} (hk : k < 16) :
    lead (UInt8.ofNat (0xE0 + k)) =
      .more ⟨1, if k = 0 then 0xA0 else 0x80, if k = 13 then 0x9F else 0xBF, k, 1⟩ := by
  unfold lead
  rw [toNat_byte (by omega)]
  dsimp only
  rw [if_neg (by omega), if_neg (by omega), if_neg (by omega), if_pos (by omega),
    Nat.add_sub_cancel_left]
  simp only [Nat.add_eq_left, show (0xE0 + k = 0xED) = (k = 13) by simp only [eq_iff_iff]; omega]

theorem lead_four {k : Nat} (hk : k < 5) :
    lead (UInt8.ofNat (0xF0 + k)) =
      .more ⟨2, if k = 0 then 0x90 else 0x80, if k = 4 then 0x8F else 0xBF, k, 1⟩ := by
  unfold lead
  rw [toNat_byte (by omega)]
  dsimp only
  rw [if_neg (by omega), if_neg (by omega), if_neg (by omega), if_neg (by omega),
    if_pos (by omega), Nat.add_sub_cancel_left]
  simp only [Nat.add_eq_left, show (0xF0 + k = 0xF4) = (k = 4) by simp only [eq_iff_iff]; omega]

/-- The last byte of a character completes its number. -/
theorem next_last {low high value seen k : Nat} (hk : k < 64) (hl : low ≤ 0x80 + k)
    (hh : 0x80 + k ≤ high) :
    Partial.next ⟨0, low, high, value, seen⟩ (UInt8.ofNat (0x80 + k)) =
      .char (Char.ofNat (value * 64 + k)) := by
  unfold Partial.next
  rw [toNat_byte (by omega)]
  dsimp only
  rw [if_pos ⟨hl, hh⟩, if_pos rfl, Nat.add_sub_cancel_left]

/-- A byte before the last adds its six bits, and the byte after it may have any. -/
theorem next_more {owed low high value seen k : Nat} (hk : k < 64) (hl : low ≤ 0x80 + k)
    (hh : 0x80 + k ≤ high) :
    Partial.next ⟨owed + 1, low, high, value, seen⟩ (UInt8.ofNat (0x80 + k)) =
      .more ⟨owed, 0x80, 0xBF, value * 64 + k, seen + 1⟩ := by
  unfold Partial.next
  rw [toNat_byte (by omega)]
  dsimp only
  rw [if_pos ⟨hl, hh⟩, if_neg (Nat.succ_ne_zero owed), Nat.add_sub_cancel_left,
    Nat.add_sub_cancel]

/-- The machine reads back a character that was written. -/
theorem decodeFrom_encodeChar (done : List Char) (index : Nat) (c : Char) (rest : Bytes) :
    decodeFrom done index none (encodeChar c ++ rest) =
      decodeFrom (c :: done) (index + (encodeChar c).length) none rest := by
  have hc := toNat_range c
  have hback : Char.ofNat c.toNat = c := Char.ofNat_toNat c
  unfold encodeChar
  generalize c.toNat = n at hc hback
  dsimp only
  -- one case for each number of bytes; the last byte gives the whole number back
  split
  · rename_i h1
    have hl : lead (UInt8.ofNat n) = .char c := by
      unfold lead
      rw [toNat_byte (by omega)]
      dsimp only
      rw [if_pos h1, hback]
    simp only [List.cons_append, List.nil_append, decodeFrom, hl, List.length_cons,
      List.length_nil]
  · have hlast : n / 64 * 64 + n % 64 = n := by omega
    split
    · have h1 := lead_two (k := n / 64) (by omega) (by omega)
      simp only [List.cons_append, List.nil_append, decodeFrom, h1]
      rw [next_last (by omega) (by omega) (by omega), hlast, hback]
      rfl
    · have hthird : n / 4096 * 64 + n / 64 % 64 = n / 64 := by omega
      split
      · have h1 := lead_three (k := n / 4096) (by omega)
        simp only [List.cons_append, List.nil_append, decodeFrom, h1]
        rw [next_more (by omega) (by split <;> omega) (by split <;> omega), hthird]
        dsimp only
        rw [next_last (by omega) (by omega) (by omega), hlast, hback]
        rfl
      · have hsecond : n / 262144 * 64 + n / 4096 % 64 = n / 4096 := by omega
        have h1 := lead_four (k := n / 262144) (by omega)
        simp only [List.cons_append, List.nil_append, decodeFrom, h1]
        rw [next_more (by omega) (by split <;> omega) (by split <;> omega), hsecond]
        dsimp only
        rw [next_more (by omega) (by omega) (by omega), hthird]
        dsimp only
        rw [next_last (by omega) (by omega) (by omega), hlast, hback]
        rfl

/-- Reading on through written text puts its characters before those read so far. -/
theorem decodeFrom_encode (done : List Char) (index : Nat) (text : List Char) :
    decodeFrom done index none (encode text) = .ok (done.reverse ++ text) := by
  induction text generalizing done index with
  | nil => simp [encode, decodeFrom]
  | cons c rest ih =>
    rw [show encode (c :: rest) = encodeChar c ++ encode rest from List.flatMap_cons,
      decodeFrom_encodeChar, ih]
    simp

/-- **Text that was written is read back.** -/
theorem decode_encode (text : List Char) : decode (encode text) = .ok text :=
  decodeFrom_encode [] 0 text

theorem encode_append (s t : List Char) : encode (s ++ t) = encode s ++ encode t :=
  List.flatMap_append

/-! ## Nothing else is text -/

theorem toNat_ofNat {n : Nat} (h : n < 0xD800 ∨ 0xDFFF < n ∧ n < 0x110000) :
    (Char.ofNat n).toNat = n := by
  rw [Char.ofNat, dif_pos h]
  rfl

theorem ofNat_add_sub {b : UInt8} {n : Nat} (h : n ≤ b.toNat) :
    UInt8.ofNat (n + (b.toNat - n)) = b := by
  rw [Nat.add_sub_cancel' h, UInt8.ofNat_toNat]

/-- What the machine knows in the middle of a character, and the bytes that it has read of it. The
bounds leave only numbers that characters have, and that need as many bytes as were announced. -/
inductive Begun : Partial → Bytes → Prop
  | two {k : Nat} : 2 ≤ k → k < 32 → Begun ⟨0, 0x80, 0xBF, k, 1⟩ [UInt8.ofNat (0xC0 + k)]
  | three {low high k : Nat} : k < 16 → (k = 0 → 0xA0 ≤ low) → (k = 13 → high ≤ 0x9F) →
      0x80 ≤ low → high ≤ 0xBF → Begun ⟨1, low, high, k, 1⟩ [UInt8.ofNat (0xE0 + k)]
  | four {low high k : Nat} : k < 5 → (k = 0 → 0x90 ≤ low) → (k = 4 → high ≤ 0x8F) →
      0x80 ≤ low → high ≤ 0xBF → Begun ⟨2, low, high, k, 1⟩ [UInt8.ofNat (0xF0 + k)]
  | secondOfThree {v : Nat} : 0x20 ≤ v → v < 0x360 ∨ 0x380 ≤ v ∧ v < 0x400 →
      Begun ⟨0, 0x80, 0xBF, v, 2⟩ [UInt8.ofNat (0xE0 + v / 64), UInt8.ofNat (0x80 + v % 64)]
  | secondOfFour {v : Nat} : 0x10 ≤ v → v < 0x110 →
      Begun ⟨1, 0x80, 0xBF, v, 2⟩ [UInt8.ofNat (0xF0 + v / 64), UInt8.ofNat (0x80 + v % 64)]
  | thirdOfFour {v : Nat} : 0x400 ≤ v → v < 0x4400 →
      Begun ⟨0, 0x80, 0xBF, v, 3⟩ [UInt8.ofNat (0xF0 + v / 4096),
        UInt8.ofNat (0x80 + v / 64 % 64), UInt8.ofNat (0x80 + v % 64)]

/-- What a byte at the start of a character does is what it does to the bytes of the character. -/
theorem lead_cases (b : UInt8) :
    lead b = .refused ∨ (∃ c, lead b = .char c ∧ encodeChar c = [b]) ∨
      ∃ p, lead b = .more p ∧ Begun p [b] := by
  have hbyte : ∀ {n : Nat}, n ≤ b.toNat → UInt8.ofNat (n + (b.toNat - n)) = b := ofNat_add_sub
  unfold lead
  dsimp only
  split
  · rename_i hb
    have hn := toNat_ofNat (n := b.toNat) (.inl (by omega))
    refine .inr (.inl ⟨_, rfl, ?_⟩)
    rw [encodeChar, hn, if_pos hb, UInt8.ofNat_toNat]
  split
  · exact .inl rfl
  split
  · have hbegun := Begun.two (k := b.toNat - 0xC0) (by omega) (by omega)
    rw [hbyte (by omega)] at hbegun
    exact .inr (.inr ⟨_, rfl, hbegun⟩)
  split
  · have hbegun : Begun ⟨1, if b.toNat = 0xE0 then 0xA0 else 0x80,
        if b.toNat = 0xED then 0x9F else 0xBF, b.toNat - 0xE0, 1⟩
        [UInt8.ofNat (0xE0 + (b.toNat - 0xE0))] :=
      .three (by omega) (by split <;> omega) (by split <;> omega) (by split <;> omega)
        (by split <;> omega)
    rw [hbyte (by omega)] at hbegun
    exact .inr (.inr ⟨_, rfl, hbegun⟩)
  split
  · have hbegun : Begun ⟨2, if b.toNat = 0xF0 then 0x90 else 0x80,
        if b.toNat = 0xF4 then 0x8F else 0xBF, b.toNat - 0xF0, 1⟩
        [UInt8.ofNat (0xF0 + (b.toNat - 0xF0))] :=
      .four (by omega) (by split <;> omega) (by split <;> omega) (by split <;> omega)
        (by split <;> omega)
    rw [hbyte (by omega)] at hbegun
    exact .inr (.inr ⟨_, rfl, hbegun⟩)
  · exact .inl rfl

theorem encodeChar_two {n : Nat} (h : 0x80 ≤ n) (hn : n < 0x800) :
    encodeChar (Char.ofNat n) = [UInt8.ofNat (0xC0 + n / 64), UInt8.ofNat (0x80 + n % 64)] := by
  rw [encodeChar, toNat_ofNat (.inl (by omega)), if_neg (by omega), if_pos hn]

theorem encodeChar_three {n : Nat} (h : 0x800 ≤ n) (hn : n < 0xD800 ∨ 0xDFFF < n ∧ n < 0x10000) :
    encodeChar (Char.ofNat n) = [UInt8.ofNat (0xE0 + n / 4096), UInt8.ofNat (0x80 + n / 64 % 64),
      UInt8.ofNat (0x80 + n % 64)] := by
  rw [encodeChar, toNat_ofNat (by omega), if_neg (by omega), if_neg (by omega), if_pos (by omega)]

theorem encodeChar_four {n : Nat} (h : 0x10000 ≤ n) (hn : n < 0x110000) :
    encodeChar (Char.ofNat n) = [UInt8.ofNat (0xF0 + n / 262144),
      UInt8.ofNat (0x80 + n / 4096 % 64), UInt8.ofNat (0x80 + n / 64 % 64),
      UInt8.ofNat (0x80 + n % 64)] := by
  rw [encodeChar, toNat_ofNat (by omega), if_neg (by omega), if_neg (by omega), if_neg (by omega)]

theorem Begun.bounds {p : Partial} {pre : Bytes} (h : Begun p pre) :
    0x80 ≤ p.low ∧ p.high ≤ 0xBF := by
  cases h <;> dsimp only <;> omega

/-- **A byte inside a character goes on with its bytes,** or it is refused. -/
theorem Begun.next {p : Partial} {pre : Bytes} (h : Begun p pre) (b : UInt8) :
    p.next b = .refused ∨ (∃ c, p.next b = .char c ∧ encodeChar c = pre ++ [b]) ∨
      ∃ q, p.next b = .more q ∧ Begun q (pre ++ [b]) := by
  by_cases hrange : p.low ≤ b.toNat ∧ b.toNat ≤ p.high
  · refine .inr ?_
    have hbounds := h.bounds
    obtain ⟨x, hx, hb⟩ : ∃ x, x < 64 ∧ UInt8.ofNat (0x80 + x) = b :=
      ⟨b.toNat - 0x80, by omega, ofNat_add_sub (by omega)⟩
    have hn : b.toNat = 0x80 + x := by
      rw [← hb]
      exact toNat_byte (by omega)
    rw [hn] at hrange
    subst hb
    -- the byte has the last digit of the new number to the base 64, and the others move up
    have hlast : ∀ v, (v * 64 + x) % 64 = x := by omega
    have hup : ∀ v, (v * 64 + x) / 64 = v := by omega
    have hup' : ∀ v, (v * 64 + x) / 4096 = v / 64 := by omega
    have hup'' : ∀ v, (v * 64 + x) / 262144 = v / 4096 := by omega
    -- a last byte is that of a number in the range of its length, another one begins such a number
    cases h with
    | @two k hk hk' =>
        refine .inl ⟨_, next_last hx hrange.1 hrange.2, ?_⟩
        rw [encodeChar_two (by omega) (by omega), hup, hlast]
        rfl
    | @three low high k hk hlow hhigh =>
        refine .inr ⟨_, next_more hx hrange.1 hrange.2, ?_⟩
        dsimp only at hrange
        have hmore := Begun.secondOfThree (v := k * 64 + x) (by omega) (by omega)
        rwa [hup, hlast] at hmore
    | @four low high k hk hlow hhigh =>
        refine .inr ⟨_, next_more hx hrange.1 hrange.2, ?_⟩
        dsimp only at hrange
        have hmore := Begun.secondOfFour (v := k * 64 + x) (by omega) (by omega)
        rwa [hup, hlast] at hmore
    | @secondOfThree v hv hv' =>
        refine .inl ⟨_, next_last hx hrange.1 hrange.2, ?_⟩
        rw [encodeChar_three (by omega) (by omega), hup', hup, hlast]
        rfl
    | @secondOfFour v hv hv' =>
        refine .inr ⟨_, next_more hx hrange.1 hrange.2, ?_⟩
        have hmore := Begun.thirdOfFour (v := v * 64 + x) (by omega) (by omega)
        rwa [hup', hup, hlast] at hmore
    | @thirdOfFour v hv hv' =>
        refine .inl ⟨_, next_last hx hrange.1 hrange.2, ?_⟩
        rw [encodeChar_four (by omega) (by omega), hup'', hup', hup, hlast]
        rfl
  · exact .inl (if_neg hrange)

/-- Where the machine stands: between two characters, or in the middle of one. -/
inductive Standing : Option Partial → Bytes → Prop
  | between : Standing none []
  | inside {p : Partial} {pre : Bytes} : Begun p pre → Standing (some p) pre

theorem encode_reverse_cons (c : Char) (done : List Char) :
    encode (c :: done).reverse = encode done.reverse ++ encodeChar c := by
  rw [List.reverse_cons, encode_append]
  exact congrArg (encode done.reverse ++ ·) (List.append_nil _)

/-- What has been read is written as the bytes that it was read from. -/
theorem encode_of_decodeFrom {done text : List Char} {index : Nat} {pending : Option Partial}
    {pre bytes : Bytes} (h : decodeFrom done index pending bytes = .ok text)
    (hpre : Standing pending pre) : encode text = encode done.reverse ++ (pre ++ bytes) := by
  induction bytes generalizing done index pending pre with
  | nil =>
      cases hpre with
      | between =>
          obtain rfl := Except.ok.inj h
          exact (List.append_nil _).symm
      | inside _ => exact nomatch h
  | cons b bytes ih =>
      cases hpre with
      | between =>
          rw [decodeFrom] at h
          rcases lead_cases b with hb | ⟨c, hb, hc⟩ | ⟨p, hb, hp⟩
          · rw [hb] at h
            exact nomatch h
          · rw [hb] at h
            have htext := ih h .between
            rw [htext, encode_reverse_cons, hc]
            simp
          · rw [hb] at h
            exact ih h (.inside hp)
      | @inside p pre hp =>
          rw [decodeFrom] at h
          rcases hp.next b with hb | ⟨c, hb, hc⟩ | ⟨q, hb, hq⟩
          · rw [hb] at h
            exact nomatch h
          · rw [hb] at h
            have htext := ih h .between
            rw [htext, encode_reverse_cons, hc]
            simp
          · rw [hb] at h
            have htext := ih h (.inside hq)
            rw [htext, List.append_assoc pre]
            rfl

/-- **Bytes are text if they are those of a text,** and it is read from them. -/
theorem decode_eq_ok_iff {bytes : Bytes} {text : List Char} :
    decode bytes = .ok text ↔ encode text = bytes := by
  constructor
  · intro h
    exact encode_of_decodeFrom h .between
  · intro h
    rw [← h]
    exact decode_encode text

/-! ## Reading a part -/

/-- A reader that may stop after a part goes on from there. -/
theorem decodeFrom_append {done text : List Char} {index : Nat} {pending : Option Partial}
    {part : Bytes} (h : decodeFrom done index pending part = .ok text) (rest : Bytes) :
    ∃ index', decodeFrom done index pending (part ++ rest) =
      decodeFrom text.reverse index' none rest := by
  induction part generalizing done index pending with
  | nil =>
      cases pending with
      | none =>
          obtain rfl := Except.ok.inj h
          exact ⟨index, by rw [List.nil_append, List.reverse_reverse]⟩
      | some p => exact nomatch h
  | cons b part ih =>
      cases pending with
      | none =>
          rw [decodeFrom] at h
          rw [List.cons_append, decodeFrom]
          cases hb : lead b with
          | char c => rw [hb] at h; exact ih h
          | more p => rw [hb] at h; exact ih h
          | refused => rw [hb] at h; exact nomatch h
      | some p =>
          rw [decodeFrom] at h
          rw [List.cons_append, decodeFrom]
          cases hb : p.next b with
          | char c => rw [hb] at h; exact ih h
          | more q => rw [hb] at h; exact ih h
          | refused => rw [hb] at h; exact nomatch h

/-- What is read comes after the characters read so far, and no byte is lost. -/
theorem decodeFrom_extends {done text : List Char} {index : Nat} {pending : Option Partial}
    {bytes : Bytes} (h : decodeFrom done index pending bytes = .ok text) :
    ∃ more, text = done.reverse ++ more ∧ (more = [] → pending = none ∧ bytes = []) := by
  induction bytes generalizing done index pending with
  | nil =>
      cases pending with
      | none => exact ⟨[], by rw [List.append_nil]; exact (Except.ok.inj h).symm, fun _ => ⟨rfl, rfl⟩⟩
      | some p => exact nomatch h
  | cons b bytes ih =>
      -- a byte completes a character, or leaves one that is not complete
      have hchar : ∀ {c : Char} {index : Nat}, decodeFrom (c :: done) index none bytes = .ok text →
          ∃ more, text = done.reverse ++ more ∧ (more = [] → pending = none ∧ b :: bytes = []) := by
        intro c index h
        obtain ⟨more, rfl, -⟩ := ih h
        exact ⟨c :: more, by simp, nofun⟩
      have hmore : ∀ {p : Partial}, decodeFrom done index (some p) bytes = .ok text →
          ∃ more, text = done.reverse ++ more ∧ (more = [] → pending = none ∧ b :: bytes = []) := by
        intro p h
        obtain ⟨more, rfl, hnothing⟩ := ih h
        exact ⟨more, rfl, fun hm => nomatch (hnothing hm).1⟩
      cases pending with
      | none =>
          rw [decodeFrom] at h
          cases hb : lead b with
          | char c => rw [hb] at h; exact hchar h
          | more p => rw [hb] at h; exact hmore h
          | refused => rw [hb] at h; exact nomatch h
      | some p =>
          rw [decodeFrom] at h
          cases hb : p.next b with
          | char c => rw [hb] at h; exact hchar h
          | more q => rw [hb] at h; exact hmore h
          | refused => rw [hb] at h; exact nomatch h

/-- **A part of a text that is text itself** is the text up to some character. -/
theorem decode_of_append {part rest : Bytes} {text whole : List Char}
    (hpart : decode part = .ok text) (hwhole : decode (part ++ rest) = .ok whole) :
    ∃ more, whole = text ++ more ∧ (more = [] → rest = []) := by
  obtain ⟨index, hgoes⟩ := decodeFrom_append hpart rest
  rw [decode, hgoes] at hwhole
  obtain ⟨more, hmore, hnothing⟩ := decodeFrom_extends hwhole
  rw [List.reverse_reverse] at hmore
  exact ⟨more, hmore, fun h => (hnothing h).2⟩

/-! ## Line feeds -/

/-- The byte of the line feed is part of no other character. -/
theorem lineFeed_mem_encodeChar {c : Char} : lineFeed ∈ encodeChar c ↔ c = '\n' := by
  have hb {n : Nat} (h : n < 256) : lineFeed = UInt8.ofNat n ↔ n = 10 := by
    rw [← UInt8.toNat_inj, toNat_byte h]
    exact eq_comm
  have hc := toNat_range c
  have hn : c = '\n' ↔ c.toNat = 10 := by
    rw [Char.ext_iff, ← UInt32.toNat_inj]; rfl
  rw [hn]
  unfold encodeChar
  generalize c.toNat = n at hc
  dsimp only
  -- bytes of a longer character are at least 0x80, and a line feed is not
  split
  · rw [List.mem_singleton, hb (by omega)]
  · split
    · simp only [List.mem_cons, List.not_mem_nil, or_false]
      rw [hb (by omega), hb (by omega)]
      omega
    · split
      · simp only [List.mem_cons, List.not_mem_nil, or_false]
        rw [hb (by omega), hb (by omega), hb (by omega)]
        omega
      · simp only [List.mem_cons, List.not_mem_nil, or_false]
        rw [hb (by omega), hb (by omega), hb (by omega), hb (by omega)]
        omega

/-- Written text has a line feed among its bytes only where it has one among its characters. -/
theorem lineFeed_mem_encode {text : List Char} : lineFeed ∈ encode text ↔ '\n' ∈ text := by
  simp only [encode, List.mem_flatMap, lineFeed_mem_encodeChar, exists_eq_right]

end Lockstep.Utf8
