import Lockstep.Proofs.JsonText
import Lockstep.Proofs.TomlString
import Lockstep.Toml.Parser
import Mathlib.Data.List.Forall2

/-!
# Documents survive being written

A document of the kind that the program writes is a row of lines, each a key with a string or a
number, and a header with more such lines under it. `Line.Gives` says which entry of a table a
line becomes and leaves its places in the text open, since nothing depends on them.

A line that is read adds its entry to the open table and changes nothing else (`readEntry_line`),
so lines add their entries in their order (`readEntries_lines`); a header puts the open table aside
for another one (`readEntries_header`).
-/

namespace Lockstep.Toml

open Decimal (digits isDigit)
open Json (isDigit_of_mem_digits digits_cases natOf natFrom natOf_digits)

variable {n : Nat} {rest : List Char}

/-! ## Numbers -/

theorem moreDigits_of_all {ds : List Char} (h : ∀ c ∈ ds, isDigit c = true) (rest : List Char) :
    moreDigits isDigit (ds ++ '\n' :: rest) = (ds, '\n' :: rest) := by
  induction ds with
  | nil => rfl
  | cons c ds ih =>
      obtain ⟨hc, hds⟩ := List.forall_mem_cons.mp h
      rw [List.cons_append, moreDigits.eq_2, if_pos hc, ih hds]
      rintro d more rfl
      exact nomatch hc

theorem readDigits_of_all {c : Char} {ds : List Char} (h : ∀ d ∈ c :: ds, isDigit d = true)
    (rest : List Char) :
    readDigits isDigit ((c :: ds) ++ '\n' :: rest) = .ok (c :: ds, '\n' :: rest) := by
  obtain ⟨hc, hds⟩ := List.forall_mem_cons.mp h
  rw [List.cons_append, readDigits, if_pos hc, moreDigits_of_all hds]

theorem hexValue_of_isDigit {c : Char} (h : isDigit c = true) :
    Hexadecimal.value? c = some (Decimal.valueOf c) := by
  rw [isDigit, Bool.and_eq_true, decide_eq_true_eq, decide_eq_true_eq] at h
  exact if_pos h

/-- Both readers of numbers take digits for the same number. -/
theorem valueIn_ten {ds : List Char} (h : ∀ c ∈ ds, isDigit c = true) :
    valueIn 10 ds = natOf ds := by
  have hfrom : ∀ value, ds.foldl (fun n c => n * 10 + (Hexadecimal.value? c).getD 0) value =
      natFrom value ds := by
    induction ds with
    | nil => exact fun _ => rfl
    | cons c ds ih =>
        obtain ⟨hc, hds⟩ := List.forall_mem_cons.mp h
        intro value
        rw [List.foldl_cons, hexValue_of_isDigit hc, ih hds]
        rfl
  exact hfrom 0

/-- The first digit of a number; after a zero nothing more comes. -/
theorem head_digits (n : Nat) (rest : List Char) :
    ∃ c t, digits n ++ '\n' :: rest = c :: t ∧ isDigit c = true ∧ (c = '0' → t = '\n' :: rest) := by
  rcases digits_cases n with hzero | ⟨c, ds, hcons, hc, hall⟩
  · exact ⟨'0', '\n' :: rest, by rw [hzero]; rfl, rfl, fun _ => rfl⟩
  · exact ⟨c, ds ++ '\n' :: rest, by rw [hcons]; rfl, hall c List.mem_cons_self,
      fun h => absurd h hc⟩

theorem whole_digits (n : Nat) (rest : List Char) :
    (match digits n ++ '\n' :: rest with
      | '0' :: rest => .ok (['0'], rest)
      | _ => readDigits isDigit (digits n ++ '\n' :: rest) : Reading (List Char)) =
      .ok (digits n, '\n' :: rest) := by
  rcases digits_cases n with hzero | ⟨c, ds, hcons, hc, hall⟩
  · rw [hzero]
    rfl
  · have hread := readDigits_of_all hall rest
    rw [hcons]
    rw [List.cons_append] at hread ⊢
    split
    · rename_i e
      exact absurd (List.cons.inj e).1 hc
    · exact hread

theorem readDecimal_digits (hn : n ≤ Decimal.maxSigned64) (start rest : List Char)
    (span : List Char → Span) :
    readDecimal start span false (digits n ++ '\n' :: rest) =
      .ok (.integer (span ('\n' :: rest)) n, '\n' :: rest) := by
  have hvalue : valueIn 10 (digits n) = n :=
    (valueIn_ten fun c hc => isDigit_of_mem_digits hc).trans (natOf_digits n)
  have hinteger : integer start false n = .ok (n : Int) := if_pos hn
  have hfraction : readFraction ('\n' :: rest) = .ok (none, '\n' :: rest) := rfl
  have hexponent : readExponent ('\n' :: rest) = .ok (none, '\n' :: rest) := rfl
  unfold readDecimal
  dsimp only
  split <;> rename_i hwhole
  · exact nomatch hwhole.symm.trans (whole_digits n rest)
  · cases hwhole.symm.trans (whole_digits n rest)
    rw [hfraction]
    dsimp only
    rw [hexponent]
    dsimp only
    rw [hvalue, hinteger]
    rfl

theorem readUnsigned_of_isDigit {c : Char} {t : List Char} (h : isDigit c = true)
    (start : List Char) (span : List Char → Span) :
    readUnsigned start span false (c :: t) = readDecimal start span false (c :: t) := by
  unfold readUnsigned
  split
  · rename_i e
    rw [(List.cons.inj e).1] at h
    exact nomatch h
  · rename_i e
    rw [(List.cons.inj e).1] at h
    exact nomatch h
  · rfl

theorem readNumber_digits (hn : n ≤ Decimal.maxSigned64) (rest : List Char) :
    ∃ span, readNumber (digits n ++ '\n' :: rest) = .ok (.integer span n, '\n' :: rest) := by
  obtain ⟨c, t, hcons, hc, hzero⟩ := head_digits n rest
  have hdecimal := readDecimal_digits hn (c :: t) rest fun left => ⟨(c :: t).length, left.length⟩
  rw [hcons] at hdecimal ⊢
  refine ⟨_, Eq.trans ?_ ((readUnsigned_of_isDigit hc _ _).trans hdecimal)⟩
  unfold readNumber
  dsimp only
  split
  case h_6 => rfl
  case h_1 e | h_2 e =>
    rw [(List.cons.inj e).1] at hc
    exact nomatch hc
  all_goals
    -- a zero before a letter
    rename_i e
    obtain ⟨h0, ht⟩ := List.cons.inj e
    exact absurd ((hzero h0).symm.trans ht) (by simp)

/-- After so many digits of a numeral comes another digit or the end of the line. -/
theorem fixedDigits?_digits (count : Nat) {c : Char} (hc : isDigit c = false ∧ c ≠ '\n')
    (rest : List Char) :
    ((fixedDigits? count (digits n ++ '\n' :: rest)).any fun found => found.2.head? == some c) =
      false := by
  rw [fixedDigits?]
  split
  · rename_i hall
    obtain ⟨hlength, hdigits⟩ := hall
    have hle : count ≤ (digits n).length := by
      refine Nat.le_of_not_lt fun hlong => ?_
      have hfeed : '\n' ∈ (digits n ++ '\n' :: rest).take count := by
        rw [List.take_append]
        obtain ⟨k, hk⟩ := Nat.exists_eq_add_of_lt hlong
        rw [show count - (digits n).length = k + 1 by omega]
        exact List.mem_append_right _ List.mem_cons_self
      exact absurd (List.all_eq_true.mp hdigits _ hfeed) (by decide)
    rw [List.drop_append_of_le_length hle, Option.any_some, beq_eq_false_iff_ne,
      List.head?_append]
    cases hdrop : (digits n).drop count with
    | nil => exact fun e => hc.2 (Option.some.inj e).symm
    | cons d ds =>
        have hd : isDigit d = true :=
          isDigit_of_mem_digits (List.mem_of_mem_drop (hdrop ▸ List.mem_cons_self))
        intro e
        rw [Option.some.inj e, hc.1] at hd
        exact nomatch hd
  · rfl

/-- A number is not the beginning of a date or of a time. -/
theorem readMoment?_digits (n : Nat) (rest : List Char) :
    readMoment? (digits n ++ '\n' :: rest) = none := by
  have hdate : beginsDate (digits n ++ '\n' :: rest) = false := fixedDigits?_digits 4 (by decide) _
  have htime : beginsTime (digits n ++ '\n' :: rest) = false := fixedDigits?_digits 2 (by decide) _
  rw [readMoment?, hdate, htime]
  rfl

theorem readString?_of_isDigit {c : Char} {t : List Char} (h : isDigit c = true) :
    readString? (c :: t) = none := by
  unfold readString?
  split
  case h_5 => rfl
  all_goals
    rename_i e
    rw [(List.cons.inj e).1] at h
    exact nomatch h

theorem readSimple_digits (hn : n ≤ Decimal.maxSigned64) (rest : List Char) :
    ∃ span, readSimple (digits n ++ '\n' :: rest) = .ok (.integer span n, '\n' :: rest) := by
  obtain ⟨span, hnumber⟩ := readNumber_digits hn rest
  have hmoment := readMoment?_digits n rest
  obtain ⟨c, t, hcons, hc, -⟩ := head_digits n rest
  refine ⟨span, ?_⟩
  rw [hcons] at hnumber hmoment ⊢
  unfold readSimple
  rw [readString?_of_isDigit hc]
  dsimp only
  split
  case h_3 => rw [hmoment, Option.getD_none, hnumber]
  all_goals
    rename_i e
    rw [(List.cons.inj e).1] at hc
    exact nomatch hc

/-! ## Values -/

/-- What a line holds. -/
inductive Scalar where
  | text (s : String)
  | natural (n : Nat)

namespace Scalar

/-- The text of a scalar. -/
def render : Scalar → List Char
  | .text s => renderString s.toList
  | .natural n => digits n

/-- The value of a scalar that is written at a place. -/
def valueAt (span : Span) : Scalar → Value
  | .text s => .string span s
  | .natural n => .integer span n

/-- The scalar can be written: a number fits in 64 bits with a sign. -/
def Fits : Scalar → Prop
  | .text _ => True
  | .natural n => n ≤ Decimal.maxSigned64

theorem span?_valueAt (span : Span) (v : Scalar) : (v.valueAt span).span? = some span := by
  cases v <;> rfl

theorem head_render (v : Scalar) (rest : List Char) :
    ∃ q t, v.render ++ '\n' :: rest = q :: t ∧ (q = '"' ∨ q = '\'' ∨ isDigit q = true) := by
  cases v with
  | text s =>
      obtain ⟨q, t, hcons, hq⟩ := head_renderString s.toList
      exact ⟨q, t ++ '\n' :: rest, by rw [render, hcons]; rfl, hq.imp_right .inl⟩
  | natural n =>
      obtain ⟨c, t, hcons, hc, -⟩ := head_digits n rest
      exact ⟨c, t, hcons, .inr (.inr hc)⟩

theorem readSimple_render {v : Scalar} (hv : v.Fits) (rest : List Char) :
    ∃ span, readSimple (v.render ++ '\n' :: rest) = .ok (v.valueAt span, '\n' :: rest) := by
  cases v with
  | natural n => exact readSimple_digits hv rest
  | text s =>
      refine ⟨⟨(renderString s.toList ++ '\n' :: rest).length, ('\n' :: rest).length⟩, ?_⟩
      unfold readSimple
      rw [render, readString?_render]
      dsimp only
      rw [valueAt, String.ofList_toList]

theorem head_ne {q d : Char} (hq : q = '"' ∨ q = '\'' ∨ isDigit q = true)
    (hd : d ≠ '"' ∧ d ≠ '\'' ∧ isDigit d = false) : q ≠ d := by
  rintro rfl
  rcases hq with h | h | h
  · exact hd.1 h
  · exact hd.2.1 h
  · exact absurd (h.symm.trans hd.2.2) (by decide)

/-- **A scalar is read as it was written.** -/
theorem readValue_render {v : Scalar} (hv : v.Fits) (rest : List Char) :
    ∃ span, readValue maxDepth (v.render ++ '\n' :: rest) = .ok (v.valueAt span, '\n' :: rest) := by
  obtain ⟨span, hsimple⟩ := readSimple_render hv rest
  obtain ⟨q, t, hcons, hq⟩ := v.head_render rest
  refine ⟨span, ?_⟩
  rw [hcons] at hsimple ⊢
  show readValue (78 + 1) (q :: t) = _
  unfold readValue
  split
  case h_3 => exact hsimple
  all_goals
    rename_i e
    exact absurd (List.cons.inj e).1 (head_ne hq (by decide))

end Scalar

/-! ## Keys -/

/-- A name that can stand without quotes. -/
def IsBare (name : String) : Prop := name.toList ≠ [] ∧ name.toList.all isBareChar = true

instance (name : String) : Decidable (IsBare name) := inferInstanceAs (Decidable (_ ∧ _))

theorem ne_of_isBareChar {c d : Char} (hc : isBareChar c = true) (hd : isBareChar d = false) :
    c ≠ d := by
  rintro rfl
  exact absurd (hc.symm.trans hd) (by decide)

/-- The first character of a bare name; it stands for nothing else. -/
theorem IsBare.head {name : String} (h : IsBare name) :
    ∃ c t, name.toList = c :: t ∧ isBareChar c = true := by
  obtain ⟨hne, hall⟩ := h
  obtain ⟨c, t, hcons⟩ := List.exists_cons_of_ne_nil hne
  exact ⟨c, t, hcons, List.all_eq_true.mp hall c (hcons ▸ List.mem_cons_self)⟩

theorem IsBare.not_mem {name : String} (h : IsBare name) {d : Char} (hd : isBareChar d = false) :
    d ∉ name.toList :=
  fun hmem => ne_of_isBareChar (List.all_eq_true.mp h.2 d hmem) hd rfl

theorem dropSpaces_of_not {c : Char} {t : List Char} (h : isSpace c = false) :
    dropSpaces (c :: t) = c :: t :=
  List.dropWhile_cons_of_neg (by rw [h]; decide)

theorem isSpace_of_isBareChar {c : Char} (h : isBareChar c = true) : isSpace c = false := by
  rw [isSpace, Bool.or_eq_false_iff, decide_eq_false_iff_not, decide_eq_false_iff_not]
  exact ⟨ne_of_isBareChar h (by decide), ne_of_isBareChar h (by decide)⟩

theorem readKey_bare {name : String} (h : IsBare name) {d : Char} (hd : isBareChar d = false)
    (rest : List Char) :
    ∃ span, readKey (name.toList ++ d :: rest) = .ok (⟨name, span⟩, d :: rest) := by
  have htake : (name.toList ++ d :: rest).takeWhile isBareChar = name.toList := by
    rw [List.takeWhile_append_of_pos (List.all_eq_true.mp h.2),
      List.takeWhile_cons_of_neg (by rw [hd]; decide), List.append_nil]
  have hdrop : (name.toList ++ d :: rest).dropWhile isBareChar = d :: rest := by
    rw [List.dropWhile_append_of_pos (List.all_eq_true.mp h.2),
      List.dropWhile_cons_of_neg (by rw [hd]; decide)]
  obtain ⟨c, t, hcons, hc⟩ := h.head
  have hempty : name.toList.isEmpty = false := by rw [hcons]; rfl
  refine ⟨⟨(name.toList ++ d :: rest).length, (d :: rest).length⟩, ?_⟩
  unfold readKey
  split
  case h_3 =>
    dsimp only
    rw [htake, hdrop, hempty, String.ofList_toList]
    rfl
  all_goals
    rename_i e
    rw [hcons] at e
    exact absurd (List.cons.inj e).1 (ne_of_isBareChar hc (by decide))

/-- A bare name is a path of one key, if no dot comes after it. -/
theorem readPath_bare {name : String} (h : IsBare name) {d e : Char} {t : List Char}
    (rest : List Char) (hd : isBareChar d = false) (hrest : dropSpaces (d :: rest) = e :: t) (he : e ≠ '.') :
    ∃ span, readPath maxPath (name.toList ++ d :: rest) = .ok (([], ⟨name, span⟩), e :: t) := by
  obtain ⟨span, hkey⟩ := readKey_bare h hd rest
  obtain ⟨c, more, hcons, hc⟩ := h.head
  have hspaces : dropSpaces (name.toList ++ d :: rest) = name.toList ++ d :: rest := by
    rw [hcons]
    exact dropSpaces_of_not (isSpace_of_isBareChar hc)
  refine ⟨span, ?_⟩
  show readPath (78 + 1) _ = _
  rw [readPath, hspaces, hkey]
  dsimp only
  rw [hrest]
  split
  · rename_i hdot
    exact absurd (List.cons.inj hdot).1 he
  · rfl

/-! ## Lines -/

/-- A key with what it holds. -/
structure Line where
  key : String
  value : Scalar

namespace Line

/-- The text of a line. -/
def render (l : Line) : List Char := renderPair l.key l.value.render

/-- The key needs no quotes, and the value can be written. -/
structure WellFormed (l : Line) : Prop where
  bare : IsBare l.key
  fits : l.value.Fits

theorem WellFormed.text {key : String} (h : IsBare key) (s : String) :
    WellFormed ⟨key, .text s⟩ := ⟨h, trivial⟩

theorem WellFormed.natural {key : String} (h : IsBare key) {n : Nat}
    (hn : n ≤ Decimal.maxSigned64) : WellFormed ⟨key, .natural n⟩ := ⟨h, hn⟩

/-- The entry is what the line says, wherever it says so. -/
inductive Gives (l : Line) : Value.Entry → Prop
  | entry (place span : Span) : l.Gives (⟨l.key, place⟩, l.value.valueAt span)

variable {l : Line}

theorem render_append (l : Line) (rest : List Char) :
    l.render ++ rest = l.key.toList ++ ' ' :: '=' :: ' ' :: (l.value.render ++ '\n' :: rest) := by
  rw [render, renderPair]
  simp only [List.append_assoc, List.cons_append, List.nil_append]
  rfl

theorem readPair_render (hl : l.WellFormed) (rest : List Char) :
    ∃ e : Value.Entry, l.Gives e ∧
      readPair (readValue maxDepth) (l.render ++ rest) = .ok ((([], e.1), e.2), '\n' :: rest) := by
  obtain ⟨span, hvalue⟩ := Scalar.readValue_render hl.fits rest
  obtain ⟨q, t, hcons, hq⟩ := l.value.head_render rest
  have hspaces : dropSpaces (' ' :: (l.value.render ++ '\n' :: rest)) =
      l.value.render ++ '\n' :: rest := by
    rw [hcons]
    refine dropSpaces_of_not (t := t) ?_
    rw [isSpace, Bool.or_eq_false_iff, decide_eq_false_iff_not, decide_eq_false_iff_not]
    exact ⟨Scalar.head_ne hq (by decide), Scalar.head_ne hq (by decide)⟩
  obtain ⟨place, hpath⟩ := readPath_bare hl.bare (d := ' ') (e := '=')
    ('=' :: ' ' :: (l.value.render ++ '\n' :: rest)) (by decide) rfl (by decide)
  refine ⟨_, .entry place span, ?_⟩
  rw [render_append, readPair, hpath]
  dsimp only
  rw [equals, hspaces]
  dsimp only
  rw [hvalue]

end Line

/-! ## Tables -/

variable {l : Line} {lines done below : List Line} {d : Draft}

/-- A table that lines may be added to has the entries of these lines, in their order. -/
def Fills (lines : List Line) (t : Value) : Prop :=
  ∃ span entries, t = .table span .header entries ∧ List.Forall₂ Line.Gives lines entries

theorem find?_of_not_mem {entries : List Value.Entry}
    (h : List.Forall₂ Line.Gives lines entries) {name : String}
    (hname : name ∉ lines.map Line.key) : Value.find? name entries = none := by
  have hfind : entries.find? (fun e => e.1.name == name) = none := by
    induction h with
    | nil => rfl
    | cons he _ ih =>
        cases he
        obtain ⟨hhead, htail⟩ := not_or.mp (mt List.mem_cons.mpr hname)
        rw [List.find?_cons_of_neg, ih htail]
        exact fun hkey => hhead (beq_iff_eq.mp hkey).symm
  rw [Value.find?, hfind]
  rfl

theorem insert_new {span : Option Span} {entries : List Value.Entry} {k : Key}
    (h : Value.find? k.name entries = none) (v : Value) :
    (Value.table span .header entries).insert [] k v =
      .ok (.table span .header (entries ++ [(k, v)])) := by
  rw [Value.insert, Value.change]
  dsimp only
  rw [h]
  rfl

namespace Draft

/-- The open table gets the entry of a line whose key is new, and the rest stays as it is. -/
theorem add_line (hd : Fills done d.opened) {e : Value.Entry} (he : l.Gives e)
    (hnew : l.key ∉ done.map Line.key) :
    ∃ opened, d.add [] e.1 e.2 = .ok { d with opened := opened } ∧ Fills (done ++ [l]) opened := by
  obtain ⟨span, entries, hopened, hentries⟩ := hd
  have hgives := he
  obtain ⟨place, stop⟩ := he
  have hwiden : ∃ span', widen stop.stop d.opened = .table span' .header entries := by
    rw [hopened]
    cases span with
    | none => exact ⟨none, rfl⟩
    | some span => exact ⟨some ⟨span.start, stop.stop⟩, rfl⟩
  obtain ⟨span', hwiden⟩ := hwiden
  refine ⟨_, ?_, span', _, rfl, List.rel_append hentries (.cons hgives .nil)⟩
  rw [add, Scalar.span?_valueAt]
  dsimp only
  rw [hwiden, insert_new (find?_of_not_mem hentries hnew)]

/-- The document put aside for the empty table of a header. -/
def opening (d : Draft) (k : Key) (span : Span) : Draft :=
  ⟨d.opened, some ([], k), false, .table (some span) .header []⟩

theorem openTable_new (hplace : d.place = none) (hd : Fills done d.opened) {k : Key}
    (hnew : k.name ∉ done.map Line.key) (span : Span) :
    d.openTable [] k span = .ok (d.opening k span) := by
  obtain ⟨place, entries, hopened, hentries⟩ := hd
  have hclose : d.close = .ok d.opened := by rw [close, hplace]
  rw [openTable, opening, hclose, hopened]
  simp only [bind, Except.bind, Value.change, find?_of_not_mem hentries hnew]
  rfl

/-- At the end the table of a header goes behind the entries of the document. -/
theorem close_new {root : Value} {span : Option Span} {entries : List Value.Entry}
    (hroot : root = .table span .header entries) {k : Key}
    (hnew : Value.find? k.name entries = none) (opened : Value) :
    close ⟨root, some ([], k), false, opened⟩ =
      .ok (.table span .header (entries ++ [(k, opened)])) := by
  rw [close, hroot]
  simp only [Value.change, hnew]
  rfl

end Draft

/-! ## Lines of a document -/

theorem dropBreaks_of_not {c : Char} (hspace : isSpace c = false) (hfeed : c ≠ '\n')
    (hmark : c ≠ '#') (fuel : Nat) (t : List Char) : dropBreaks fuel (c :: t) = c :: t := by
  cases fuel with
  | zero => rfl
  | succ fuel =>
      rw [dropBreaks, dropSpaces_of_not hspace]
      split
      · rename_i e
        exact absurd (List.cons.inj e).1 hfeed
      · rename_i e
        exact absurd (List.cons.inj e).1 hmark
      · rfl

theorem endLine_feed (rest : List Char) : endLine ('\n' :: rest) = .ok rest := rfl

theorem Line.head_render (hl : l.WellFormed) (rest : List Char) :
    ∃ c t, l.render ++ rest = c :: t ∧ isBareChar c = true := by
  obtain ⟨c, t, hcons, hc⟩ := hl.bare.head
  exact ⟨c, _, by rw [render_append, hcons]; rfl, hc⟩

/-- **A line adds its entry to the open table.** -/
theorem readEntry_line (hl : l.WellFormed) (hd : Fills done d.opened)
    (hnew : l.key ∉ done.map Line.key) (rest : List Char) :
    ∃ opened, Fills (done ++ [l]) opened ∧
      readEntry d (l.render ++ rest) = .ok ({ d with opened := opened }, rest) := by
  obtain ⟨e, he, hpair⟩ := Line.readPair_render hl rest
  obtain ⟨opened, hadd, hopened⟩ := Draft.add_line hd he hnew
  obtain ⟨c, t, hcons, hc⟩ := Line.head_render hl rest
  refine ⟨opened, hopened, ?_⟩
  rw [hcons] at hpair ⊢
  unfold readEntry
  split
  case h_3 =>
    rw [hpair]
    simp only [bind, Except.bind, endLine_feed, hadd]
    rfl
  all_goals
    rename_i hopen
    exact absurd (List.cons.inj hopen).1 (ne_of_isBareChar hc (by decide))

/-- **Lines add their entries to the open table in their order.** -/
theorem readEntries_lines (done : List Line) (hlines : ∀ l ∈ lines, l.WellFormed)
    (hnew : ((done ++ lines).map Line.key).Nodup) (hd : Fills done d.opened) (fuel : Nat)
    (rest : List Char) :
    ∃ opened, Fills (done ++ lines) opened ∧
      readEntries (lines.length + fuel) d (lines.flatMap Line.render ++ rest) =
        readEntries fuel { d with opened := opened } rest := by
  induction lines generalizing done d with
  | nil => exact ⟨d.opened, by rwa [List.append_nil], by rw [List.length_nil, Nat.zero_add]; rfl⟩
  | cons l lines ih =>
      obtain ⟨hl, hlines⟩ := List.forall_mem_cons.mp hlines
      have hkey : l.key ∉ done.map Line.key := by
        rw [List.map_append, List.map_cons] at hnew
        exact fun hmem => (List.nodup_append.mp hnew).2.2 _ hmem _ List.mem_cons_self rfl
      obtain ⟨opened, hopened, hentry⟩ :=
        readEntry_line hl hd hkey (lines.flatMap Line.render ++ rest)
      have happend : done ++ l :: lines = done ++ [l] ++ lines := by
        rw [List.append_assoc, List.singleton_append]
      rw [happend] at hnew ⊢
      obtain ⟨final, hfinal, hrest⟩ := ih _ hlines hnew (d := { d with opened := opened }) hopened
      refine ⟨final, hfinal, Eq.trans ?_ hrest⟩
      obtain ⟨c, t, hcons, hc⟩ := Line.head_render hl (lines.flatMap Line.render ++ rest)
      rw [List.flatMap_cons, List.append_assoc, List.length_cons, Nat.add_right_comm, readEntries]
      rw [hcons] at hentry ⊢
      rw [dropBreaks_of_not (isSpace_of_isBareChar hc) (ne_of_isBareChar hc (by decide))
        (ne_of_isBareChar hc (by decide))]
      dsimp only
      rw [hentry]

/-- The text of a header, with an empty line before it. -/
def renderHeader (name : String) : List Char := '\n' :: '[' :: (name.toList ++ [']', '\n'])

theorem readHeader_bare {name : String} (h : IsBare name) (rest : List Char) :
    ∃ span, readHeader [']'] (name.toList ++ ']' :: '\n' :: rest) =
      .ok (([], ⟨name, span⟩), '\n' :: rest) := by
  obtain ⟨span, hpath⟩ := readPath_bare h (d := ']') (e := ']') ('\n' :: rest) (by decide) rfl
    (by decide)
  refine ⟨span, ?_⟩
  rw [readHeader, hpath]
  rfl

theorem readEntry_header {name : String} (h : IsBare name) (hplace : d.place = none)
    (hd : Fills done d.opened) (hnew : name ∉ done.map Line.key) (rest : List Char) :
    ∃ place span, readEntry d ('[' :: (name.toList ++ ']' :: '\n' :: rest)) =
      .ok (d.opening ⟨name, place⟩ span, rest) := by
  obtain ⟨place, hheader⟩ := readHeader_bare h rest
  obtain ⟨c, t, hcons, hc⟩ := h.head
  have hopen := Draft.openTable_new hplace hd (k := ⟨name, place⟩) hnew
  refine ⟨place, ⟨('[' :: (name.toList ++ ']' :: '\n' :: rest)).length, ('\n' :: rest).length⟩, ?_⟩
  unfold readEntry
  split
  · rename_i e
    rw [hcons] at e
    exact absurd (List.cons.inj (List.cons.inj e).2).1 (ne_of_isBareChar hc (by decide))
  · rename_i e
    cases e
    rw [hheader]
    simp only [bind, Except.bind, endLine_feed, hopen]
    rfl
  · rename_i hno
    exact absurd rfl (hno _)

/-- **A header puts the document aside for a table of its own.** -/
theorem readEntries_header {name : String} (h : IsBare name) (hplace : d.place = none)
    (hd : Fills done d.opened) (hnew : name ∉ done.map Line.key) (fuel : Nat)
    (rest : List Char) :
    ∃ place span, readEntries (fuel + 1) d (renderHeader name ++ rest) =
      readEntries fuel (d.opening ⟨name, place⟩ span) rest := by
  obtain ⟨place, span, hentry⟩ := readEntry_header h hplace hd hnew rest
  have htext : renderHeader name ++ rest = '\n' :: '[' :: (name.toList ++ ']' :: '\n' :: rest) := by
    rw [renderHeader]
    simp
  have hbreaks : dropBreaks (renderHeader name ++ rest).length (renderHeader name ++ rest) =
      '[' :: (name.toList ++ ']' :: '\n' :: rest) := by
    rw [htext, List.length_cons]
    exact dropBreaks_of_not (c := '[') (by decide) (by decide) (by decide) _ _
  refine ⟨place, span, ?_⟩
  rw [readEntries, hbreaks]
  dsimp only
  rw [hentry]

/-! ## Documents -/

/-- Lines that can stand in one table. -/
structure Legible (lines : List Line) : Prop where
  wellFormed : ∀ l ∈ lines, l.WellFormed
  distinct : (lines.map Line.key).Nodup

theorem Line.render_ne_nil (l : Line) : 1 ≤ l.render.length := by
  rw [render, renderPair, List.length_append]
  exact Nat.le_add_left _ _

theorem length_le_flatMap (lines : List Line) :
    lines.length ≤ (lines.flatMap Line.render).length := by
  induction lines with
  | nil => exact Nat.zero_le _
  | cons l lines ih =>
      have := l.render_ne_nil
      rw [List.flatMap_cons, List.length_append, List.length_cons]
      omega

theorem return_not_mem_render {l : Line} (hl : l.WellFormed) : '\r' ∉ l.render := by
  have hvalue : '\r' ∉ l.value.render := by
    cases l.value with
    | text s => exact return_not_mem_renderString _
    | natural n => exact fun h => absurd (isDigit_of_mem_digits h) (by decide)
  rw [Line.render, renderPair]
  simp only [List.mem_append, not_or]
  exact ⟨⟨⟨hl.bare.not_mem (by decide), by decide⟩, hvalue⟩, by decide⟩

theorem joinBreaks_of_not_mem {s : List Char} (h : '\r' ∉ s) : joinBreaks s = s := by
  fun_induction joinBreaks s with
  | case1 => rfl
  | case2 rest => exact absurd List.mem_cons_self h
  | case3 c rest _ ih => rw [ih fun hmem => h (List.mem_cons_of_mem _ hmem)]

theorem dropMark_of_head {c : Char} {t : List Char} (h : c ≠ '\uFEFF') :
    dropMark (c :: t) = c :: t := by
  unfold dropMark
  split
  · rename_i e
    exact absurd (List.cons.inj e).1 h
  · rfl

/-- A document: lines, and under a header more lines. -/
def renderDocument (lines : List Line) (name : String) (below : List Line) : List Char :=
  lines.flatMap Line.render ++ (renderHeader name ++ below.flatMap Line.render)

theorem return_not_mem_renderDocument {name : String} (hname : IsBare name)
    (hlines : Legible lines) (hbelow : Legible below) :
    '\r' ∉ renderDocument lines name below := by
  have hall : ∀ {lines : List Line}, Legible lines → '\r' ∉ lines.flatMap Line.render := by
    intro lines hlines hmem
    obtain ⟨l, hl, hmem⟩ := List.mem_flatMap.mp hmem
    exact return_not_mem_render (hlines.wellFormed l hl) hmem
  have hheader : '\r' ∉ renderHeader name := by
    simp [renderHeader, hname.not_mem (d := '\r') (by decide)]
  rw [renderDocument, List.mem_append, List.mem_append, not_or, not_or]
  exact ⟨hall hlines, hheader, hall hbelow⟩

theorem dropMark_renderDocument (hlines : Legible lines) (name : String) (below : List Line) :
    dropMark (renderDocument lines name below) = renderDocument lines name below := by
  cases lines with
  | nil => exact dropMark_of_head (c := '\n') (by decide)
  | cons l lines =>
      obtain ⟨c, t, hcons, hc⟩ := Line.head_render (hlines.wellFormed l List.mem_cons_self)
        (lines.flatMap Line.render ++ (renderHeader name ++ below.flatMap Line.render))
      rw [renderDocument, List.flatMap_cons, List.append_assoc, hcons]
      exact dropMark_of_head (ne_of_isBareChar hc (by decide))

/-- **A written document is read as it was:** its table has the entries of the lines, and under the
name of the header a table with the entries of the lines below. -/
theorem parse_renderDocument {name : String} (hname : IsBare name) (hlines : Legible lines)
    (hbelow : Legible below) (hnew : name ∉ lines.map Line.key) :
    ∃ t entries place table, parse (renderDocument lines name below) = .ok t ∧
      t.entries = entries ++ [(⟨name, place⟩, table)] ∧
      List.Forall₂ Line.Gives lines entries ∧ Fills below table := by
  have hstart : Fills [] Draft.start.opened := ⟨none, [], rfl, .nil⟩
  obtain ⟨fuel, hfuel⟩ : ∃ fuel, (renderDocument lines name below).length + 1 =
      lines.length + (below.length + (fuel + 1) + 1) := by
    have hfirst := length_le_flatMap lines
    have hsecond := length_le_flatMap below
    refine ⟨(renderDocument lines name below).length - lines.length - below.length - 1, ?_⟩
    simp only [renderDocument, renderHeader, List.length_append, List.length_cons]
    omega
  -- the lines fill the document, which is put aside; then the lines below fill their table
  obtain ⟨root, hroot, hread⟩ := readEntries_lines [] hlines.wellFormed
    hlines.distinct hstart (below.length + (fuel + 1) + 1) (renderHeader name ++ below.flatMap Line.render)
  obtain ⟨place, span, hheader⟩ := readEntries_header (d := { Draft.start with opened := root })
    hname rfl hroot hnew (below.length + (fuel + 1)) (below.flatMap Line.render)
  obtain ⟨table, htable, hunder⟩ := readEntries_lines []
    (d := { Draft.start with opened := root }.opening ⟨name, place⟩ span) hbelow.wellFormed
    hbelow.distinct ⟨some span, [], rfl, .nil⟩ (fuel + 1) []
  rw [List.append_nil] at hunder
  obtain ⟨rootSpan, entries, hrootEq, hentries⟩ := hroot
  refine ⟨.table rootSpan .header (entries ++ [(⟨name, place⟩, table)]), entries, place, table,
    ?_, rfl, hentries, htable⟩
  rw [parse, joinBreaks_of_not_mem (return_not_mem_renderDocument hname hlines hbelow),
    dropMark_renderDocument hlines, hfuel]
  show (readEntries _ _ (lines.flatMap Line.render ++ _) >>= Draft.close) = _
  rw [hread, hheader, hunder]
  exact Draft.close_new hrootEq (find?_of_not_mem hentries hnew) table

end Lockstep.Toml
