import Lockstep.Proofs.JsonNumber
import Lockstep.Proofs.JsonString

/-!
# The reader accepts the grammar

`parse_eq_ok_iff`: a text is read as a value if and only if it spells this value.

The two directions go up from the leaves in the same order: blanks and words, scalars, rows between
brackets, values. What is read is a text of the grammar with something after it, so soundness takes
the text off the front of what was given. The other direction says that the reader takes a text of
the grammar and leaves what follows, for any number of calls that is at least twice the length of
the text; a number must be `Ended`, and between brackets it always is.

Items and members are read by loops that differ in their entries and their brackets. `Loop` says of
both what one round does, and the rows are read by going through it.
-/

namespace Lockstep.Json

open Decimal (isDigit)

/-- What a bind has given came from what its first part has given. -/
theorem bind_eq_ok {ε α β : Type} {x : Except ε α} {f : α → Except ε β} {b : β} :
    x >>= f = .ok b ↔ ∃ a, x = .ok a ∧ f a = .ok b := by
  cases x <;> simp [bind, Except.bind]

/-! ## Blanks and words -/

theorem skipBlanks_append {b : List Char} (hb : Blanks b) (s : List Char) :
    skipBlanks (b ++ s) = skipBlanks s := by
  rw [skipBlanks, skipBlanks, List.dropWhile_append_of_pos hb]

theorem skipBlanks_cons {c : Char} (h : isBlank c = false) (rest : List Char) :
    skipBlanks (c :: rest) = c :: rest := by
  simp [skipBlanks, h]

theorem skipBlanks_sound (s : List Char) : ∃ b, Blanks b ∧ s = b ++ skipBlanks s :=
  ⟨s.takeWhile isBlank, List.all_eq_true.mp List.all_takeWhile,
    List.takeWhile_append_dropWhile.symm⟩

/-- Where a text is blank up to a character that is none, it is known what comes before this. -/
theorem skipBlanks_eq {s rest : List Char} (h : skipBlanks s = rest) :
    ∃ b, Blanks b ∧ s = b ++ rest := by
  obtain ⟨b, hb, hs⟩ := skipBlanks_sound s
  exact ⟨b, hb, by rw [← h]; exact hs⟩

theorem readWord_sound {word s rest : List Char} (h : readWord word s = .ok rest) :
    s = word ++ rest := by
  induction word generalizing s with
  | nil => exact Except.ok.inj h
  | cons w word ih =>
      cases s with
      | nil => exact absurd h nofun
      | cons c s =>
          rw [readWord] at h
          split at h
          · rename_i hc
            rw [hc, ih h, List.cons_append]
          · exact absurd h nofun

theorem readWord_text (word rest : List Char) : readWord word (word ++ rest) = .ok rest := by
  induction word with
  | nil => rfl
  | cons w word ih => rw [List.cons_append, readWord, if_pos rfl, ih]

/-! ## Rows between brackets -/

variable {α : Type}

/-- A reader only takes texts of these, with blanks before them. -/
def Takes (read : List Char → Except Fault (α × List Char)) (P : List Char → α → Prop) : Prop :=
  ∀ s a rest, read s = .ok (a, rest) → ∃ b t, Blanks b ∧ P t a ∧ s = b ++ (t ++ rest)

/-- A reader takes every text of these, if it may make calls enough and the text is at its end. -/
def TakesAll (read : Nat → List Char → Except Fault (α × List Char)) (P : List Char → α → Prop) :
    Prop :=
  ∀ fuel t a rest, P t a → Ended rest → 2 * t.length ≤ fuel → read fuel (t ++ rest) = .ok (a, rest)

/-- An entry and the entries after it are read. -/
def Goes (entry : List Char → Except Fault (α × List Char))
    (others : List Char → Except Fault (List α × List Char)) (s : List Char)
    (r : List α × List Char) : Prop :=
  ∃ a after as rest, entry s = .ok (a, after) ∧ others after = .ok (as, rest) ∧ r = (a :: as, rest)

/--
What a loop does that reads entries up to its bracket. Its arguments are the number of calls it may
make and whether it stands before its first entry.
-/
structure Loop (close : Char) (entry : Nat → List Char → Except Fault (α × List Char))
    (loop : Nat → Bool → List Char → Except Fault (List α × List Char)) : Prop where
  /-- The bracket is no blank, does not separate entries, and cannot belong to a number. -/
  bracket : isBlank close = false ∧ close ≠ ',' ∧ ∀ rest, Ended (close :: rest)
  none : ∀ isFirst s r, loop 0 isFirst s ≠ .ok r
  closed : ∀ fuel isFirst s rest, skipBlanks s = close :: rest →
    loop (fuel + 1) isFirst s = .ok ([], rest)
  /-- Before another entry stands a comma, and after the comma no bracket. -/
  next : ∀ fuel s r, (∀ rest, skipBlanks s ≠ close :: rest) →
    (loop (fuel + 1) false s = .ok r ↔ ∃ rest, skipBlanks s = ',' :: rest ∧
      (∀ rest', skipBlanks rest ≠ close :: rest') ∧
      Goes (entry fuel) (loop fuel false) (skipBlanks rest) r)
  first : ∀ fuel s r, (∀ rest, skipBlanks s ≠ close :: rest) →
    (loop (fuel + 1) true s = .ok r ↔ Goes (entry fuel) (loop fuel false) (skipBlanks s) r)

/-- What stands between an entry and the bracket: blanks, or a comma and the other entries. -/
inductive After (P : List Char → α → Prop) : List Char → List α → Prop
  | last {b : List Char} : Blanks b → After P b []
  | more {b s : List Char} {as : List α} : Blanks b → Row (Padded P) s as → After P (b ++ ',' :: s) as

theorem After.row {P : List Char → α → Prop} {b t s : List Char} {a : α} {as : List α}
    (h : After P s as) (hb : Blanks b) (ht : P t a) : Row (Padded P) (b ++ t ++ s) (a :: as) := by
  cases h with
  | last hs => exact .one ⟨b, t, s, hb, ht, hs, rfl⟩
  | @more b' s as hb' hrow =>
      have := Row.cons ⟨b, t, b', hb, ht, hb', rfl⟩ hrow
      rwa [List.append_assoc (b ++ t)] at this

theorem Row.blanks {P : List Char → α → Prop} {b s : List Char} {as : List α} (hb : Blanks b)
    (h : Row (Padded P) s as) : Row (Padded P) (b ++ s) as := by
  have hpadded : ∀ {t : List Char} {a : α}, Padded P t a → Padded P (b ++ t) a := by
    rintro t a ⟨before, inner, after, hbefore, hinner, hafter, rfl⟩
    exact ⟨b ++ before, inner, after, List.forall_mem_append.mpr ⟨hb, hbefore⟩, hinner, hafter,
      by simp⟩
  cases h with
  | one h => exact .one (hpadded h)
  | @cons t rest a as h hrow =>
      have := Row.cons (hpadded h) hrow
      rwa [List.append_assoc] at this

variable {close : Char} {entry : Nat → List Char → Except Fault (α × List Char)}
  {loop : Nat → Bool → List Char → Except Fault (List α × List Char)} {P : List Char → α → Prop}

/-- An entry and what was read after it make a row. -/
theorem Goes.row {s rest : List Char} {as : List α} {fuel : Nat}
    (h : Goes (entry fuel) (loop fuel false) s (as, rest)) (hentry : Takes (entry fuel) P)
    (hafter : ∀ s as rest, loop fuel false s = .ok (as, rest) →
      ∃ inner, After P inner as ∧ s = inner ++ close :: rest) :
    ∃ inner, Row (Padded P) inner as ∧ s = inner ++ close :: rest := by
  obtain ⟨a, after, as', rest', hread, hothers, heq⟩ := h
  obtain ⟨rfl, rfl⟩ := Prod.mk.inj heq
  obtain ⟨b, t, hb, ht, rfl⟩ := hentry s a after hread
  obtain ⟨inner, hinner, rfl⟩ := hafter after as' rest hothers
  exact ⟨b ++ t ++ inner, hinner.row hb ht, by simp⟩

theorem Loop.after_sound (h : Loop close entry loop) (hentry : ∀ fuel, Takes (entry fuel) P)
    (fuel : Nat) : ∀ s as rest, loop fuel false s = .ok (as, rest) →
      ∃ inner, After P inner as ∧ s = inner ++ close :: rest := by
  induction fuel with
  | zero => exact fun s as rest hread => absurd hread (h.none false s (as, rest))
  | succ fuel ih =>
      intro s as rest hread
      by_cases hclosed : ∃ rest', skipBlanks s = close :: rest'
      · obtain ⟨rest', hs⟩ := hclosed
        rw [h.closed fuel false s rest' hs] at hread
        obtain ⟨rfl, rfl⟩ := Prod.mk.inj (Except.ok.inj hread)
        obtain ⟨b, hb, rfl⟩ := skipBlanks_eq hs
        exact ⟨b, .last hb, rfl⟩
      · obtain ⟨other, hs, -, hgoes⟩ := (h.next fuel s (as, rest) (not_exists.mp hclosed)).mp hread
        obtain ⟨b, hb, rfl⟩ := skipBlanks_eq hs
        obtain ⟨b', hb', hother⟩ := skipBlanks_sound other
        obtain ⟨inner, hrow, hinner⟩ := hgoes.row (hentry fuel) ih
        -- the blanks after the comma belong to the entry after it
        refine ⟨b ++ ',' :: (b' ++ inner), .more hb (.blanks hb' hrow), ?_⟩
        rw [hother, hinner]
        simp

/-- **What a loop has read** is a list of entries and the bracket after them. -/
theorem Loop.sound (h : Loop close entry loop) (hentry : ∀ fuel, Takes (entry fuel) P)
    {fuel : Nat} {s rest : List Char} {as : List α} (hread : loop fuel true s = .ok (as, rest)) :
    ∃ inner, Listed P inner as ∧ s = inner ++ close :: rest := by
  cases fuel with
  | zero => exact absurd hread (h.none true s (as, rest))
  | succ fuel =>
      by_cases hclosed : ∃ rest', skipBlanks s = close :: rest'
      · obtain ⟨rest', hs⟩ := hclosed
        rw [h.closed fuel true s rest' hs] at hread
        obtain ⟨rfl, rfl⟩ := Prod.mk.inj (Except.ok.inj hread)
        obtain ⟨b, hb, rfl⟩ := skipBlanks_eq hs
        exact ⟨b, .empty hb, rfl⟩
      · have hgoes := (h.first fuel s (as, rest) (not_exists.mp hclosed)).mp hread
        obtain ⟨b, hb, hs⟩ := skipBlanks_sound s
        obtain ⟨inner, hrow, hinner⟩ := hgoes.row (hentry fuel) (h.after_sound hentry fuel)
        exact ⟨b ++ inner, .row (.blanks hb hrow), by rw [hs, hinner]; simp⟩

theorem Ended.blanks {b rest : List Char} (hb : Blanks b) (h : Ended rest) : Ended (b ++ rest) := by
  cases b with
  | nil => exact h
  | cons c b =>
      intro d hd
      obtain rfl : c = d := Option.some.inj hd
      have hc : isBlank c = true := hb c List.mem_cons_self
      simp only [isBlank, Bool.or_eq_true, beq_iff_eq] at hc
      rcases hc with ((rfl | rfl) | rfl) | rfl <;> decide

theorem ended_comma (rest : List Char) : Ended (',' :: rest) := by
  intro c hc
  obtain rfl : ',' = c := Option.some.inj hc
  decide

/-- Entries begin with a character that is neither a blank nor the bracket. -/
def Starts (close : Char) (P : List Char → α → Prop) : Prop :=
  ∀ t a, P t a → ∃ c rest, t = c :: rest ∧ isBlank c = false ∧ c ≠ close

/-- The beginning of an entry stands after the blanks before it. -/
theorem Starts.skipBlanks (h : Starts close P) {b t : List Char} {a : α} (hb : Blanks b)
    (ht : P t a) (rest : List Char) :
    skipBlanks (b ++ (t ++ rest)) = t ++ rest ∧ ∀ other, t ++ rest ≠ close :: other := by
  obtain ⟨c, t', rfl, hc, hclose⟩ := h t a ht
  refine ⟨by rw [skipBlanks_append hb, List.cons_append, skipBlanks_cons hc], ?_⟩
  intro other heq
  exact hclose (List.cons.inj heq).1

theorem Starts.row (h : Starts close P) {s : List Char} {as : List α} (hs : Row (Padded P) s as)
    (rest other : List Char) : Json.skipBlanks (s ++ rest) ≠ close :: other := by
  have hpadded : ∀ {t : List Char} {a : α} (rest : List Char), Padded P t a →
      Json.skipBlanks (t ++ rest) ≠ close :: other := by
    rintro t a rest ⟨b, inner, after, hb, hinner, -, rfl⟩
    obtain ⟨hskip, hne⟩ := h.skipBlanks hb hinner (after ++ rest)
    rw [List.append_assoc, List.append_assoc, hskip]
    exact hne other
  cases hs with
  | one ht => exact hpadded rest ht
  | @cons t s a as ht hrow =>
      rw [List.append_assoc]
      exact hpadded (',' :: s ++ rest) ht

/-- **A row of entries and the bracket after it are read,** with calls enough. -/
theorem Loop.row (h : Loop close entry loop) (hentry : TakesAll entry P) (hstart : Starts close P)
    {s : List Char} {as : List α} (hs : Row (Padded P) s as) {fuel : Nat}
    (hfuel : 2 * (s.length + 1) ≤ fuel) (rest : List Char) :
    loop fuel true (s ++ close :: rest) = .ok (as, rest) := by
  obtain ⟨hblank, hcomma, hended⟩ := h.bracket
  induction hs generalizing fuel with
  | @one s a ht =>
      obtain ⟨b, t, b', hb, ht, hb', rfl⟩ := ht
      obtain ⟨f, rfl⟩ : ∃ f, fuel = f + 2 := ⟨fuel - 2, by omega⟩
      simp only [List.length_append] at hfuel
      obtain ⟨hskip, hne⟩ := hstart.skipBlanks hb ht (b' ++ close :: rest)
      simp only [List.append_assoc]
      refine (h.first (f + 1) _ _ (by rwa [hskip])).mpr ?_
      refine ⟨a, b' ++ close :: rest, [], rest, ?_, ?_, rfl⟩
      · rw [hskip]
        exact hentry _ t a _ ht ((hended rest).blanks hb') (by omega)
      · refine h.closed f false _ rest ?_
        rw [skipBlanks_append hb', skipBlanks_cons hblank]
  | @cons t s a as ht hrow ih =>
      obtain ⟨b, t, b', hb, ht, hb', rfl⟩ := ht
      obtain ⟨f, rfl⟩ : ∃ f, fuel = f + 2 := ⟨fuel - 2, by omega⟩
      simp only [List.length_append, List.length_cons] at hfuel
      obtain ⟨hskip, hne⟩ := hstart.skipBlanks hb ht (b' ++ ',' :: (s ++ close :: rest))
      simp only [List.append_assoc, List.cons_append]
      refine (h.first (f + 1) _ _ (by rwa [hskip])).mpr ?_
      refine ⟨a, b' ++ ',' :: (s ++ close :: rest), as, rest, ?_, ?_, rfl⟩
      · rw [hskip]
        exact hentry _ t a _ ht ((ended_comma _).blanks hb') (by omega)
      · -- after the comma the loop goes on as it would before its first entry
        have hothers := hstart.row hrow (close :: rest)
        have hcalls : 2 * (s.length + 1) ≤ f + 1 := by omega
        have hnext := (h.first f _ _ hothers).mp (ih hcalls)
        have hskip' : skipBlanks (b' ++ ',' :: (s ++ close :: rest)) =
            ',' :: (s ++ close :: rest) := by
          rw [skipBlanks_append hb', skipBlanks_cons (by decide)]
        refine (h.next f _ _ ?_).mpr ⟨_, hskip', hothers, hnext⟩
        intro other heq
        rw [hskip'] at heq
        exact hcomma (List.cons.inj heq).1.symm

/-- **What stands between brackets is read,** with calls enough. -/
theorem Loop.complete (h : Loop close entry loop) (hentry : TakesAll entry P)
    (hstart : Starts close P) {s : List Char} {as : List α} (hs : Listed P s as) {fuel : Nat}
    (hfuel : 2 * (s.length + 1) ≤ fuel) (rest : List Char) :
    loop fuel true (s ++ close :: rest) = .ok (as, rest) := by
  cases hs with
  | empty hb =>
      obtain ⟨f, rfl⟩ : ∃ f, fuel = f + 1 := ⟨fuel - 1, by omega⟩
      refine h.closed f true _ rest ?_
      rw [skipBlanks_append hb, skipBlanks_cons h.bracket.1]
  | row hrow => exact h.row hentry hstart hrow hfuel rest

/-! ## Items and members -/

/-- Entries are read one after another by two binds. -/
theorem goes_iff {entry : List Char → Except Fault (α × List Char)}
    {others : List Char → Except Fault (List α × List Char)} {s : List Char}
    {r : List α × List Char} :
    (do let (a, after) ← entry s
        let (as, rest) ← others after
        return (a :: as, rest)) = Except.ok (ε := Fault) r ↔ Goes entry others s r := by
  unfold Goes
  cases entry s with
  | error e => simp [bind, Except.bind]
  | ok p =>
      obtain ⟨a, after⟩ := p
      constructor
      · intro h
        cases hothers : others after with
        | error e => simp [bind, Except.bind, hothers] at h
        | ok q =>
            simp only [bind, Except.bind, hothers, pure, Except.pure, Except.ok.injEq] at h
            exact ⟨a, after, q.1, q.2, rfl, hothers, h.symm⟩
      · rintro ⟨a', after', as, rest, heq, hothers, rfl⟩
        obtain ⟨rfl, rfl⟩ := Prod.mk.inj (Except.ok.inj heq)
        simp [bind, Except.bind, hothers, pure, Except.pure]

/-- No entry is read where nothing is left. -/
theorem not_goes_nil {entry : List Char → Except Fault (α × List Char)}
    {others : List Char → Except Fault (List α × List Char)} {r : List α × List Char}
    (h : ∀ p, entry [] ≠ .ok p) : ¬ Goes entry others [] r :=
  fun ⟨a, after, _, _, hentry, _, _⟩ => h (a, after) hentry

theorem readValue_nil (fuel depth : Nat) (r : Value × List Char) :
    readValue fuel depth [] ≠ .ok r := by
  cases fuel <;> simp [readValue, skipBlanks]

/-- The reader of arrays is a loop over values. -/
theorem readItems_loop (depth : Nat) :
    Loop ']' (fun fuel => readValue fuel depth) (fun fuel => readItems fuel depth) where
  bracket := by
    refine ⟨by decide, by decide, ?_⟩
    intro rest c hc
    obtain rfl : ']' = c := Option.some.inj hc
    decide
  none := by simp [readItems]
  closed := by
    intro fuel isFirst s rest h
    simp [readItems, h]
  first := by
    intro fuel s r h
    rw [readItems]
    split
    · rename_i hs
      simp [hs, not_goes_nil (readValue_nil fuel depth)]
    · rename_i rest hs
      exact absurd hs (h rest)
    · rename_i c rest _ hs
      rw [if_pos rfl, hs]
      exact goes_iff
  next := by
    intro fuel s r h
    rw [readItems]
    split
    · rename_i hs
      simp [hs]
    · rename_i rest hs
      exact absurd hs (h rest)
    · rename_i c rest _ hs
      rw [if_neg Bool.false_ne_true, hs]
      by_cases hc : c = ','
      · subst hc
        rw [if_pos rfl]
        simp only [List.cons.injEq, true_and, exists_eq_left']
        split
        · rename_i hrest
          simp [hrest, not_goes_nil (readValue_nil fuel depth)]
        · rename_i other hrest
          simp [hrest]
        · rename_i hne
          rw [and_iff_right hne]
          exact goes_iff
      · simp [hc]

/-- Reads a key, a colon and a value. -/
def readMember (fuel depth : Nat) : List Char → Except Fault ((String × Value) × List Char)
  | '"' :: rest => do
    let (key, s) ← readString .plain [] rest
    let s ← readColon s
    let (value, s) ← readValue fuel depth s
    return ((String.ofList key, value), s)
  | other => .error (.first .keyNotString other)

theorem readMember_nil (fuel depth : Nat) (r : (String × Value) × List Char) :
    readMember fuel depth [] ≠ .ok r := by
  simp [readMember]

/-- Members are read one after another, if this one begins with its key. -/
theorem goes_readMember_iff {fuel depth : Nat} {s : List Char}
    {others : List Char → Except Fault (List (String × Value) × List Char)}
    {r : List (String × Value) × List Char} :
    (match s with
      | '"' :: rest => do
        let (key, s) ← readString .plain [] rest
        let s ← readColon s
        let (value, s) ← readValue fuel depth s
        let (members, s) ← others s
        return ((String.ofList key, value) :: members, s)
      | other => .error (.first .keyNotString other)) = Except.ok r ↔
      Goes (readMember fuel depth) others s r := by
  rw [← goes_iff]
  unfold readMember
  split
  · rename_i rest
    simp only [bind_assoc, pure_bind]
  · simp [bind, Except.bind]

/-- The reader of objects is a loop over members. -/
theorem readMembers_loop (depth : Nat) :
    Loop '\x7d' (fun fuel => readMember fuel depth) (fun fuel => readMembers fuel depth) where
  bracket := by
    refine ⟨by decide, by decide, ?_⟩
    intro rest c hc
    obtain rfl : '\x7d' = c := Option.some.inj hc
    decide
  none := by simp [readMembers]
  closed := by
    intro fuel isFirst s rest h
    simp [readMembers, h]
  first := by
    intro fuel s r h
    rw [readMembers]
    split
    · rename_i hs
      simp [hs, not_goes_nil (readMember_nil fuel depth)]
    · rename_i rest hs
      exact absurd hs (h rest)
    · rename_i c rest _ hs
      rw [if_pos rfl, hs]
      exact goes_readMember_iff
  next := by
    intro fuel s r h
    rw [readMembers]
    split
    · rename_i hs
      simp [hs]
    · rename_i rest hs
      exact absurd hs (h rest)
    · rename_i c rest _ hs
      rw [if_neg Bool.false_ne_true, hs]
      by_cases hc : c = ','
      · subst hc
        rw [if_pos rfl]
        simp only [List.cons.injEq, true_and, exists_eq_left']
        split
        · rename_i hrest
          simp [hrest, not_goes_nil (readMember_nil fuel depth)]
        · rename_i other hrest
          simp [hrest]
        · rename_i hne
          rw [and_iff_right hne]
          exact goes_readMember_iff
      · simp [hc]

/-! ## Values -/

theorem ScalarText.value {t : List Char} {v : Value} (h : ScalarText t v) (depth : Nat) :
    ValueText depth t v := by
  cases depth with
  | zero => exact h
  | succ depth => exact .inl h

theorem readString_text {t rest : List Char} {s : List Char}
    (h : readString .plain [] t = .ok (s, rest)) :
    ∃ key, StringText key (String.ofList s) ∧ '"' :: t = key ++ rest := by
  obtain ⟨body, chars, hbody, ht, hs⟩ := readString_sound (p := []) h rfl
  obtain rfl : s = chars := hs
  exact ⟨_, ⟨body, s, hbody, rfl, rfl⟩, by simpa using ht⟩

theorem readColon_sound {s rest : List Char} (h : readColon s = .ok rest) :
    ∃ b, Blanks b ∧ s = b ++ ':' :: rest := by
  unfold readColon at h
  split at h
  · exact absurd h nofun
  · rename_i hs
    obtain ⟨b, hb, rfl⟩ := skipBlanks_eq hs
    exact ⟨b, hb, by rw [Except.ok.inj h]⟩
  · exact absurd h nofun

theorem readMember_sound {fuel depth : Nat} {P : List Char → Value → Prop}
    (h : Takes (readValue fuel depth) P) : Takes (readMember fuel depth) (MemberText P) := by
  intro s m rest hread
  unfold readMember at hread
  split at hread
  · rename_i tail
    obtain ⟨⟨key, s1⟩, hkey, hread⟩ := bind_eq_ok.mp hread
    obtain ⟨s2, hcolon, hread⟩ := bind_eq_ok.mp hread
    obtain ⟨⟨v, s3⟩, hvalue, hread⟩ := bind_eq_ok.mp hread
    obtain ⟨rfl, rfl⟩ := Prod.mk.inj (Except.ok.inj hread)
    obtain ⟨keyText, hkeyText, htail⟩ := readString_text hkey
    obtain ⟨before, hbefore, rfl⟩ := readColon_sound hcolon
    obtain ⟨after, t, hafter, ht, rfl⟩ := h _ v s3 hvalue
    refine ⟨[], _, nofun, ⟨keyText, before, after, t, hkeyText, hbefore, hafter, ht, rfl⟩, ?_⟩
    rw [htail]
    simp
  · exact absurd hread nofun

/-- What is read as a value at some depth is one, if this holds of the values below it. -/
theorem readValue_step {fuel depth : Nat}
    (h : ∀ d, depth = d + 1 → ∀ fuel, Takes (readValue fuel d) (ValueText d)) :
    Takes (readValue fuel depth) (ValueText depth) := by
  intro s v rest hread
  cases fuel with
  | zero => exact absurd hread nofun
  | succ fuel =>
      obtain ⟨b, hb, hs⟩ := skipBlanks_sound s
      -- it is enough to find the text of the value where the blanks end
      suffices ∃ t, ValueText depth t v ∧ skipBlanks s = t ++ rest by
        obtain ⟨t, ht, hskip⟩ := this
        exact ⟨b, t, hb, ht, by rw [← hskip]; exact hs⟩
      rw [readValue] at hread
      split at hread
      · exact absurd hread nofun
      · rename_i hs
        obtain ⟨rest', hword, hread⟩ := bind_eq_ok.mp hread
        obtain ⟨rfl, rfl⟩ := Prod.mk.inj (Except.ok.inj hread)
        exact ⟨_, ScalarText.null.value depth, by rw [hs, readWord_sound hword]; rfl⟩
      · rename_i hs
        obtain ⟨rest', hword, hread⟩ := bind_eq_ok.mp hread
        obtain ⟨rfl, rfl⟩ := Prod.mk.inj (Except.ok.inj hread)
        exact ⟨_, ScalarText.yes.value depth, by rw [hs, readWord_sound hword]; rfl⟩
      · rename_i hs
        obtain ⟨rest', hword, hread⟩ := bind_eq_ok.mp hread
        obtain ⟨rfl, rfl⟩ := Prod.mk.inj (Except.ok.inj hread)
        exact ⟨_, ScalarText.no.value depth, by rw [hs, readWord_sound hword]; rfl⟩
      · rename_i tail hs
        obtain ⟨⟨text, rest'⟩, hstring, hread⟩ := bind_eq_ok.mp hread
        obtain ⟨rfl, rfl⟩ := Prod.mk.inj (Except.ok.inj hread)
        obtain ⟨t, ht, htail⟩ := readString_text hstring
        exact ⟨t, (ScalarText.string ht).value depth, by rw [hs, htail]⟩
      · rename_i tail hs
        obtain ⟨⟨x, rest'⟩, hnumber, hread⟩ := bind_eq_ok.mp hread
        obtain ⟨rfl, rfl⟩ := Prod.mk.inj (Except.ok.inj hread)
        obtain ⟨n, hn, hsign, rfl, hx⟩ := readNumber_sound hnumber
        refine ⟨n.text, (ScalarText.number ⟨n, hn, rfl, hx⟩).value depth, ?_⟩
        rw [hs, Numeral.text, if_pos hsign, List.cons_append]
      · rename_i tail hs
        cases depth with
        | zero => exact absurd hread nofun
        | succ depth =>
            obtain ⟨⟨items, rest'⟩, hitems, hread⟩ := bind_eq_ok.mp hread
            obtain ⟨rfl, rfl⟩ := Prod.mk.inj (Except.ok.inj hread)
            obtain ⟨inner, hinner, rfl⟩ := (readItems_loop depth).sound (h depth rfl) hitems
            exact ⟨_, .inr (.inl ⟨inner, items, hinner, rfl, rfl⟩), by rw [hs]; simp⟩
      · rename_i tail hs
        cases depth with
        | zero => exact absurd hread nofun
        | succ depth =>
            obtain ⟨⟨members, rest'⟩, hmembers, hread⟩ := bind_eq_ok.mp hread
            obtain ⟨rfl, rfl⟩ := Prod.mk.inj (Except.ok.inj hread)
            obtain ⟨inner, hinner, rfl⟩ := (readMembers_loop depth).sound
              (fun fuel => readMember_sound (h depth rfl fuel)) hmembers
            exact ⟨_, .inr (.inr ⟨inner, members, hinner, rfl, rfl⟩), by rw [hs]; simp⟩
      · rename_i c tail _ _ _ _ _ _ _ hs
        split at hread
        · obtain ⟨⟨x, rest'⟩, hnumber, hread⟩ := bind_eq_ok.mp hread
          obtain ⟨rfl, rfl⟩ := Prod.mk.inj (Except.ok.inj hread)
          obtain ⟨n, hn, hsign, htail, hx⟩ := readNumber_sound hnumber
          refine ⟨n.text, (ScalarText.number ⟨n, hn, rfl, hx⟩).value depth, ?_⟩
          rw [hs, Numeral.text, if_neg (by simp [hsign]), htail]
        · exact absurd hread nofun

/-- **What is read as a value is the text of this value.** -/
theorem readValue_sound (fuel depth : Nat) : Takes (readValue fuel depth) (ValueText depth) := by
  induction depth generalizing fuel with
  | zero => exact readValue_step nofun
  | succ depth ih =>
      refine readValue_step ?_
      rintro d hd fuel
      obtain rfl := Nat.succ.inj hd
      exact ih fuel

/-! ## Texts of values are read -/

/-- A digit is no other character. -/
theorem ne_of_isDigit {c d : Char} (hc : isDigit c = true) (hd : isDigit d = false) : c ≠ d := by
  intro h
  rw [h, hd] at hc
  exact Bool.noConfusion hc

theorem not_isBlank_of_isDigit {c : Char} (h : isDigit c = true) : isBlank c = false := by
  simp [isBlank, ne_of_isDigit (d := ' ') h (by decide), ne_of_isDigit (d := '\t') h (by decide),
    ne_of_isDigit (d := '\n') h (by decide), ne_of_isDigit (d := '\r') h (by decide)]

theorem Numeral.WellFormed.body_head {n : Numeral} (h : n.WellFormed) :
    ∃ c rest, n.body = c :: rest ∧ isDigit c = true := by
  obtain ⟨hne, hdigits⟩ := h.whole.digits
  cases hw : n.whole with
  | nil => exact absurd hw hne
  | cons c ds =>
      refine ⟨c, _, by rw [body, hw, List.cons_append], hdigits c ?_⟩
      rw [hw]
      exact List.mem_cons_self

/-- A value does not begin with a blank or a closing bracket. -/
theorem ValueText.head {depth : Nat} {t : List Char} {v : Value} (h : ValueText depth t v) :
    ∃ c rest, t = c :: rest ∧ isBlank c = false ∧ c ≠ ']' := by
  have hscalar : ScalarText t v → ∃ c rest, t = c :: rest ∧ isBlank c = false ∧ c ≠ ']' := by
    intro h
    cases h with
    | null => exact ⟨'n', _, rfl, by decide, by decide⟩
    | yes => exact ⟨'t', _, rfl, by decide, by decide⟩
    | no => exact ⟨'f', _, rfl, by decide, by decide⟩
    | number hx =>
        obtain ⟨n, hn, rfl, -⟩ := hx
        obtain ⟨c, rest, hbody, hc⟩ := hn.body_head
        unfold Numeral.text
        split
        · exact ⟨'-', _, rfl, by decide, by decide⟩
        · exact ⟨c, rest, hbody, not_isBlank_of_isDigit hc, ne_of_isDigit hc (by decide)⟩
    | string hs =>
        obtain ⟨body, cs, -, rfl, -⟩ := hs
        exact ⟨'"', _, rfl, by decide, by decide⟩
  cases depth with
  | zero => exact hscalar h
  | succ depth =>
      rcases h with h | ⟨inner, items, -, rfl, -⟩ | ⟨inner, members, -, rfl, -⟩
      · exact hscalar h
      · exact ⟨'[', _, rfl, by decide, by decide⟩
      · exact ⟨'\x7b', _, rfl, by decide, by decide⟩

theorem StringText.read {key : List Char} {s : String} (h : StringText key s) (rest : List Char) :
    ∃ body cs, key ++ rest = '"' :: (body ++ '"' :: rest) ∧ s = String.ofList cs ∧
      readString .plain [] (body ++ '"' :: rest) = .ok (cs, rest) := by
  obtain ⟨body, cs, hbody, rfl, rfl⟩ := h
  exact ⟨body, cs, by simp, rfl, readString_chars hbody [] rest⟩

/-- A value that holds no others is read, with a single call. -/
theorem ScalarText.read {t : List Char} {v : Value} (h : ScalarText t v) {rest : List Char}
    (hrest : Ended rest) (fuel depth : Nat) :
    readValue (fuel + 1) depth (t ++ rest) = .ok (v, rest) := by
  cases h with
  | null =>
      have hword := readWord_text "ull".toList rest
      show readValue (fuel + 1) depth ('n' :: ("ull".toList ++ rest)) = _
      rw [readValue, skipBlanks_cons (by decide)]
      simp only [hword, bind, Except.bind, pure, Except.pure]
  | yes =>
      have hword := readWord_text "rue".toList rest
      show readValue (fuel + 1) depth ('t' :: ("rue".toList ++ rest)) = _
      rw [readValue, skipBlanks_cons (by decide)]
      simp only [hword, bind, Except.bind, pure, Except.pure]
  | no =>
      have hword := readWord_text "alse".toList rest
      show readValue (fuel + 1) depth ('f' :: ("alse".toList ++ rest)) = _
      rw [readValue, skipBlanks_cons (by decide)]
      simp only [hword, bind, Except.bind, pure, Except.pure]
  | number hx =>
      obtain ⟨n, hn, rfl, hx⟩ := hx
      have hread := readNumber_body hn hx hrest
      obtain ⟨c, tail, hbody, hc⟩ := hn.body_head
      cases hsign : n.isNegative with
      | true =>
          rw [hsign] at hread
          rw [Numeral.text, if_pos hsign, List.cons_append, readValue, skipBlanks_cons (by decide)]
          simp only [hread, bind, Except.bind, pure, Except.pure]
      | false =>
          -- a digit begins none of the other values
          have hne : ∀ d, isDigit d = false → c ≠ d := fun d => ne_of_isDigit hc
          rw [hsign, hbody, List.cons_append] at hread
          rw [Numeral.text, if_neg (by simp [hsign]), hbody, List.cons_append, readValue,
            skipBlanks_cons (not_isBlank_of_isDigit hc)]
          simp [hne 'n' (by decide), hne 't' (by decide), hne 'f' (by decide), hne '"' (by decide),
            hne '-' (by decide), hne '[' (by decide), hne '\x7b' (by decide), hc, hread, bind,
            Except.bind, pure, Except.pure]
  | string hs =>
      obtain ⟨body, cs, htext, rfl, hread⟩ := hs.read rest
      rw [htext, readValue, skipBlanks_cons (by decide)]
      simp only [hread, bind, Except.bind, pure, Except.pure]

theorem readValue_blanks (fuel depth : Nat) {b : List Char} (hb : Blanks b) (s : List Char) :
    readValue (fuel + 1) depth (b ++ s) = readValue (fuel + 1) depth s := by
  rw [readValue, readValue, skipBlanks_append hb]

theorem readMember_complete {depth : Nat} {P : List Char → Value → Prop}
    (h : TakesAll (fun fuel => readValue fuel depth) P) :
    TakesAll (fun fuel => readMember fuel depth) (MemberText P) := by
  rintro fuel t ⟨key, v⟩ rest ⟨keyText, before, after, value, hkey, hbefore, hafter, hvalue, rfl⟩
    hrest hfuel
  simp only [List.length_append, List.length_cons] at hfuel
  obtain ⟨f, rfl⟩ : ∃ f, fuel = f + 1 := ⟨fuel - 1, by omega⟩
  obtain ⟨body, cs, htext, hcs, hread⟩ :=
    hkey.read (before ++ ':' :: (after ++ (value ++ rest)))
  have hcolon : readColon (before ++ ':' :: (after ++ (value ++ rest))) =
      .ok (after ++ (value ++ rest)) := by
    rw [readColon, skipBlanks_append hbefore, skipBlanks_cons (by decide)]
    rfl
  have hvalue' := h (f + 1) value v rest hvalue hrest (by omega)
  simp only [List.append_assoc, List.cons_append]
  rw [htext]
  simp only at hcs
  simp [readMember, hread, hcolon, readValue_blanks f depth hafter, hvalue', hcs, bind, Except.bind,
    pure, Except.pure]

theorem MemberText.starts (P : List Char → Value → Prop) : Starts '\x7d' (MemberText P) := by
  rintro t m ⟨key, before, after, value, ⟨body, cs, -, rfl, -⟩, -, -, -, rfl⟩
  exact ⟨'"', _, rfl, by decide, by decide⟩

/-- **Every text of a value is read** where it ends, with calls enough. -/
theorem readValue_complete (depth : Nat) :
    TakesAll (fun fuel => readValue fuel depth) (ValueText depth) := by
  induction depth with
  | zero =>
      intro fuel t v rest ht hrest hfuel
      obtain ⟨c, tail, rfl, -, -⟩ := ValueText.head (show ValueText 0 t v from ht)
      obtain ⟨f, rfl⟩ : ∃ f, fuel = f + 1 := ⟨fuel - 1, by simp at hfuel; omega⟩
      exact ScalarText.read ht hrest f 0
  | succ depth ih =>
      intro fuel t v rest ht hrest hfuel
      obtain ⟨c, tail, rfl, -, -⟩ := ht.head
      obtain ⟨f, rfl⟩ : ∃ f, fuel = f + 1 := ⟨fuel - 1, by simp at hfuel; omega⟩
      rcases ht with ht | ⟨inner, items, hinner, heq, rfl⟩ | ⟨inner, members, hinner, heq, rfl⟩
      · exact ht.read hrest f (depth + 1)
      · have hstarts : Starts ']' (ValueText depth) := fun t a h => h.head
        rw [heq] at hfuel ⊢
        simp only [List.length_cons, List.length_append, List.length_nil] at hfuel
        have hcalls : 2 * (inner.length + 1) ≤ f := by omega
        have hread := (readItems_loop depth).complete ih hstarts hinner hcalls rest
        simp only [List.cons_append, List.append_assoc, List.nil_append]
        rw [readValue, skipBlanks_cons (by decide)]
        simp only [hread, bind, Except.bind, pure, Except.pure]
      · rw [heq] at hfuel ⊢
        simp only [List.length_cons, List.length_append, List.length_nil] at hfuel
        have hcalls : 2 * (inner.length + 1) ≤ f := by omega
        have hread := (readMembers_loop depth).complete (readMember_complete ih)
          (MemberText.starts _) hinner hcalls rest
        simp only [List.cons_append, List.append_assoc, List.nil_append]
        rw [readValue, skipBlanks_cons (by decide)]
        simp only [hread, bind, Except.bind, pure, Except.pure]

/-! ## Texts -/

theorem skipBlanks_eq_nil_iff {s : List Char} : skipBlanks s = [] ↔ Blanks s := by
  constructor
  · intro h
    obtain ⟨b, hb, rfl⟩ := skipBlanks_eq h
    simpa using hb
  · intro h
    have := skipBlanks_append h []
    rwa [List.append_nil] at this

theorem ended_of_blanks {s : List Char} (h : Blanks s) : Ended s := by
  have := Ended.blanks h (show Ended [] from nofun)
  rwa [List.append_nil] at this

/-- **A text is read as a value if and only if it spells this value.** -/
theorem parse_eq_ok_iff {text : List Char} {v : Value} : parse text = .ok v ↔ Spells text v := by
  unfold parse
  constructor
  · intro h
    obtain ⟨⟨v', rest⟩, hread, h⟩ := bind_eq_ok.mp h
    obtain ⟨before, inner, hbefore, hinner, htext⟩ := readValue_sound _ _ _ _ _ hread
    dsimp only at h
    split at h
    · rename_i hrest
      obtain rfl : v' = v := Except.ok.inj h
      exact ⟨before, inner, rest, hbefore, hinner, skipBlanks_eq_nil_iff.mp hrest,
        by rw [htext, List.append_assoc]⟩
    · exact absurd h nofun
  · rintro ⟨before, inner, after, hbefore, hinner, hafter, rfl⟩
    have hread := readValue_complete maxDepth
      (2 * (before ++ inner ++ after).length + 2) inner v after hinner (ended_of_blanks hafter)
      (by simp only [List.length_append]; omega)
    refine bind_eq_ok.mpr ⟨(v, after), ?_, ?_⟩
    · rw [← hread, List.append_assoc before, readValue_blanks _ _ hbefore]
    · dsimp only
      rw [skipBlanks_eq_nil_iff.mpr hafter]
      rfl

/-! ## Texts that begin with an object -/

/-- After an object that is read whole, there are only blanks. -/
theorem parse_object {text : List Char} {v : Value} (h : parse ('\x7b' :: text) = .ok v) :
    ∃ inner members after, Listed (MemberText (ValueText 126)) inner members ∧ Blanks after ∧
      text = inner ++ '\x7d' :: after := by
  unfold parse at h
  obtain ⟨⟨v', rest⟩, hread, hrest⟩ := bind_eq_ok.mp h
  rw [readValue, skipBlanks_cons (by decide)] at hread
  obtain ⟨⟨members, rest'⟩, hmembers, hread⟩ := bind_eq_ok.mp hread
  obtain ⟨-, rfl⟩ := Prod.mk.inj (Except.ok.inj hread)
  obtain ⟨inner, hinner, rfl⟩ := (readMembers_loop 126).sound
    (fun fuel => readMember_sound (readValue_sound fuel 126)) hmembers
  dsimp only at hrest
  split at hrest
  · rename_i hblanks
    exact ⟨inner, members, rest', hinner, skipBlanks_eq_nil_iff.mp hblanks, rfl⟩
  · exact absurd hrest nofun

/-- Members are read up to the brace after them. -/
theorem readMembers_text {inner : List Char} {members : List (String × Value)}
    (h : Listed (MemberText (ValueText 126)) inner members) (f : Nat)
    (hf : 2 * (inner.length + 1) ≤ f) (rest : List Char) :
    readMembers f 126 true (inner ++ '\x7d' :: rest) = .ok (members, rest) :=
  (readMembers_loop 126).complete (readMember_complete (readValue_complete 126))
    (MemberText.starts _) h hf rest

/-- **An object does not go on after its brace:** where a text of one begins another text, there are
only blanks after it. -/
theorem blanks_of_parse {text more : List Char} {v v' : Value}
    (h : parse ('\x7b' :: text) = .ok v) (h' : parse ('\x7b' :: (text ++ more)) = .ok v') :
    Blanks more := by
  obtain ⟨inner, members, after, hinner, -, rfl⟩ := parse_object h
  obtain ⟨inner', members', after', hinner', hafter', htext⟩ := parse_object h'
  -- the reader stops at the same brace in both texts
  let calls := 2 * (inner.length + inner'.length + 1)
  have hread := readMembers_text hinner calls (by omega) (after ++ more)
  have hread' := readMembers_text hinner' calls (by omega) after'
  have hsame : inner ++ '\x7d' :: (after ++ more) = inner' ++ '\x7d' :: after' := by
    rw [← htext, List.append_assoc, List.cons_append]
  rw [hsame, hread'] at hread
  obtain ⟨-, hafter⟩ := Prod.mk.inj (Except.ok.inj hread)
  intro c hc
  exact hafter' c (hafter ▸ List.mem_append_right after hc)

end Lockstep.Json
