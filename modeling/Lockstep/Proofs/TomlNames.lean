import Lockstep.Toml.Parser

/-!
# A name of a document has one value

Whatever a document is made of, lines under keys with dots, headers, tables between braces and
tables in arrays, each table in the end has one value for each of its names, and so have the tables
inside it. A value is *tidy* if this holds at any depth.

A table changes in three ways: it gets a value under a new name, the value of a name is replaced, or
a name is taken out. All three keep it tidy, and `change` only does them further down. So the draft
of a document is tidy line after line, and the reader of values adds nothing to this but lists.
-/

namespace Lockstep.Toml

/-- Whatever comes of it has this property. -/
def Ensures {α : Type} (P : α → Prop) (r : Except Fault α) : Prop := ∀ a, r = .ok a → P a

namespace Ensures

variable {α β : Type} {P : α → Prop} {Q : β → Prop}

theorem error (fault : Fault) : Ensures P (.error fault) := nofun

theorem refuse (rest : List Char) (flaw : Flaw) : Ensures P (Toml.refuse rest flaw) := nofun

theorem ok {a : α} (h : P a) : Ensures P (.ok a) := by
  intro b hb
  rw [← Except.ok.inj hb]
  exact h

/-- Nothing is asked of what is read. -/
theorem anything (r : Except Fault α) : Ensures (fun _ => True) r := fun _ _ => trivial

/-- What comes first matters only if it does not fail. -/
theorem bind {r : Except Fault α} {f : α → Except Fault β} (hr : Ensures P r)
    (hf : ∀ a, P a → Ensures Q (f a)) : Ensures Q (r >>= f) := by
  cases r with
  | error fault => exact error fault
  | ok a => exact hf a (hr a rfl)

theorem map {r : Except Fault α} {f : α → β} (hr : Ensures P r) (hf : ∀ a, P a → Q (f a)) :
    Ensures Q (f <$> r) := by
  cases r with
  | error fault => exact error fault
  | ok a => exact ok (hf a (hr a rfl))

/-- What each step keeps is kept by all of them. -/
theorem foldlM {f : β → α → Except Fault β} {rows : List α} {b : β} (hb : Q b)
    (hf : ∀ b, ∀ a ∈ rows, Q b → Ensures Q (f b a)) : Ensures Q (rows.foldlM f b) := by
  induction rows generalizing b with
  | nil => exact ok hb
  | cons a rows ih =>
      rw [List.foldlM_cons]
      refine bind (hf b a List.mem_cons_self hb) ?_
      intro b' hb'
      exact ih hb' fun b a ha => hf b a (List.mem_cons_of_mem _ ha)

end Ensures

namespace Value

/-- Each table in the value, at any depth, has one value for each of its names. -/
inductive Tidy : Value → Prop
  | string (span : Span) (s : String) : Tidy (.string span s)
  | integer (span : Span) (i : Int) : Tidy (.integer span i)
  | real (span : Span) (r : Real) : Tidy (.real span r)
  | boolean (span : Span) (b : Bool) : Tidy (.boolean span b)
  | moment (span : Span) : Tidy (.moment span)
  | array (span : Span) {items : List Value} : (∀ v ∈ items, Tidy v) → Tidy (.array span items)
  | tables {items : List Value} : (∀ v ∈ items, Tidy v) → Tidy (.tables items)
  | table (span : Option Span) (origin : Origin) {entries : List Entry} :
      (entries.map fun e => e.1.name).Nodup → (∀ e ∈ entries, Tidy e.2) →
      Tidy (.table span origin entries)

variable {name : String} {v : Value} {entries : List Entry} {k : Key}

/-! ## Names -/

theorem find?_eq_none_iff : find? name entries = none ↔ name ∉ entries.map fun e => e.1.name := by
  rw [find?, Option.map_eq_none_iff, List.find?_eq_none, List.mem_map]
  constructor
  · intro h hmem
    obtain ⟨e, he, rfl⟩ := hmem
    exact h e he (beq_self_eq_true _)
  · intro h e he hname
    exact h ⟨e, he, beq_iff_eq.mp hname⟩

theorem mem_of_find? (h : find? name entries = some v) :
    ∃ e ∈ entries, e.1.name = name ∧ e.2 = v := by
  rw [find?, Option.map_eq_some_iff] at h
  obtain ⟨e, he, hv⟩ := h
  have hname := List.find?_some (p := fun e : Entry => e.1.name == name) he
  exact ⟨e, List.mem_of_find?_eq_some he, beq_iff_eq.mp hname, hv⟩

/-- Where each name has one value, this is the value of each entry. -/
theorem find?_of_mem (h : (entries.map fun e => e.1.name).Nodup) {e : Entry} (he : e ∈ entries) :
    find? e.1.name entries = some e.2 := by
  induction entries with
  | nil => exact absurd he List.not_mem_nil
  | cons first rest ih =>
      rw [List.map_cons, List.nodup_cons] at h
      rcases List.mem_cons.mp he with rfl | hrest
      · have hself : (e.1.name == e.1.name) = true := beq_self_eq_true _
        rw [find?, List.find?_cons, hself]
        rfl
      · have hne : first.1.name ≠ e.1.name := fun hname =>
          h.1 (hname ▸ List.mem_map.mpr ⟨e, hrest, rfl⟩)
        rw [find?, List.find?_cons_of_neg (by simpa using hne), ← find?]
        exact ih h.2 hrest

theorem names_replace : (replace name v entries).map (fun e => e.1.name) =
    entries.map fun e => e.1.name := by
  induction entries with
  | nil => rfl
  | cons e rest ih =>
      rw [replace]
      split
      · rfl
      · exact congrArg (_ :: ·) ih

theorem mem_replace {e : Entry} (h : e ∈ replace name v entries) : e ∈ entries ∨ e.2 = v := by
  induction entries with
  | nil => exact absurd h List.not_mem_nil
  | cons first rest ih =>
      rw [replace] at h
      split at h
      · rcases List.mem_cons.mp h with rfl | hrest
        · exact .inr rfl
        · exact .inl (List.mem_cons_of_mem _ hrest)
      · rcases List.mem_cons.mp h with rfl | hrest
        · exact .inl List.mem_cons_self
        · exact (ih hrest).imp_left (List.mem_cons_of_mem _)

/-! ## Changes of one table -/

namespace Tidy

variable {span span' : Option Span} {origin origin' : Origin}

theorem nothing (span : Option Span) (origin : Origin) : Tidy (.table span origin []) :=
  .table span origin List.nodup_nil (List.forall_mem_nil _)

/-- What stands under a name is tidy. -/
theorem found (h : Tidy (.table span origin entries)) (hv : find? name entries = some v) :
    Tidy v := by
  obtain ⟨e, he, -, rfl⟩ := mem_of_find? hv
  cases h with
  | table _ _ _ hall => exact hall e he

/-- How a table came about does not matter. -/
theorem relabel (h : Tidy (.table span origin entries)) : Tidy (.table span' origin' entries) := by
  cases h with
  | table _ _ hnames hall => exact .table span' origin' hnames hall

/-- A new name comes behind the others. -/
theorem add (h : Tidy (.table span origin entries)) (hnew : find? k.name entries = none)
    (hv : Tidy v) : Tidy (.table span' origin' (entries ++ [(k, v)])) := by
  cases h with
  | table _ _ hnames hall =>
      refine .table span' origin' ?_ ?_
      · rw [List.map_append, List.map_singleton]
        exact List.nodup_append.mpr ⟨hnames, List.pairwise_singleton _ _, by
          intro a ha b hb
          rw [List.mem_singleton.mp hb]
          intro hab
          exact find?_eq_none_iff.mp hnew (hab ▸ ha)⟩
      · exact List.forall_mem_append.mpr ⟨hall, List.forall_mem_singleton.mpr hv⟩

/-- The value of a name is replaced. -/
theorem replaced (h : Tidy (.table span origin entries)) (hv : Tidy v) :
    Tidy (.table span' origin' (replace name v entries)) := by
  cases h with
  | table _ _ hnames hall =>
      refine .table span' origin' ?_ ?_
      · rw [names_replace]
        exact hnames
      · intro e he
        rcases mem_replace he with hmem | rfl
        · exact hall e hmem
        · exact hv

/-- Names are taken out. -/
theorem filtered (h : Tidy (.table span origin entries)) (p : Entry → Bool) :
    Tidy (.table span' origin' (entries.filter p)) := by
  cases h with
  | table _ _ hnames hall =>
      refine .table span' origin' ?_ ?_
      · exact hnames.sublist (List.filter_sublist.map _)
      · intro e he
        exact hall e (List.mem_filter.mp he).1

/-- The entries of a value make a table. -/
theorem ofEntries {t : Value} (h : Tidy t) : Tidy (.table span origin t.entries) := by
  cases h with
  | table _ _ hnames hall => exact .table span origin hnames hall
  | _ => exact .nothing span origin

theorem items {items : List Value} (h : Tidy (.tables items)) : ∀ v ∈ items, Tidy v := by
  cases h with
  | tables hall => exact hall

end Tidy

/-! ## Changes further down -/

/-- **A change at the end of a path keeps the whole tidy,** if it keeps the table there tidy. -/
theorem change_tidy {α : Type} {P : α → Prop} {dotted : Bool}
    {f : Value → Except Fault (α × Value)}
    (hf : ∀ t, Tidy t → Ensures (fun r => P r.1 ∧ Tidy r.2) (f t)) (path : List Key) {t : Value}
    (ht : Tidy t) : Ensures (fun r => P r.1 ∧ Tidy r.2) (change dotted f path t) := by
  induction path generalizing t with
  | nil => exact hf t ht
  | cons k path ih =>
      cases t with
      | table span origin entries =>
          rw [change]
          cases hfind : find? k.name entries with
          | none =>
              -- the tables on the way are new
              have hchild := ih (.nothing none (if dotted then .dotted else .passed))
              dsimp only
              split
              · exact .error _
              · rename_i a child heq
                obtain ⟨hP, hT⟩ := hchild _ heq
                exact .ok ⟨hP, ht.add hfind hT⟩
          | some below =>
              have hbelow := ht.found hfind
              cases below with
              | table inner origin' under =>
                  have hchild := ih hbelow
                  dsimp only
                  split
                  · exact .error _
                  · split
                    · exact .error _
                    · rename_i a child heq
                      obtain ⟨hP, hT⟩ := hchild _ heq
                      exact .ok ⟨hP, ht.replaced hT⟩
              | tables items =>
                  dsimp only
                  cases hlast : items.getLast? with
                  | none => exact .error _
                  | some last =>
                      have hitems := hbelow.items
                      have hchild := ih (hitems last (List.mem_of_getLast? hlast))
                      dsimp only
                      split
                      · exact .error _
                      · rename_i a child heq
                        obtain ⟨hP, hT⟩ := hchild _ heq
                        refine .ok ⟨hP, ht.replaced (.tables ?_)⟩
                        refine List.forall_mem_append.mpr ⟨?_, List.forall_mem_singleton.mpr hT⟩
                        intro v hv
                        exact hitems v (List.dropLast_sublist _ |>.mem hv)
              | _ => exact .error _
      | _ => exact .error _

/-- Adding a value keeps a table tidy. -/
theorem insert_tidy {t v : Value} (ht : Tidy t) (hv : Tidy v) (path : List Key) (k : Key) :
    Ensures Tidy (t.insert path k v) := by
  rw [insert]
  refine .map (change_tidy (P := fun _ => True) ?_ path ht) fun r hr => hr.2
  intro t ht
  cases t with
  | table span origin entries =>
      dsimp only
      split
      · exact .error _
      · cases hfind : find? k.name entries with
        | some other => exact .error _
        | none => exact .ok ⟨trivial, ht.add hfind hv⟩
  | _ => exact .error _

end Value

open Value (Tidy)

/-! ## Values -/

/-- A value that is read is tidy. -/
def ReadsTidy (r : Reading Value) : Prop := Ensures (fun read => Tidy read.1) r

theorem readDecimal_tidy (start : List Char) (span : List Char → Span) (isNegative : Bool)
    (s : List Char) : ReadsTidy (readDecimal start span isNegative s) := by
  rw [readDecimal.eq_def]
  dsimp only
  split
  · exact .error _
  · split
    · exact .error _
    · split
      · exact .error _
      · split
        · split
          · exact .error _
          · exact .ok (.integer _ _)
        · split
          · exact .error _
          · exact .ok (.real _ _)

theorem readUnsigned_tidy (start : List Char) (span : List Char → Span) (isNegative : Bool)
    (s : List Char) : ReadsTidy (readUnsigned start span isNegative s) := by
  rw [readUnsigned.eq_def]
  split
  · exact .ok (.real _ _)
  · exact .ok (.real _ _)
  · exact readDecimal_tidy _ _ _ _

theorem readBased_tidy (start : List Char) (span : List Char → Span) (base : Nat)
    (s : List Char) : ReadsTidy (readBased start span base s) := by
  rw [readBased]
  split
  · exact .error _
  · split
    · exact .error _
    · exact .ok (.integer _ _)

theorem readNumber_tidy (s : List Char) : ReadsTidy (readNumber s) := by
  rw [readNumber.eq_def]
  dsimp only
  split
  · exact readUnsigned_tidy _ _ _ _
  · exact readUnsigned_tidy _ _ _ _
  · exact readBased_tidy _ _ _ _
  · exact readBased_tidy _ _ _ _
  · exact readBased_tidy _ _ _ _
  · exact readUnsigned_tidy _ _ _ _

theorem readMoment?_tidy {s : List Char} {r : Reading Value} (h : readMoment? s = some r) :
    ReadsTidy r := by
  rw [readMoment?, Option.map_eq_some_iff] at h
  obtain ⟨rest, -, rfl⟩ := h
  cases rest with
  | none => exact .error _
  | some rest => exact .ok (.moment _)

/-- No value stands in a simple one. -/
theorem readSimple_tidy (s : List Char) : ReadsTidy (readSimple s) := by
  rw [readSimple.eq_def]
  cases readString? s with
  | some r =>
      cases r with
      | error fault => exact .error fault
      | ok read => exact .ok (.string _ _)
  | none =>
      dsimp only
      split
      · exact .ok (.boolean _ _)
      · exact .ok (.boolean _ _)
      · cases hmoment : readMoment? s with
        | none => exact readNumber_tidy s
        | some r => exact readMoment?_tidy hmoment

section Collections

variable {value : List Char → Reading Value}

theorem readItems_tidy (hvalue : ∀ s, ReadsTidy (value s)) (fuel : Nat) (s : List Char) :
    Ensures (fun read => ∀ v ∈ read.1, Tidy v) (readItems value fuel s) := by
  induction fuel generalizing s with
  | zero => exact .refuse _ _
  | succ fuel ih =>
      rw [readItems]
      split
      · exact .ok (List.forall_mem_nil _)
      · split
        · exact .error _
        · rename_i v rest hread
          have hv := hvalue _ _ hread
          split
          · split
            · exact .error _
            · rename_i items left hitems
              exact .ok (List.forall_mem_cons.mpr ⟨hv, ih _ _ hitems⟩)
          · exact .ok (List.forall_mem_singleton.mpr hv)
          · exact .refuse _ _

theorem readPair_tidy (hvalue : ∀ s, ReadsTidy (value s)) (s : List Char) :
    Ensures (fun read => Tidy read.1.2) (readPair value s) := by
  rw [readPair]
  split
  · exact .error _
  · split
    · exact .error _
    · split
      · exact .error _
      · rename_i v rest hread
        exact .ok (hvalue _ _ hread)

theorem readPairs_tidy (hvalue : ∀ s, ReadsTidy (value s)) (fuel : Nat) (s : List Char) :
    Ensures (fun read => ∀ pair ∈ read.1, Tidy pair.2) (readPairs value fuel s) := by
  induction fuel generalizing s with
  | zero => exact .refuse _ _
  | succ fuel ih =>
      rw [readPairs]
      split
      · exact .error _
      · rename_i pair rest hpair
        have hv := readPair_tidy hvalue _ _ hpair
        split
        · split
          · exact .error _
          · rename_i pairs left hpairs
            exact .ok (List.forall_mem_cons.mpr ⟨hv, ih _ _ hpairs⟩)
        · exact .ok (List.forall_mem_singleton.mpr hv)
        · exact .refuse _ _

end Collections

/-- The table between braces is tidy, however its pairs fill it. -/
theorem tableOf_tidy (span : Span) {pairs : List ((List Key × Key) × Value)}
    (h : ∀ pair ∈ pairs, Tidy pair.2) : Ensures Tidy (tableOf span pairs) := by
  have hfilled : Ensures Tidy (pairs.foldlM
      (fun t pair => Value.insert t pair.1.1 pair.1.2 pair.2) (.table none .braces [])) :=
    .foldlM (.nothing none .braces) fun _ pair hpair ht => Value.insert_tidy ht (h pair hpair) _ _
  rw [tableOf]
  split
  · exact .error _
  · rename_i t ht
    exact .ok (hfilled t ht).ofEntries

theorem readTable_tidy {value : List Char → Reading Value} (hvalue : ∀ s, ReadsTidy (value s))
    (start s : List Char) : ReadsTidy (readTable value start s) := by
  rw [readTable.eq_def]
  dsimp only
  split
  · exact .error _
  · rename_i pairs rest hread
    have hpairs : ∀ pair ∈ pairs, Tidy pair.2 := by
      split at hread
      · obtain ⟨rfl, -⟩ := Prod.mk.inj (Except.ok.inj hread)
        exact List.forall_mem_nil _
      · exact readPairs_tidy hvalue _ _ _ hread
    have htable := tableOf_tidy ⟨start.length, rest.length⟩ hpairs
    split
    · exact .error _
    · rename_i t ht
      exact .ok (htable t ht)

/-- **A value that is read is tidy,** at any depth. -/
theorem readValue_tidy (depth : Nat) (s : List Char) : ReadsTidy (readValue depth s) := by
  induction depth generalizing s with
  | zero => exact readSimple_tidy s
  | succ depth ih =>
      rw [readValue.eq_def]
      dsimp only
      split
      · split
        · exact .error _
        · rename_i items left hitems
          exact .ok (.array _ (readItems_tidy ih _ _ _ hitems))
      · exact readTable_tidy ih _ _
      · exact readSimple_tidy _

/-! ## Documents -/

/-- The document that has been read so far is tidy, and the open table too. -/
structure Draft.Tidy (d : Draft) : Prop where
  root : Value.Tidy d.root
  opened : Value.Tidy d.opened

namespace Draft

variable {d : Draft}

theorem start_tidy : start.Tidy := ⟨.nothing none .header, .nothing none .header⟩

theorem widen_tidy {t : Value} (h : t.Tidy) (stop : Nat) : (widen stop t).Tidy := by
  rw [widen.eq_def]
  split
  · exact h.relabel
  · exact h

theorem add_tidy (hd : d.Tidy) (path : List Key) (k : Key) {v : Value} (hv : v.Tidy) :
    Ensures Draft.Tidy (d.add path k v) := by
  rw [add]
  cases v.span? with
  | none =>
      dsimp only
      split
      · exact .error _
      · rename_i opened hread
        exact .ok ⟨hd.root, Value.insert_tidy hd.opened hv path k opened hread⟩
  | some span =>
      dsimp only
      split
      · exact .error _
      · rename_i opened hread
        have hopened := widen_tidy hd.opened span.stop
        exact .ok ⟨hd.root, Value.insert_tidy hopened hv path k opened hread⟩

/-- The open table goes back as a table or as one of several. -/
theorem close_tidy (hd : d.Tidy) : Ensures Value.Tidy d.close := by
  have hone : ∀ v ∈ [d.opened], v.Tidy := List.forall_mem_singleton.mpr hd.opened
  rw [close.eq_def]
  split
  · exact .ok hd.opened
  · rename_i path k _
    refine .map (Value.change_tidy (P := fun _ => True) ?_ path hd.root) fun r hr => hr.2
    intro t ht
    cases t with
    | table span origin entries =>
        dsimp only
        split
        · rename_i hnew _
          exact .ok ⟨trivial, ht.add hnew hd.opened⟩
        · rename_i hnew _
          exact .ok ⟨trivial, ht.add hnew (.tables hone)⟩
        · rename_i items hfound _
          have hitems := (ht.found hfound).items
          exact .ok ⟨trivial, ht.replaced (.tables (List.forall_mem_append.mpr ⟨hitems, hone⟩))⟩
        · exact .error _
    | _ => exact .error _

theorem openTable_tidy (hd : d.Tidy) (path : List Key) (k : Key) (span : Span) :
    Ensures Draft.Tidy (d.openTable path k span) := by
  rw [openTable]
  refine .bind (close_tidy hd) fun root hroot => ?_
  refine .bind (Value.change_tidy
    (P := fun entries => Value.Tidy (.table (some span) .header entries)) ?_ path hroot) ?_
  · intro t ht
    cases t with
    | table place origin entries =>
        dsimp only
        split
        · exact .ok ⟨.nothing _ _, ht⟩
        · rename_i hfound
          -- a table that was only passed is taken out, and gets a header
          exact .ok ⟨(ht.found hfound).relabel, ht.filtered _⟩
        · exact .error _
    | _ => exact .error _
  · intro read hread
    exact .ok ⟨hread.2, hread.1⟩

theorem openRepeated_tidy (hd : d.Tidy) (path : List Key) (k : Key) (span : Span) :
    Ensures Draft.Tidy (d.openRepeated path k span) := by
  rw [openRepeated]
  refine .bind (close_tidy hd) fun root hroot => ?_
  refine .bind (Value.change_tidy (P := fun _ => True) ?_ path hroot) ?_
  · intro t ht
    cases t with
    | table place origin entries =>
        dsimp only
        split
        · rename_i hnew
          exact .ok ⟨trivial, ht.add hnew (.tables (List.forall_mem_nil _))⟩
        · exact .ok ⟨trivial, ht⟩
        · exact .error _
    | _ => exact .error _
  · intro read hread
    exact .ok ⟨hread.2, .nothing _ _⟩

end Draft

theorem readEntry_tidy {d : Draft} (hd : d.Tidy) (s : List Char) :
    Ensures (fun read => read.1.Tidy) (readEntry d s) := by
  rw [readEntry.eq_def]
  split
  · refine .bind (.anything _) fun header _ => .bind (.anything _) fun left _ => ?_
    exact .bind (Draft.openRepeated_tidy hd _ _ _) fun d hd => .ok hd
  · refine .bind (.anything _) fun header _ => .bind (.anything _) fun left _ => ?_
    exact .bind (Draft.openTable_tidy hd _ _ _) fun d hd => .ok hd
  · refine .bind (readPair_tidy (readValue_tidy maxDepth) _) fun pair hpair => ?_
    refine .bind (.anything _) fun left _ => ?_
    exact .bind (Draft.add_tidy hd _ _ hpair) fun d hd => .ok hd

theorem readEntries_tidy (fuel : Nat) {d : Draft} (hd : d.Tidy) (s : List Char) :
    Ensures Draft.Tidy (readEntries fuel d s) := by
  induction fuel generalizing d s with
  | zero => exact .ok hd
  | succ fuel ih =>
      rw [readEntries]
      split
      · exact .ok hd
      · split
        · exact .error _
        · rename_i read hread
          exact ih (readEntry_tidy hd _ _ hread) _

/-- **A name of a document has one value,** in each of its tables. -/
theorem parse_tidy (document : List Char) : Ensures Tidy (parse document) := by
  rw [parse]
  exact .bind (readEntries_tidy _ Draft.start_tidy _) fun _ hd => Draft.close_tidy hd

end Lockstep.Toml
