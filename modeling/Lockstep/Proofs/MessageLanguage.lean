import Lockstep.Proofs.JsonText
import Lockstep.Proofs.Reply

/-!
# The language of messages

Which lines are messages, and which message each of them is. A line is a message if its text, up to
the line feeds and carriage returns at its end, spells a JSON object whose members name the
message: `Names` says which members do, without regard to their order or to what else is there.
`decode_language` says that these lines are accepted and no others, and that any other line is
malformed and nothing else.

A member counts by its key as it was meant, not as it was escaped, since the grammar of strings has
already given the key; where a key comes more than once, its last member counts. Numbers of fields
are naturals of the grammar, which are written without sign, fraction and exponent
(`Json.Numeral.number?_eq_natural`).
-/

namespace Lockstep.Message

open Json (LastMember Spells Value member?_eq_some_iff member?_eq_none_iff)

/-! ## The text of a line -/

/-- The text is the line without the line feeds and carriage returns at its end. -/
structure Cut (line text : List Char) : Prop where
  ending : ∃ ending, line = text ++ ending ∧ ∀ c ∈ ending, c = '\r' ∨ c = '\n'
  last : ∀ c, text.getLast? = some c → c ≠ '\r' ∧ c ≠ '\n'

theorem cut_dropTrailing (line : List Char) : Cut line (Text.dropTrailing isLineEnd line) where
  ending := by
    refine ⟨(line.reverse.takeWhile isLineEnd).reverse, ?_, ?_⟩
    · rw [Text.dropTrailing, ← List.reverse_append, List.takeWhile_append_dropWhile,
        List.reverse_reverse]
    · intro c hc
      have := List.all_eq_true.mp List.all_takeWhile c (List.mem_reverse.mp hc)
      simpa [isLineEnd] using this
  last := by
    intro c hc
    rw [Text.dropTrailing, List.getLast?_reverse] at hc
    have hnot := List.head?_dropWhile_not isLineEnd line.reverse
    rw [hc] at hnot
    simpa [isLineEnd] using hnot

/-- A line has one text. -/
theorem Cut.eq {line text text' : List Char} (h : Cut line text) (h' : Cut line text') :
    text = text' := by
  have hdrop : ∀ {t : List Char}, Cut line t → Text.dropTrailing isLineEnd line = t := by
    rintro t ⟨⟨ending, rfl, hending⟩, hlast⟩
    have hall : ∀ c ∈ ending.reverse, isLineEnd c = true := by
      intro c hc
      have := hending c (List.mem_reverse.mp hc)
      simpa [isLineEnd] using this
    rw [Text.dropTrailing, List.reverse_append, List.dropWhile_append_of_pos hall]
    cases ht : t.reverse with
    | nil => simpa using ht.symm
    | cons c rest =>
        -- the text ends in a character that is no end of a line
        have hc : isLineEnd c = false := by
          have := hlast c (by rw [← List.head?_reverse, ht]; rfl)
          simpa [isLineEnd] using this
        rw [List.dropWhile_cons_of_neg (by simp [hc]), ← ht, List.reverse_reverse]
  rw [← hdrop h, hdrop h']

/-! ## Members -/

/-- A field that may be absent or null; otherwise it holds the value that stands for `a`. -/
inductive Field {α : Type} (members : List (String × Value)) (key : String) (value : α → Value) :
    Option α → Prop
  | absent : (∀ m ∈ members, m.1 ≠ key) → Field members key value none
  | null : LastMember members key .null → Field members key value none
  | present {a : α} : LastMember members key (value a) → Field members key value (some a)

/-- The members of an object name a message. -/
inductive Names (members : List (String × Value)) : Message → Prop
  | clientInit : LastMember members "type" (.string "clientinit") → Names members .clientInit
  | resume : LastMember members "type" (.string "continue") → Names members .resume
  | finish : LastMember members "type" (.string "finish") → Names members .finish
  | serverInit {host : Option String} {port : Option UInt16} :
      LastMember members "type" (.string "serverinit") → Field members "host" .string host →
      Field members "port" (fun p : UInt16 => .number (.natural p.toNat)) port →
      Names members (.serverInit host port)
  | breakAt {line : UInt32} : LastMember members "type" (.string "break") →
      LastMember members "linenumber" (.number (.natural line.toNat)) →
      Names members (.breakAt line)

/-- What a field holds, by the member that counts. -/
theorem field_iff {α : Type} {members : List (String × Value)} {key : String} {value : α → Value}
    {a? : Option α} :
    Field members key value a? ↔
      (a? = none ∧ (Json.member? members key = none ∨ Json.member? members key = some .null)) ∨
        ∃ a, a? = some a ∧ Json.member? members key = some (value a) := by
  constructor
  · intro h
    cases h with
    | absent h => exact .inl ⟨rfl, .inl (member?_eq_none_iff.mpr h)⟩
    | null h => exact .inl ⟨rfl, .inr (member?_eq_some_iff.mpr h)⟩
    | present h => exact .inr ⟨_, rfl, member?_eq_some_iff.mpr h⟩
  · rintro (⟨rfl, h | h⟩ | ⟨a, rfl, h⟩)
    · exact .absent (member?_eq_none_iff.mp h)
    · exact .null (member?_eq_some_iff.mp h)
    · exact .present (member?_eq_some_iff.mp h)

theorem hostOf_eq_ok_iff {v? : Option Value} {host : Option String} :
    hostOf v? = .ok host ↔
      (host = none ∧ (v? = none ∨ v? = some .null)) ∨ ∃ s, host = some s ∧ v? = some (.string s) := by
  unfold hostOf
  split <;> simp_all [eq_comm]

theorem portOf_eq_ok_iff {v? : Option Value} {port : Option UInt16} :
    portOf v? = .ok port ↔
      (port = none ∧ (v? = none ∨ v? = some .null)) ∨
        ∃ p : UInt16, port = some p ∧ v? = some (.number (.natural p.toNat)) := by
  unfold portOf
  split
  · simp [eq_comm]
  · simp [eq_comm]
  · rename_i n
    by_cases hn : n ≤ Decimal.max16
    · have hp : (UInt16.ofNat n).toNat = n := UInt16.toNat_ofNat_of_lt' (Nat.lt_succ_of_le hn)
      rw [if_pos hn]
      constructor
      · intro h
        obtain rfl := Except.ok.inj h
        exact .inr ⟨_, rfl, by rw [hp]⟩
      · rintro (⟨-, h⟩ | ⟨p, rfl, h⟩)
        · simp at h
        · obtain rfl : n = p.toNat := by simpa using h
          rw [UInt16.ofNat_toNat]
    · -- a number of more than sixteen bits is no port
      rw [if_neg hn]
      refine iff_of_false nofun ?_
      rintro (⟨-, h⟩ | ⟨p, rfl, h⟩)
      · simp at h
      · obtain rfl : n = p.toNat := by simpa using h
        exact hn (Nat.le_of_lt_succ p.toNat_lt)
  · rename_i hnull hnatural
    refine iff_of_false nofun ?_
    rintro (⟨-, h | h⟩ | ⟨p, rfl, h⟩)
    · simp at h
    · exact hnull (Option.some.inj h)
    · exact hnatural _ (Option.some.inj h)

theorem lineOf_eq_ok_iff {v? : Option Value} {line : UInt32} :
    lineOf v? = .ok line ↔ v? = some (.number (.natural line.toNat)) := by
  unfold lineOf
  split
  · simp
  · rename_i n
    by_cases hn : n ≤ Decimal.max32
    · have hl : (UInt32.ofNat n).toNat = n := UInt32.toNat_ofNat_of_lt' (Nat.lt_succ_of_le hn)
      rw [if_pos hn]
      constructor
      · intro h
        obtain rfl := Except.ok.inj h
        rw [hl]
      · intro h
        obtain rfl : n = line.toNat := by simpa using h
        rw [UInt32.ofNat_toNat]
    · rw [if_neg hn]
      refine iff_of_false nofun ?_
      intro h
      obtain rfl : n = line.toNat := by simpa using h
      exact hn (Nat.le_of_lt_succ line.toNat_lt)
  · rename_i hnatural
    exact iff_of_false nofun (fun h => hnatural _ (Option.some.inj h))

theorem Kind.ofName?_eq_some_iff {name : String} {k : Kind} :
    Kind.ofName? name = some k ↔ name = k.name := by
  unfold Kind.ofName?
  constructor
  · intro h
    repeat' split at h
    all_goals first
      | (obtain rfl := Option.some.inj h; assumption)
      | exact absurd h nofun
  · rintro rfl
    cases k <;> decide

/-- The kind of a message is the value of its type. -/
theorem Names.kind {members : List (String × Value)} {m : Message} (h : Names members m) :
    LastMember members "type" (.string m.kind.name) := by
  cases h <;> assumption

/-- **The members of an object are a message if and only if they name it.** -/
theorem ofMembers_eq_ok_iff {members : List (String × Value)} {m : Message} :
    ofMembers members = .ok m ↔ Names members m := by
  unfold ofMembers
  constructor
  · intro h
    split at h
    · exact absurd h nofun
    · rename_i name htype
      have htype := member?_eq_some_iff.mp htype
      split at h
      · exact absurd h nofun
      · rename_i hk
        obtain rfl := Except.ok.inj h
        rw [Kind.ofName?_eq_some_iff.mp hk] at htype
        exact .clientInit htype
      · rename_i hk
        obtain rfl := Except.ok.inj h
        rw [Kind.ofName?_eq_some_iff.mp hk] at htype
        exact .resume htype
      · rename_i hk
        obtain rfl := Except.ok.inj h
        rw [Kind.ofName?_eq_some_iff.mp hk] at htype
        exact .finish htype
      · rename_i hk
        rw [Kind.ofName?_eq_some_iff.mp hk] at htype
        obtain ⟨host, hhost, h⟩ := Json.bind_eq_ok.mp h
        obtain ⟨port, hport, h⟩ := Json.bind_eq_ok.mp h
        obtain rfl := Except.ok.inj h
        exact .serverInit htype (field_iff.mpr (hostOf_eq_ok_iff.mp hhost))
          (field_iff.mpr (portOf_eq_ok_iff.mp hport))
      · rename_i hk
        rw [Kind.ofName?_eq_some_iff.mp hk] at htype
        obtain ⟨line, hline, h⟩ := Json.bind_eq_ok.mp h
        obtain rfl := Except.ok.inj h
        exact .breakAt htype (member?_eq_some_iff.mp (lineOf_eq_ok_iff.mp hline))
    · exact absurd h nofun
  · intro h
    rw [member?_eq_some_iff.mpr h.kind]
    dsimp only
    rw [Kind.ofName?_eq_some_iff.mpr rfl]
    cases h with
    | clientInit _ => rfl
    | resume _ => rfl
    | finish _ => rfl
    | serverInit _ hhost hport =>
        have hhost := hostOf_eq_ok_iff.mpr (field_iff.mp hhost)
        have hport := portOf_eq_ok_iff.mpr (field_iff.mp hport)
        simp [kind, hhost, hport, bind, Except.bind, pure, Except.pure]
    | breakAt _ hline =>
        have hline := lineOf_eq_ok_iff.mpr (member?_eq_some_iff.mpr hline)
        simp [kind, hline, bind, Except.bind, pure, Except.pure]

/-! ## Which members count -/

/-- The keys that some message knows. -/
def knownKeys : List String := ["type", "host", "port", "linenumber"]

/-- Two objects agree on a key: its last member has the same value in both, or it is in neither. -/
def AgreeOn (key : String) (members others : List (String × Value)) : Prop :=
  ∀ v, LastMember members key v ↔ LastMember others key v

theorem AgreeOn.member? {key : String} {members others : List (String × Value)}
    (h : AgreeOn key members others) : Json.member? members key = Json.member? others key := by
  refine Option.ext ?_
  intro v
  rw [member?_eq_some_iff, member?_eq_some_iff, h v]

/-- Objects that agree on the known keys are the same message or none. -/
theorem ofMembers_congr {members others : List (String × Value)}
    (h : ∀ key ∈ knownKeys, AgreeOn key members others) : ofMembers members = ofMembers others := by
  have hkey : ∀ key ∈ knownKeys, Json.member? members key = Json.member? others key :=
    fun key hk => (h key hk).member?
  unfold ofMembers
  rw [hkey "type" (by decide), hkey "host" (by decide), hkey "port" (by decide),
    hkey "linenumber" (by decide)]

/-- Where no key comes twice, the last member of a key is its only one. -/
theorem lastMember_iff_mem {members : List (String × Value)} (h : (members.map Prod.fst).Nodup)
    {key : String} {v : Value} : LastMember members key v ↔ (key, v) ∈ members := by
  constructor
  · rintro ⟨before, after, rfl, -⟩
    simp
  · intro hmem
    obtain ⟨before, after, rfl⟩ := List.append_of_mem hmem
    refine ⟨before, after, rfl, ?_⟩
    intro m hm hkey
    rw [List.map_append, List.map_cons] at h
    have hnot := (List.nodup_cons.mp (List.nodup_append.mp h).2.1).1
    exact hnot (List.mem_map.mpr ⟨m, hm, hkey⟩)

/-- The order of members does not count where no key comes twice. -/
theorem agreeOn_of_perm {members others : List (String × Value)} (h : members.Perm others)
    (hnodup : (members.map Prod.fst).Nodup) (key : String) : AgreeOn key members others := by
  intro v
  have hothers : (others.map Prod.fst).Nodup := (h.map Prod.fst).nodup_iff.mp hnodup
  rw [lastMember_iff_mem hnodup, lastMember_iff_mem hothers, h.mem_iff]

/-! ## Lines -/

theorem ofText_eq_ok_iff {text : List Char} {m : Message} :
    ofText text = .ok m ↔ ∃ members, Spells text (.object members) ∧ Names members m := by
  unfold ofText
  constructor
  · intro h
    split at h
    · exact absurd h nofun
    · rename_i v hparse
      cases v with
      | object members =>
          exact ⟨members, Json.parse_eq_ok_iff.mp hparse, ofMembers_eq_ok_iff.mp h⟩
      | null | bool | number | string | array => exact absurd h nofun
  · rintro ⟨members, hspells, hnames⟩
    rw [Json.parse_eq_ok_iff.mpr hspells]
    exact ofMembers_eq_ok_iff.mpr hnames

/-- A line is decoded by its text. -/
theorem decode_eq_ok {line text : List Char} (h : Cut line text) {m : Message} :
    decode line = .ok m ↔ ofText text = .ok m := by
  obtain rfl := h.eq (cut_dropTrailing line)
  unfold decode
  dsimp only
  split
  · rename_i m' hm
    rw [hm]
    simp
  · rename_i flaw hflaw
    rw [hflaw]
    simp

/-- Lines that spell objects which agree on the known keys are the same message or none. -/
theorem decode_congr {line text line' text' : List Char} {members others : List (String × Value)}
    (h : Cut line text) (h' : Cut line' text') (hspells : Spells text (.object members))
    (hspells' : Spells text' (.object others))
    (hagree : ∀ key ∈ knownKeys, AgreeOn key members others) (m : Message) :
    decode line = .ok m ↔ decode line' = .ok m := by
  rw [decode_eq_ok h, decode_eq_ok h', ofText, ofText, Json.parse_eq_ok_iff.mpr hspells,
    Json.parse_eq_ok_iff.mpr hspells']
  simp only [ofJson, ofMembers_congr hagree]

/--
**The language of messages.** Let a line be given and its text, which lacks the line feeds and
carriage returns at its end. The line is a message if and only if the text spells a JSON object whose
members name this message; any other line is malformed, and nothing else. Another line whose text
spells an object that agrees on the known keys is the same message or also none; so it is if the
other object has the same members in another order, and no key comes twice.
-/
theorem decode_language {line text : List Char} (h : Cut line text) :
    (∀ m, decode line = .ok m ↔ ∃ members, Spells text (.object members) ∧ Names members m) ∧
      ((¬ ∃ m members, Spells text (.object members) ∧ Names members m) →
        ∃ shown reason, decode line = .error (.malformed shown reason)) ∧
      ∀ members line' text' others, Spells text (.object members) → Cut line' text' →
        Spells text' (.object others) →
        ((∀ key ∈ knownKeys, AgreeOn key members others) →
          ∀ m, decode line = .ok m ↔ decode line' = .ok m) ∧
        (members.Perm others → (members.map Prod.fst).Nodup →
          ∀ m, decode line = .ok m ↔ decode line' = .ok m) := by
  have haccepts : ∀ m, decode line = .ok m ↔
      ∃ members, Spells text (.object members) ∧ Names members m :=
    fun m => (decode_eq_ok h).trans ofText_eq_ok_iff
  refine ⟨haccepts, ?_, ?_⟩
  · intro hnone
    cases hdecode : decode line with
    | ok m =>
        obtain ⟨members, hmembers⟩ := (haccepts m).mp hdecode
        exact absurd ⟨m, members, hmembers⟩ hnone
    | error failure =>
        obtain ⟨shown, reason, rfl⟩ := decode_error hdecode
        exact ⟨shown, reason, rfl⟩
  · intro members line' text' others hspells h' hspells'
    refine ⟨decode_congr h h' hspells hspells', ?_⟩
    intro hperm hnodup
    exact decode_congr h h' hspells hspells' (fun key _ => agreeOn_of_perm hperm hnodup key)

/-- An opening message, and the same members in the other order without the end of the line. -/
theorem decode_language_reordered :
    decode (encode (.serverInit none (some 7))) = .ok (.serverInit none (some 7)) ∧
      decode (Value.object [("port", .number (.natural 7)), ("type", .string "serverinit")]).render =
        .ok (.serverInit none (some 7)) := by
  let m : Message := .serverInit none (some 7)
  let others : List (String × Value) :=
    [("port", .number (.natural 7)), ("type", .string "serverinit")]
  have hcut : Cut m.encode m.toJson.render := by
    rw [← dropTrailing_encode]
    exact cut_dropTrailing _
  have hcut' : Cut (Value.object others).render (Value.object others).render := by
    refine ⟨⟨[], by simp, List.forall_mem_nil _⟩, ?_⟩
    intro c hc
    rw [Value.render, ← List.cons_append, List.getLast?_append] at hc
    obtain rfl : '\x7d' = c := Option.some.inj hc
    decide
  have hspells : Spells m.toJson.render (.object m.members) :=
    Json.parse_eq_ok_iff.mp m.parse_toJson
  have hspells' : Spells (Value.object others).render (.object others) := by
    refine Json.parse_eq_ok_iff.mp (Json.parse_render ?_)
    exact List.forall_mem_cons.mpr ⟨Json.legible_natural (by decide),
      List.forall_mem_singleton.mpr (Json.legible_string _)⟩
  obtain ⟨haccepts, -, horder⟩ := decode_language hcut
  have hnames : Names m.members m :=
    .serverInit ⟨[], [("port", .number (.natural 7))], rfl, by decide⟩ (.absent (by decide))
      (.present ⟨[("type", .string "serverinit")], [], rfl, List.forall_mem_nil _⟩)
  have hdecode : decode m.encode = .ok m := (haccepts m).mpr ⟨_, hspells, hnames⟩
  have hsame := (horder _ _ _ _ hspells hcut' hspells').2 (List.Perm.swap _ _ _) (by decide)
  exact ⟨hdecode, (hsame m).mp hdecode⟩

end Lockstep.Message
