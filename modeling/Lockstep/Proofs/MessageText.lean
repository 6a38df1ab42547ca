import Lockstep.Client.Steps
import Lockstep.Proofs.Framing
import Lockstep.Proofs.JsonText
import Lockstep.Proofs.Utf8
import Lockstep.Wire.Line

/-!
# Messages on the wire

A message is written as an object of strings and natural numbers, so its line is read back to the
same message, by the controller and by the client. No character of a string is written as a line
feed, whatever the string holds, so the line feed that ends the line of a message is the only one
in it.
-/

namespace Lockstep

namespace Json

/-! ## Written values have no line feed -/

theorem lineFeed_not_mem_escape (c : Char) : '\n' ∉ escape c := by
  have hdigit : ∀ n, n < 16 → Hexadecimal.digit n ≠ '\n' := by decide
  unfold escape
  -- seven characters with an escape of their own, the other control characters, the rest
  repeat' split
  all_goals simp only [List.mem_cons, List.not_mem_nil, or_false, not_or]
  · decide
  · decide
  · decide
  · decide
  · decide
  · decide
  · decide
  · have hhigh := hdigit (c.toNat / 16) (by omega)
    have hlow := hdigit (c.toNat % 16) (by omega)
    exact ⟨by decide, by decide, by decide, by decide, hhigh.symm, hlow.symm⟩
  · -- the line feed has an escape, so it is none of the characters that stand for themselves
    rename_i h _ _ _
    exact fun hc => h hc.symm

theorem lineFeed_not_mem_renderString (s : List Char) : '\n' ∉ renderString s := by
  simp only [renderString, List.mem_cons, List.mem_append, List.mem_flatMap, List.not_mem_nil,
    or_false, not_or]
  refine ⟨by decide, ?_, by decide⟩
  rintro ⟨c, _, hc⟩
  exact lineFeed_not_mem_escape c hc

theorem lineFeed_not_mem_digits (n : Nat) : '\n' ∉ Decimal.digits n := by
  intro h
  exact absurd (isDigit_of_mem_digits h) (by decide)

theorem lineFeed_not_mem_object {members : List (String × Value)}
    (h : ∀ m ∈ members, '\n' ∉ m.2.render) : '\n' ∉ (Value.object members).render := by
  have hmember : ∀ m ∈ members, '\n' ∉ renderMember m := by
    intro m hm
    simp only [renderMember, List.mem_append, List.mem_cons, not_or]
    exact ⟨lineFeed_not_mem_renderString _, by decide, h m hm⟩
  have hall : '\n' ∉ commaSeparated (renderMembers members) := by
    rw [renderMembers_eq_map]
    cases members with
    | nil => exact List.not_mem_nil
    | cons m ms =>
        rw [List.map_cons, commaSeparated_cons, List.mem_append, not_or]
        refine ⟨hmember m List.mem_cons_self, ?_⟩
        intro hin
        obtain ⟨t, ht, hc⟩ := List.mem_flatMap.mp hin
        obtain ⟨m', hm', rfl⟩ := List.mem_map.mp ht
        rcases List.mem_cons.mp hc with hc | hc
        · exact absurd hc (by decide)
        · exact hmember m' (List.mem_cons_of_mem m hm') hc
  simp only [Value.render, List.mem_cons, List.mem_append, List.not_mem_nil, or_false, not_or]
  exact ⟨by decide, hall, by decide⟩

end Json

namespace Message

/-! ## The object of a message -/

/-- The members of the object that stands for a message. -/
def members (m : Message) : List (String × Json.Value) := ("type", .string m.kind.name) :: m.fields

theorem forall_members {P : Json.Value → Prop} (hs : ∀ s, P (.string s))
    (hn : ∀ n, n ≤ Decimal.max64 → P (.number (.natural n))) (m : Message) :
    ∀ e ∈ m.members, P e.2 := by
  have hport : ∀ p : UInt16, P (.number (.natural p.toNat)) := fun p =>
    hn _ (Nat.le_trans (Nat.le_of_lt p.toNat_lt) (by decide))
  have hline : ∀ l : UInt32, P (.number (.natural l.toNat)) := fun l =>
    hn _ (Nat.le_trans (Nat.le_of_lt l.toNat_lt) (by decide))
  cases m with
  | serverInit host port =>
      cases host <;> cases port <;> simp [members, fields, hs, hport]
  | breakAt line => simp [members, fields, hs, hline]
  | clientInit => simp [members, fields, hs]
  | resume => simp [members, fields, hs]
  | finish => simp [members, fields, hs]

/-- **The text of a message is the text of its object.** -/
theorem parse_toJson (m : Message) : Json.parse m.toJson.render = .ok (.object m.members) :=
  Json.parse_render (forall_members Json.legible_string (fun _ => Json.legible_natural) m)

theorem lineFeed_not_mem_toJson (m : Message) : '\n' ∉ m.toJson.render := by
  have hstring : ∀ s, '\n' ∉ (Json.Value.string s).render := fun s =>
    Json.lineFeed_not_mem_renderString s.toList
  have hnumber : ∀ n, n ≤ Decimal.max64 → '\n' ∉ (Json.Value.number (.natural n)).render :=
    fun n _ => Json.lineFeed_not_mem_digits n
  exact Json.lineFeed_not_mem_object
    (forall_members (P := fun v => '\n' ∉ v.render) hstring hnumber m)

/-- The object of a message says which message it is. -/
theorem ofMembers_members (m : Message) : ofMembers m.members = .ok m := by
  cases m with
  | serverInit host port =>
      have hport : ∀ p : UInt16, p.toNat ≤ Decimal.max16 ∧ UInt16.ofNat p.toNat = p := fun p =>
        ⟨Nat.le_of_lt_succ p.toNat_lt, UInt16.ofNat_toNat⟩
      cases host <;> cases port <;>
        simp [members, fields, ofMembers, Json.member?, kind, Kind.name, Kind.ofName?, hostOf,
          portOf, hport, bind, Except.bind, pure, Except.pure]
  | breakAt line =>
      have hline : line.toNat ≤ Decimal.max32 := Nat.le_of_lt_succ line.toNat_lt
      simp [members, fields, ofMembers, Json.member?, kind, Kind.name, Kind.ofName?, lineOf, hline,
        bind, Except.bind, pure, Except.pure]
  | clientInit => rfl
  | resume => rfl
  | finish => rfl

/-! ## The line of a message -/

theorem dropTrailing_encode (m : Message) :
    Text.dropTrailing isLineEnd m.encode = m.toJson.render := by
  simp [encode, toJson, Json.Value.render, Text.dropTrailing, isLineEnd]

/-- **A message is read back from its line.** -/
theorem decode_encode (m : Message) : decode m.encode = .ok m := by
  simp only [decode, dropTrailing_encode, ofText, parse_toJson, ofJson, ofMembers_members]

/-- The bytes of a message without its line feed. -/
def body (m : Message) : Bytes := Utf8.encode m.toJson.render

theorem bytes_eq (m : Message) : m.bytes = m.body ++ [lineFeed] := by
  rw [bytes, encode, Utf8.encode_append]
  rfl

theorem lineFeed_not_mem_body (m : Message) : lineFeed ∉ m.body := by
  rw [body, Utf8.lineFeed_mem_encode]
  exact lineFeed_not_mem_toJson m

theorem getLast?_bytes (m : Message) : m.bytes.getLast? = some lineFeed := by
  rw [bytes_eq, List.getLast?_append]
  rfl

/-- The bytes of a message are its line and nothing more, whatever comes after them. -/
theorem cutLine_bytes (m : Message) (rest : Bytes) :
    Source.cutLine (m.bytes ++ rest) = some (m.bytes, rest) := by
  rw [bytes_eq, List.append_assoc]
  exact Source.cutLine_body (lineFeed_not_mem_body m) rest

/-- The lines of messages written one after another are the lines of these messages. -/
theorem linesOf_bytes (ms : List Message) : Source.linesOf (ms.flatMap bytes) = ms.map bytes := by
  induction ms with
  | nil => rfl
  | cons m ms ih =>
      rw [List.flatMap_cons, Source.linesOf_of_cutLine (cutLine_bytes m _), ih]
      rfl

/-- The client reads the line of a message as this message. -/
theorem readMessage_bytes (m : Message) : Client.readMessage m.bytes = .ok m := by
  have hne : m.bytes.isEmpty = false := by rw [bytes_eq]; simp
  have htext : Utf8.decode? m.bytes = some m.encode := by
    rw [Utf8.decode?, bytes, Utf8.decode_encode]
    rfl
  simp [Client.readMessage, hne, htext, decode_encode]

end Message

end Lockstep
