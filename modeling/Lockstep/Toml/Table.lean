import Lockstep.Toml.Fault

/-!
# How documents fill tables

A header opens a table, and the lines after it fill that table. Keys with dots pass through
tables, which they make where there are none. A name has one value: a table can have one header,
a table that a key with dots has made cannot have any, and a table between braces takes nothing.
While it is filled, the open table is kept apart from the document; it goes back in its place,
after what is there, when the next header comes.
-/

namespace Lockstep.Toml

namespace Value

/-- Entries with the value of a name replaced. -/
def replace (name : String) (v : Value) : List Entry → List Entry
  | [] => []
  | e :: rest => if e.1.name == name then (e.1, v) :: rest else e :: replace name v rest

/-- A name that has its value already. -/
def taken {α : Type} (k : Key) : Except Fault α :=
  .error ⟨k.span.start, .duplicateKey k.name⟩

/--
Changes the table at the end of a path, and makes the tables on the way that are missing. A key
with dots does not pass through a table that has a header.
-/
def change {α : Type} (dotted : Bool) (f : Value → Except Fault (α × Value)) :
    List Key → Value → Except Fault (α × Value)
  | [], t => f t
  | k :: path, .table span origin entries =>
    match find? k.name entries with
    | none =>
      match change dotted f path (.table none (if dotted then .dotted else .passed) []) with
      | .error fault => .error fault
      | .ok (a, child) => .ok (a, .table span origin (entries ++ [(k, child)]))
    | some (.table inner origin' below) =>
      if origin' = .braces || (dotted && origin' = .header) then taken k
      else
        match change dotted f path (.table inner origin' below) with
        | .error fault => .error fault
        | .ok (a, child) => .ok (a, .table span origin (replace k.name child entries))
    | some (.tables items) =>
      match items.getLast? with
      | none => taken k
      | some last =>
        match change dotted f path last with
        | .error fault => .error fault
        | .ok (a, child) =>
          .ok (a, .table span origin (replace k.name (.tables (items.dropLast ++ [child])) entries))
    | some _ => taken k
  | k :: _, _ => taken k

/-- Adds a value under a path of keys, the last of which is new. -/
def insert (t : Value) (path : List Key) (k : Key) (v : Value) : Except Fault Value :=
  let add (t : Value) : Except Fault (Unit × Value) :=
    match t with
    | .table span origin entries =>
      if (origin == .dotted) == path.isEmpty then taken k
      else if (find? k.name entries).isSome then taken k
      else .ok ((), .table span origin (entries ++ [(k, v)]))
    | _ => taken k
  (·.2) <$> change true add path t

end Value

/-- A document that is being read: all of it but the open table, and the open table. -/
structure Draft where
  root : Value
  /-- Where the open table belongs; nowhere if it is the document itself. -/
  place : Option (List Key × Key)
  /-- Whether the open table is one of several under its name. -/
  isRepeated : Bool
  opened : Value

namespace Draft

/-- No line has been read. -/
def start : Draft := ⟨.table none .header [], none, false, .table none .header []⟩

/-- A table that has a header, and whose last value may be added to its place in the text. -/
def widen (stop : Nat) : Value → Value
  | .table (some span) origin entries => .table (some ⟨span.start, stop⟩) origin entries
  | t => t

/-- Adds a line to the open table; `stop` is where the line's value ends. -/
def add (d : Draft) (path : List Key) (k : Key) (v : Value) : Except Fault Draft :=
  let opened :=
    match v.span? with
    | some span => widen span.stop d.opened
    | none => d.opened
  match opened.insert path k v with
  | .error fault => .error fault
  | .ok opened => .ok { d with opened := opened }

/-- Puts the open table in its place. -/
def close (d : Draft) : Except Fault Value :=
  match d.place with
  | none => .ok d.opened
  | some (path, k) =>
    let put (t : Value) : Except Fault (Unit × Value) :=
      match t with
      | .table span origin entries =>
        match Value.find? k.name entries, d.isRepeated with
        | none, false => .ok ((), .table span origin (entries ++ [(k, d.opened)]))
        | none, true => .ok ((), .table span origin (entries ++ [(k, .tables [d.opened])]))
        | some (.tables items), true =>
          .ok ((), .table span origin
            (Value.replace k.name (.tables (items ++ [d.opened])) entries))
        | _, _ => Value.taken k
      | _ => Value.taken k
    (·.2) <$> Value.change false put path d.root

/-- Opens the table of a header. -/
def openTable (d : Draft) (path : List Key) (k : Key) (span : Span) : Except Fault Draft := do
  let root ← d.close
  let take (t : Value) : Except Fault (List Value.Entry × Value) :=
    match t with
    | .table place origin entries =>
      match Value.find? k.name entries with
      | none => .ok ([], t)
      | some (.table _ .passed below) =>
        .ok (below, .table place origin (entries.filter fun e => e.1.name != k.name))
      | some _ => Value.taken k
    | _ => Value.taken k
  let (entries, root) ← Value.change false take path root
  return ⟨root, some (path, k), false, .table (some span) .header entries⟩

/-- Opens one more table under the name of a header in double brackets. -/
def openRepeated (d : Draft) (path : List Key) (k : Key) (span : Span) : Except Fault Draft := do
  let root ← d.close
  let prepare (t : Value) : Except Fault (Unit × Value) :=
    match t with
    | .table place origin entries =>
      match Value.find? k.name entries with
      | none => .ok ((), .table place origin (entries ++ [(k, .tables [])]))
      | some (.tables _) => .ok ((), t)
      | some _ => Value.taken k
    | _ => Value.taken k
  let (_, root) ← Value.change false prepare path root
  return ⟨root, some (path, k), true, .table (some span) .header []⟩

end Draft

end Lockstep.Toml
