import Lockstep.Shell.Lookup

/-!
# Calls

A call is a command of words after these have been expanded. What the first word names is found out
as soon as it is known, since it decides how the other words are read: commands that declare
variables take assignments whole, and `command` has a word after it that names what is really
called, unless an option asks for something else.
-/

namespace Lockstep.Shell

/-- What a name means as far as no search is needed. -/
inductive Known where
  | function (body : Command)
  | builtin
  | other

/-- What a name means, perhaps apart from functions. -/
def known (s : State) (plain : Bool) (name : Text) : Known :=
  match if plain then none else entryOf? name s.functions with
  | some body => .function body
  | none => if builtinNames.contains (asString name) then .builtin else .other

/-- A command of words that have been expanded. -/
structure Call where
  /-- All words. -/
  words : List Text
  /-- The name of what is called, and its arguments. -/
  named : List Text
  target : Known
  /-- Whether functions are left aside. -/
  plain : Bool
  /-- The directories to search, if they are not the usual ones. -/
  path : Option Text
  /-- Whether a mistake in the use of the command ends the shell. -/
  isSpecial : Bool
  /-- Whether variables that are set for the command are its own. -/
  isLocal : Bool

/-- A call of nothing. -/
def Call.empty : Call := ⟨[], [], .builtin, false, none, false, false⟩

/-- Whether the redirections of the call stay in effect. -/
def Call.stays (c : Call) : Bool :=
  match c.target, c.named with
  | .builtin, name :: _ => name == "exec".toList
  | _, _ => false

/-- Whether variables that are set for the call are meant for other programs. -/
def Call.exports (c : Call) : Bool := c.isLocal || (c.stays && c.named.length > 1)

/-- Words of which the first ones have been expanded. -/
structure Opening where
  /-- All words that have been expanded. -/
  passed : List Text
  /-- Those of them that have not been looked at. -/
  left : List Text
  rest : List Word

/-- Expands words until one of them gives something. -/
def expandSome (expand : Word → Run (List Text)) : List Word → Run (List Text × List Word)
  | [] => return ([], [])
  | w :: rest => do
    let fields ← expand w
    if fields.isEmpty then expandSome expand rest else return (fields, rest)

/-- Passes over the word that is looked at; whether there is another one. -/
def Opening.advance (expand : Word → Run (List Text)) (o : Opening) : Run (Opening × Bool) := do
  match o.left with
  | _ :: next :: more => return ({ o with left := next :: more }, true)
  | _ =>
    let (fields, rest) ← expandSome expand o.rest
    return (⟨o.passed ++ fields, fields, rest⟩, !fields.isEmpty)

/-- Passes over `command` and its options, of which one asks for the standard search path. Nothing
comes out but the words if there is another option, or nothing else. -/
def passCommand (fuel : Nat) (expand : Word → Run (List Text)) (path : Option Text)
    (o : Opening) : Run (Opening × Option (Option Text)) := do
  match fuel with
  | 0 => return (o, none)
  | fuel + 1 =>
    let (o, more) ← o.advance expand
    if !more then return (o, none)
    match o.left with
    | ['-', '-'] :: _ =>
      let (o, more) ← o.advance expand
      return (o, if more then some path else none)
    | ('-' :: c :: letters) :: _ =>
      if (c :: letters).all (· == 'p') then
        passCommand fuel expand (some standardPath.toList) o
      else return (o, none)
    | _ => return (o, some path)

/-- Finds out what words call: those that have been expanded are looked at. -/
def resolve (fuel : Nat) (expand : Word → Run (List Text)) (c : Call) (isFirst : Bool)
    (o : Opening) : Run (Call × Opening) := do
  match fuel with
  | 0 => return (c, o)
  | fuel + 1 =>
    let name := asString (o.left.headD [])
    let target := known (← get) c.plain (o.left.headD [])
    let c := { c with target := target, isLocal := true }
    match target with
    | .builtin =>
      let isSpecial := if isFirst then specialNames.contains name else c.isSpecial
      let c := { c with isSpecial := isSpecial, isLocal := !(isFirst && isSpecial) }
      if name ≠ "command" then return (c, o)
      match ← passCommand fuel expand none o with
      | (after, some path) =>
        resolve fuel expand { c with plain := true, path := path.or c.path } false after
      | (after, none) =>
        let all := o.left ++ after.passed.drop o.passed.length
        return ({ c with plain := false }, { after with left := all })
    | _ => return (c, o)

/-- Expands the words of a command, and finds out what they call. -/
def readCall (fuel : Nat) (run : Command → Run Text) (words : List Word) : Run Call := do
  let fields := expandFields fuel run
  match ← expandSome fields words with
  | ([], _) => return .empty
  | (first, rest) =>
    let (c, o) ← resolve fuel fields .empty true ⟨first, first, rest⟩
    let name := asString (o.left.headD [])
    let assigns :=
      match c.target with
      | .builtin => assigningNames.contains name
      | _ => false
    let mut others := []
    for w in o.rest do
      if assigns && w.assignment?.isSome then
        others := [← expandText fuel run .value w] :: others
      else others := (← fields w) :: others
    let more := others.reverse.flatten
    return { c with words := o.passed ++ more, named := o.left ++ more }

end Lockstep.Shell
