import RuleReview.Toml.Fault
import RuleReview.Toml.Key

/-!
# Adding to tables

Headers and dotted keys reach into a table along a path.  On the way, tables that are missing are
made, and the last of tables that share a header stands for all of them.

A key is set once.  Dotted keys must not reach into a table that has a header of its own, and they
add only to tables that dotted keys have made.  A header may name a table that is there only because
of a header inside it; a repeated header must have been repeated from the start.  Nothing is added
to a table in braces.

## What is here

* `Toml.Binding` — a key with its value.
* `Toml.Descent`, `Toml.descend` — change the table at the end of a path.
* `Entries.set?`, `Entries.open?`, `Entries.append?` — what a key with a value, a header, and a
  repeated header do.
-/

set_option autoImplicit false

namespace RuleReview
namespace Toml

/-- A key with its place. -/
structure Key where
  /-- The key. -/
  name : Text
  /-- Where it stands. -/
  span : Span

/-- A key with its value. -/
structure Binding where
  /-- The keys in front of it, if it is the end of a dotted key. -/
  path : List Key
  /-- The key. -/
  key : Key
  /-- Where the value stands. -/
  span : Span
  /-- The value. -/
  value : Value

/-- What a path is for. -/
inductive Descent where
  /-- A header names a table. -/
  | header
  /-- A dotted key names an entry of a table. -/
  | dotted
  /-- A dotted key in braces names an entry. -/
  | braces

namespace Descent

/-- The origin of tables that are made on the way. -/
def made : Descent → Origin
  | .header => .implied
  | .dotted | .braces => .dotted

/-- The rule that is broken by going into a table of some origin, to which `path` leads. -/
def barrier? (d : Descent) (origin : Origin) (path : List Text) (key : Text) : Option Rule :=
  match d, origin with
  | .braces, .dotted => none
  | .braces, _ => some (.duplicateKey key none)
  | _, .inline => some (.notTable path "inline table")
  | .dotted, .header => some (.duplicateKey key none)
  | _, _ => none

end Descent

/-- Change the table at the end of a path.  Tables that are missing are made; `walked` are the keys
on the way here, and `here` is the origin of the table. -/
def descend (d : Descent) (change : Origin → Entries → Except Rule Entries) :
    (walked : List Text) → List Key → (here : Origin) → Entries → Except Rule Entries
  | _, [], here, entries => change here entries
  | walked, k :: path, _, entries =>
    let way := walked ++ [k.name]
    let further := descend d change way path
    match entries.find? k.name with
    | none => do
      let inner ← further d.made []
      return entries ++ [(k.name, k.span, .table d.made inner)]
    | some (.table origin inner) =>
      match d.barrier? origin way k.name with
      | some rule => .error rule
      | none => do
        let inner ← further origin inner
        return entries.replace k.name (.table origin inner)
    | some (.tables items) => do
      let inner ← further .header (items.getLast?.getD [])
      return entries.replace k.name (.tables (items.dropLast ++ [inner]))
    | some value => .error (.notTable way value.kind)

namespace Entries

/-- Set a key along a path of dotted keys, in the table of the given name or in braces. -/
def set? (table : Option (List Text)) (b : Binding) : Entries → Except Rule Entries :=
  let change (here : Origin) (entries : Entries) : Except Rule Entries :=
    if !b.path.isEmpty ∧ here ≠ .dotted then .error (.duplicateKey b.key.name none)
    else if (entries.find? b.key.name).isSome then .error (.duplicateKey b.key.name table)
    else .ok (entries ++ [(b.key.name, b.span, b.value)])
  descend (if table.isSome then .dotted else .braces) change [] b.path .header

/-- The rule that is broken by a header whose last key names something else already. -/
def taken (path : List Key) (key : Key) : Rule :=
  .duplicateKey (writtenKey key.name) (some (path.map (·.name)))

/-- Open the table that a header names. -/
def open? (path : List Key) (key : Key) (span : Span) : Entries → Except Rule Entries :=
  let change (_ : Origin) (entries : Entries) : Except Rule Entries :=
    match entries.find? key.name with
    | none => .ok (entries ++ [(key.name, span, .table .header [])])
    | some (.table .implied inner) => .ok (entries.moveToEnd key.name span (.table .header inner))
    | some _ => .error (taken path key)
  descend .header change [] path .header

/-- Begin another of the tables that a repeated header names. -/
def append? (path : List Key) (key : Key) (span : Span) : Entries → Except Rule Entries :=
  let change (_ : Origin) (entries : Entries) : Except Rule Entries :=
    match entries.find? key.name with
    | none => .ok (entries ++ [(key.name, span, .tables [[]])])
    | some (.tables items) =>
      .ok ((entries.replace key.name (.tables (items ++ [[]]))).stretch key.name span.stop)
    | some _ => .error (taken path key)
  descend .header change [] path .header

/-- Let the table at the end of a path reach to a place of the file. -/
def stretchAt? (path : List Key) (stop : Nat) (entries : Entries) : Except Rule Entries :=
  match path.getLast? with
  | none => .ok entries
  | some last =>
    let change (_ : Origin) (entries : Entries) : Except Rule Entries :=
      .ok (entries.stretch last.name stop)
    descend .header change [] path.dropLast .header entries

end Entries
end Toml
end RuleReview
