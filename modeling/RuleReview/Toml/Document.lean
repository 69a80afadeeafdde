import RuleReview.Toml.Date
import RuleReview.Toml.Number
import RuleReview.Toml.Quoted
import RuleReview.Toml.Table

/-!
# TOML documents

A document is a sequence of statements, each on a line of its own: a key with a value, which goes
into the table that the last header opened, or a header.  What is written is read first and what it
means is decided statement by statement, so the first statement that is wrong in either way is the
one that is complained about.

## What is here

* `Toml.dottedKey`, `Toml.value` — keys and values.
* `Toml.Statement`, `Toml.statements` — what is written.
* `Toml.Document` — what it means; `Toml.parse?` — the entries of a document.
-/

set_option autoImplicit false

namespace RuleReview
namespace Toml

open Text Reader

/-- How many containers may stand in each other, and how many keys in a dotted key. -/
def maxDepth : Nat := 79

/-! ## Keys -/

/-- One key, with or without quotation marks. -/
def simpleKey : Reader Key := do
  let (span, name) ← placed do
    match ← peek? with
    | some '"' | some '\'' => quotedKey
    | _ =>
      let name ← takeWhile isBare
      if name.isEmpty then fail { subject := some "key" } else return name
  skipBlanks
  return ⟨name, span⟩

/-- Whether a key comes next. -/
def beginsKey (t : Text) : Bool :=
  match t with
  | c :: _ => isBare c || c == '"' || c == '\''
  | [] => false

/-- Whether a dot comes next, and after it another key. -/
def goesOn (t : Text) : Bool := t.head? == some '.' && beginsKey (t.tail.dropWhile isGap)

/-- The keys after a first one that dots join to it; `fuel` bounds their number. -/
def moreKeys : (fuel : Nat) → Reader (List Key)
  | 0 => return []
  | fuel + 1 => do
    if goesOn (← get) then
      skip 1
      skipBlanks
      let key ← simpleKey
      return key :: (← moreKeys fuel)
    else return []

/-- A key or a dotted key: all keys but the last, and the last. -/
def joinedKeys : Reader (List Key × Key) := do
  skipBlanks
  let first ← simpleKey
  let rest ← moreKeys (← get).length
  match rest.getLast? with
  | none => return ([], first)
  | some last => return (first :: rest.dropLast, last)

/-- A key or a dotted key that is not too long. -/
def dottedKey : Reader (List Key × Key) := do
  let start ← get
  let keys ← joinedKeys
  if maxDepth ≤ keys.1.length then lookingAt start (refuse .tooDeep)
  return keys

/-- The complaint where a key must go on or end. -/
def keyGoesOn : Complaint := { expected := [backQuoted ".", backQuoted "="] }

/-- What follows a key: a sign of equality and a value. -/
def boundTo (item : Reader Value) (keys : List Key × Key) : Reader Binding := do
  expect "=" keyGoesOn
  skipBlanks
  let (span, v) ← placed item
  return ⟨keys.1, keys.2, span, v⟩

/-! ## Values -/

/-- The complaint about something that is no value. -/
def noValue : Complaint where
  subject := some "string"
  expected := [backQuoted ['"'], backQuoted ['\'']]

/-- The complaint where an array must end. -/
def openArray : Complaint := { subject := some "array", expected := [backQuoted "]"] }

/-- The complaint where an inline table must end. -/
def openTable : Complaint := { subject := some "inline table", expected := [backQuoted ['}']] }

/-- Whether a value comes next, or at least something that can only be one. -/
def beginsValue (t : Text) : Bool :=
  match t with
  | [] => false
  | c :: _ =>
    c == '"' || c == '\'' || c == '[' || c == '{' || c == 't' || c == 'f' || beginsNumber t

/-- The items of an array up to its end; `fuel` bounds their number.  What is followed by a comment
or a line end that cannot be read is not taken for an item. -/
def items (item : Reader Value) : (fuel : Nat) → Reader (List Value)
  | 0 => fail openArray
  | fuel + 1 => do
    skipSpace (← get).length
    let start ← get
    if beginsValue start then
      let v ← item
      orFail (do skipSpace (← get).length) start openArray
      if ← accept "," then return v :: (← items item fuel)
      else
        expect "]" openArray
        return [v]
    else
      expect "]" openArray
      return []

/-- The bindings in braces as far as they go, each after a mark; `fuel` bounds their number.  A
dotted key that is too long is not taken for a key. -/
def bindings (item : Reader Value) (mark : Text) : (fuel : Nat) → Reader (List Binding)
  | 0 => return []
  | fuel + 1 => do
    let start ← get
    if (← accept mark) && beginsKey ((← get).dropWhile isGap) then
      let keys ← joinedKeys
      if keys.1.length < maxDepth then
        let b ← boundTo item keys
        skipBlanks
        return b :: (← bindings item "," fuel)
      else
        set start
        return []
    else
      set start
      return []

/-- An inline table, of which the opening brace was read. -/
def inlineTable (item : Reader Value) : Reader Value := do
  let start ← get
  let bs ← bindings item [] (start.length + 1)
  skipBlanks
  match bs.foldlM (fun (entries : Entries) b => entries.set? none b) [] with
  | .error rule => lookingAt start (refuse rule)
  | .ok entries =>
    expect ['}'] openTable
    return .table .inline entries

/-- An array or an inline table, whose items are read by `item`. -/
def container (item : Reader Value) : Reader Value := do
  if ← accept "[" then return .array (← items item ((← get).length + 1))
  else
    skip 1
    inlineTable item

/-- A value, of which arrays and inline tables are read by `nested`. -/
def valueOr (nested : Reader Value) : Reader Value := do
  match ← peek? with
  | none => fail {}
  | some c =>
    if c = '"' ∨ c = '\'' then return .string (← quotedString)
    else if c = '[' ∨ c = '{' then nested
    else if looksLikeDate (← get) || looksLikeTime (← get) then return .date (← date)
    else if c = '+' ∨ c = '-' ∨ c.isDigit then number
    else if ← accept "true" then return .bool true
    else if ← accept "false" then return .bool false
    else if c = 'i' ∨ c = 'n' then
      match ← special? false with
      | some value => return value
      | none => fail noValue
    else if c = '_' then fail { subject := some "integer", expected := ["leading digit"] }
    else if c = '.' then fail { subject := some floatName, expected := ["leading digit"] }
    else fail noValue

/-- A value in which containers nest at most `room` deep. -/
def value : (room : Nat) → Reader Value
  | 0 => valueOr (refuse .tooDeep)
  | room + 1 => valueOr (container (value room))

/-! ## Statements -/

/-- What a statement says. -/
inductive Statement where
  /-- A key has a value. -/
  | entry (b : Binding)
  /-- A table begins. -/
  | table (path : List Key) (key : Key) (span : Span)
  /-- Another table of the same header begins. -/
  | nextTable (path : List Key) (key : Key) (span : Span)

/-- A header with the brackets that it needs, and its place. -/
def header (opening closing : Text) : Reader (Span × List Key × Key) := within "table header" do
  let found ← placed do
    expect opening {}
    let keys ← dottedKey
    expect closing { expected := [backQuoted ".", backQuoted closing] }
    return keys
  endLine
  return found

/-- The statement that comes next, with the line it stands in. -/
def statement : Reader Statement := do
  match ← get with
  | ['['] => fail { subject := some "table header" }
  | '[' :: '[' :: _ =>
    let (span, path, key) ← header "[[" "]]"
    return .nextTable path key span
  | '[' :: _ =>
    let (span, path, key) ← header "[" "]"
    return .table path key span
  | _ =>
    let b ← boundTo (value maxDepth) (← dottedKey)
    endLine
    return .entry b

/-- The statements of a text with the places where they begin, up to the first one that cannot be
read, and the fault of that one.  `fuel` bounds the number of lines. -/
def statements : (fuel : Nat) → Text → List (Nat × Statement) × Option Fault
  | 0, _ => ([], none)
  | fuel + 1, t =>
    match (do skipLines t.length; get : Reader Text) t with
    | .error f => ([], some f)
    | .ok ([], _) => ([], none)
    | .ok (start, _) =>
      match statement start with
      | .error f => ([], some f)
      | .ok (s, rest) =>
        let (ss, f) := statements fuel rest
        ((start.length, s) :: ss, f)

/-! ## Documents -/

/-- The meaning of the statements so far: the entries, and the table that was opened last. -/
structure Document where
  /-- The entries of the document. -/
  entries : Entries
  /-- The path of the table that was opened last. -/
  current : List Key

namespace Document

/-- The document with one statement more. -/
def add? (d : Document) : Statement → Except Rule Document
  | .entry b => do
    let change (_ : Origin) (entries : Entries) : Except Rule Entries :=
      entries.set? (some (d.current.map (·.name))) b
    let entries ← descend .header change [] d.current .header d.entries
    return { d with entries := ← entries.stretchAt? d.current b.span.stop }
  | .table path key span => do
    return ⟨← d.entries.open? path key span, path ++ [key]⟩
  | .nextTable path key span => do
    return ⟨← d.entries.append? path key span, path ++ [key]⟩

/-- What a statement that breaks a rule is called. -/
def subject? : Statement → Option Text
  | .entry _ => none
  | _ => some "table header"

/-- The document of a sequence of statements. -/
def ofStatements? (ss : List (Nat × Statement)) : Except Fault Document :=
  ss.foldlM (fun (d : Document) (start, s) =>
    match d.add? s with
    | .ok d => .ok d
    | .error rule =>
      .error ⟨⟨start, start - 1⟩, { subject := subject? s, rule := some rule }⟩) ⟨[], []⟩

end Document

/-- The entries of a document, which may begin with a byte-order mark. -/
def parse? (t : Text) : Except Fault Entries := do
  let body := (after? [Char.ofNat 0xFEFF] t).getD t
  let (ss, fault) := statements (body.length + 1) body
  let d ← Document.ofStatements? ss
  match fault with
  | some f => .error f
  | none => .ok d.entries

end Toml
end RuleReview
