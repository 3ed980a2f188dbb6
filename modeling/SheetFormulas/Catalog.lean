import SheetFormulas.Signature

/-!
Catalogues of functions by name. A call of an entry answers with the first error value among its
arguments, unless the entry wants to see error values itself, and turns a refusal of its body into
an error value; failures pass through.
-/

namespace SheetFormulas

/-- A function under a name. -/
structure Entry where
  name : String
  /-- Whether an error value among the arguments is the answer. -/
  propagates : Bool
  body : Context → List Value → List (String × Value) → Run Value

namespace Entry

/-- The first error value among arguments, themselves and not inside arrays. -/
def firstErrorOf (arguments : List Value) (named : List (String × Value)) : Option ErrorKind :=
  (arguments ++ named.map Prod.snd).findSome? Value.error?

/-- The answer to a refusal, which leaves a note. -/
def refused (entry : Entry) (cause : Refusal) : Run Value := do
  Run.note (entry.name ++ " returned " ++ cause.kind.display ++ ": " ++ cause.message)
  return .error cause.kind

def run (entry : Entry) (context : Context) (arguments : List Value)
    (named : List (String × Value)) : Run Value :=
  (entry.body context arguments named).onRefusal entry.refused

def call (entry : Entry) (context : Context) (arguments : List Value)
    (named : List (String × Value)) : Run Value :=
  match entry.propagates, firstErrorOf arguments named with
  | true, some kind => return .error kind
  | _, _ => entry.run context arguments named

end Entry

/-- A catalogue of functions. -/
structure Catalog where
  entries : List Entry

namespace Catalog

def find? (catalog : Catalog) (name : String) : Option Entry :=
  catalog.entries.find? (·.name == name)

def contains (catalog : Catalog) (name : String) : Bool := (catalog.find? name).isSome

def erase (catalog : Catalog) (name : String) : Catalog :=
  ⟨catalog.entries.filter (·.name != name)⟩

/-- The catalogue with an entry, which replaces one of the same name. -/
def insert (catalog : Catalog) (entry : Entry) : Catalog :=
  ⟨entry :: (catalog.erase entry.name).entries⟩

/-- Texts in order, by the code points of their characters. -/
def sorted (names : List String) : List String := names.mergeSort fun a b => !(decide (b < a))

def names (catalog : Catalog) : List String := sorted (catalog.entries.map Entry.name)

/-- The names that only one of two catalogues has, in order. -/
def changed (a b : Catalog) : List String :=
  sorted ((a.entries.map Entry.name).filter (!b.contains ·)
    ++ (b.entries.map Entry.name).filter (!a.contains ·))

/-- The entry of a name that has to have one. -/
def entryOf (catalog : Catalog) (name : String) : Outcome Entry :=
  match catalog.find? name with
  | some entry => .ok entry
  | none => fail .missingEntry

def call (catalog : Catalog) (context : Context) (name : String) (arguments : List Value)
    (named : List (String × Value)) : Run Value := do
  let entry ← catalog.entryOf name
  entry.call context arguments named

end Catalog

end SheetFormulas
