import SheetFormulas.Catalog

/-!
Definitions: how functions get into a catalogue. A single definition may state a name of its own. In
a group, members that are shared come in under their own names, with error values propagated, unless
their names are hidden or they were defined on their own before.
-/

namespace SheetFormulas

/-- A function of any number of arguments. -/
abbrev OpenBody := Context → List Value → List (String × Value) → Run Value

/-- A function with the name it was written under, and the name and the treatment of error values
that were asked for. -/
structure Definition where
  /-- The name that was asked for; an empty one does not count. -/
  asked : Option String
  written : String
  propagates : Bool
  body : OpenBody

/-- How a member of a group takes part. -/
inductive Participation where
  /-- As a static method, under its own name. -/
  | shared
  /-- Not at all, as anything but a static method, or as one that was defined before. -/
  | excluded
  /-- By a definition of its own, which comes first. -/
  | separate (asked : Option String) (propagates : Bool)

structure Member where
  name : String
  participation : Participation
  body : OpenBody

namespace Definition

/-- The name that the function gets. -/
def name (definition : Definition) : String :=
  match definition.asked with
  | some name => if name.isEmpty then definition.written else name
  | none => definition.written

def entry (definition : Definition) : Entry :=
  ⟨definition.name, definition.propagates, definition.body⟩

end Definition

namespace Member

/-- Whether a name is hidden from groups. -/
def isHidden (name : String) : Bool := name.front == '_' && !name.isEmpty

def separateEntry? (m : Member) : Option Entry :=
  match m.participation with
  | .separate asked propagates => some (Definition.entry ⟨asked, m.name, propagates, m.body⟩)
  | _ => none

def sharedEntry? (m : Member) : Option Entry :=
  match m.participation with
  | .shared => if isHidden m.name then none else some ⟨m.name, true, m.body⟩
  | _ => none

/-- Whether the member is a function of a catalogue after its group came in. -/
def isIn (m : Member) : Bool := m.separateEntry?.isSome || m.sharedEntry?.isSome

/-- The last member of each name. -/
def latest : List Member → List Member
  | [] => []
  | m :: rest => if rest.any (·.name == m.name) then latest rest else m :: latest rest

end Member

namespace Catalog

/-- The catalogue with several entries, later ones replacing earlier ones. -/
def insertAll (catalog : Catalog) (entries : List Entry) : Catalog := entries.foldl insert catalog

def define (catalog : Catalog) (definition : Definition) : Catalog :=
  catalog.insert definition.entry

/-- The entries that a group makes, in order. -/
def groupEntries (members : List Member) : List Entry :=
  members.filterMap Member.separateEntry? ++ (Member.latest members).filterMap Member.sharedEntry?

def defineGroup (catalog : Catalog) (members : List Member) : Catalog :=
  catalog.insertAll (groupEntries members)

/-- The names of the members of a group that are functions of a catalogue, in order. -/
def groupNames (members : List Member) : List String :=
  sorted (((Member.latest members).filter Member.isIn).map Member.name)

end Catalog

end SheetFormulas
