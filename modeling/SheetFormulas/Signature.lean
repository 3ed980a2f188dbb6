import SheetFormulas.Run

/-!
Parameters of functions and how arguments are given to them: first by position, then by name, and
otherwise by the parameter's own value. Arguments that do not fit make the call fail.
-/

namespace SheetFormulas

/-- A parameter with the value it has where no argument is given, if it has one. -/
structure Parameter where
  name : String
  otherwise : Option Value

namespace Parameter

def required (name : String) : Parameter := ⟨name, none⟩

def optional (name : String) (otherwise : Value) : Parameter := ⟨name, some otherwise⟩

end Parameter

/-- A function of one argument for each parameter and of all further arguments. -/
def Body (α : Type) : List Parameter → Type
  | [] => List Value → Run α
  | _ :: rest => Value → Body α rest

/-- Gives arguments to a function. Further arguments are allowed where `isOpen`. -/
def Body.apply {α : Type} (isOpen : Bool) : (parameters : List Parameter) → Body α parameters →
    List Value → List (String × Value) → Run α
  | [], body, further, named =>
    if named.isEmpty && (isOpen || further.isEmpty) then body further else fail .arguments
  | parameter :: rest, body, argument :: arguments, named =>
    if named.any (·.1 == parameter.name) then fail .arguments
    else Body.apply isOpen rest (body argument) arguments named
  | parameter :: rest, body, [], named =>
    match named.find? (·.1 == parameter.name), parameter.otherwise with
    | some (_, argument), _ =>
      Body.apply isOpen rest (body argument) [] (named.filter (·.1 != parameter.name))
    | none, some argument => Body.apply isOpen rest (body argument) [] named
    | none, none => fail .arguments

end SheetFormulas
