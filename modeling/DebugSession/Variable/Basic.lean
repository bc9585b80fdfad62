import DebugSession.Value
/-!
Named values, as they are found in frames, objects, types and arrays.
-/

namespace DebugSession

structure Variable where
  name : String
  value : Value
  field : Option Field := none
  slot : Option LocalVariable := none
  /-- The place among the arguments, in a frame without debug information. -/
  argumentIndex : Option Nat := none
  /-- An expression for the same value in the same frame. -/
  evaluateName : Option String := none
  /-- The declared type says nothing, so that the type at run time counts. -/
  unbounded : Bool
  declaredType : String
  deriving DecidableEq, Repr

namespace Variable

def ofValue (name : String) (value : Value) (declaredType : String) : Variable :=
  { name, value, declaredType, unbounded := declaredType = "java.lang.Object" }

def ofLocal (v : LocalVariable) (value : Value) : Variable :=
  { name := v.name, value, slot := some v, evaluateName := some v.name
    unbounded := v.signature = Signature.object
    declaredType := Signature.typeName v.signature }

/-- A field of what `parent` stands for: an object, or a class when the field is static. -/
def ofField (f : Field) (value : Value) (parent : Option String) : Variable :=
  { name := f.name, value, field := some f
    evaluateName := some (match parent with
      | some p => s!"{p}.{f.name}"
      | none => f.name)
    unbounded := f.signature = Signature.object
    declaredType := Signature.typeName f.signature }

def ofArgument (index : Nat) (value : Value) : Variable :=
  { ofValue s!"arg{index}" value (value.runtimeType?.getD "java.lang.Object") with
    argumentIndex := some index }

def ofElement (index : Nat) (value : Value) (component : String) (parent : Option String) :
    Variable :=
  { name := s!"[{index}]", value
    evaluateName := parent.map fun p => s!"{p}[{index}]"
    unbounded := component = Signature.object
    declaredType := Signature.typeName component }

def declaringType (v : Variable) : String :=
  match v.field with
  | some f => f.declaringType
  | none => v.declaredType

def displayType (v : Variable) : String :=
  if v.unbounded then v.value.runtimeType?.getD v.declaredType else v.declaredType

/-! ## Duplicate names -/

def qualifiedName (name typeName : String) : String := s!"{name} ({typeName})"

/-- The name of a variable among others: alone if no other has it, else with its declaring type,
in full where the short form does not tell it from another. -/
def nameAmong (vs : List Variable) (v : Variable) : String :=
  let same := vs.filter fun w => w.name = v.name
  if same.length < 2 then v.name
  else
    let short := Signature.simpleName v.declaringType
    let alike := same.filter fun w => Signature.simpleName w.declaringType = short
    qualifiedName v.name (if alike.length < 2 then short else v.declaringType)

def resolveNames (vs : List Variable) : List Variable :=
  vs.map fun v => { v with name := nameAmong vs v }

end Variable
end DebugSession
