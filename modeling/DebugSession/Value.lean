import DebugSession.Signature
/-!
Values of the debuggee, and the types, fields and code positions they are seen through.
-/

namespace DebugSession

abbrev ThreadId := Nat
abbrev ObjectId := Nat
abbrev FrameId := Nat
abbrev RequestId := Nat

inductive ObjectKind where
  | plain
  | string
  | array (component : String)
  | classObject
  deriving DecidableEq, Repr

/-- An object, with its type at run time. -/
structure ObjectRef where
  id : ObjectId
  typeName : String
  kind : ObjectKind := .plain
  deriving DecidableEq, Repr

def ObjectRef.isArray (o : ObjectRef) : Bool :=
  match o.kind with
  | .array _ => true
  | _ => false

def ObjectRef.isString (o : ObjectRef) : Bool := o.kind = .string

/-- A value. Floating point numbers are held by their bits. -/
inductive Value where
  | null
  | void
  | boolean (b : Bool)
  | byte (n : Int8)
  | char (c : Char)
  | short (n : Int16)
  | int (n : Int32)
  | long (n : Int64)
  | float (bits : UInt32)
  | double (bits : UInt64)
  | object (o : ObjectRef)
  deriving DecidableEq, Repr, Inhabited

namespace Value

def asObject? : Value → Option ObjectRef
  | .object o => some o
  | _ => none

/-- The number an integral value or a character stands for. -/
def asInt? : Value → Option Int
  | .byte n => some n.toInt
  | .short n => some n.toInt
  | .int n => some n.toInt
  | .long n => some n.toInt
  | .char c => some c.toNat
  | _ => none

/-- The type of the value at run time; null has none. -/
def runtimeType? : Value → Option String
  | .null => none
  | .void => some "void"
  | .boolean _ => some "boolean"
  | .byte _ => some "byte"
  | .char _ => some "char"
  | .short _ => some "short"
  | .int _ => some "int"
  | .long _ => some "long"
  | .float _ => some "float"
  | .double _ => some "double"
  | .object o => some o.typeName

/-- What a variable of this type holds before anything is assigned. -/
def default (signature : String) : Value :=
  if signature = "Z" then .boolean false
  else if signature = "B" then .byte 0
  else if signature = "C" then .char '\x00'
  else if signature = "S" then .short 0
  else if signature = "I" then .int 0
  else if signature = "J" then .long 0
  else if signature = "F" then .float 0
  else if signature = "D" then .double 0
  else .null

/-- Whether a variable of this type can hold the value. Classes are not told apart. -/
def fits (signature : String) : Value → Bool
  | .void => false
  | .boolean _ => signature = "Z"
  | .byte _ => signature = "B"
  | .char _ => signature = "C"
  | .short _ => signature = "S"
  | .int _ => signature = "I"
  | .long _ => signature = "J"
  | .float _ => signature = "F"
  | .double _ => signature = "D"
  | .null | .object _ => !Signature.isPrimitive signature

end Value

structure ThreadInfo where
  id : ThreadId
  name : String
  deriving DecidableEq, Repr

/-- A position in the code of a loaded class. -/
structure Location where
  className : String
  methodName : String
  line : UInt32
  methodSignature : String := "()V"
  codeIndex : Nat := 0
  sourceName : Option String := none
  deriving DecidableEq, Repr

def Location.text (l : Location) : String :=
  s!"{l.className}.{l.methodName}:" ++ Nat.repr l.line.toNat

/-- A frame by the handle the debuggee gives it, which is good until the thread runs. -/
structure FrameInfo where
  id : FrameId
  location : Location
  deriving DecidableEq, Repr

structure LocalVariable where
  name : String
  signature : String
  isArgument : Bool := false
  slot : Nat := 0
  deriving DecidableEq, Repr

structure Field where
  name : String
  declaringType : String
  signature : String
  isStatic : Bool := false
  deriving DecidableEq, Repr

/-- A class or an interface, with the fields that it declares itself. -/
structure ReferenceType where
  name : String
  superclass : Option String
  interfaces : List String
  isInterface : Bool
  fields : List Field
  deriving DecidableEq, Repr

/-- A method by name and signature. -/
structure MethodCall where
  name : String
  signature : String
  deriving DecidableEq, Repr

end DebugSession
