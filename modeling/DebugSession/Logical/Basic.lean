import DebugSession.Value
import DebugSession.Text.Escape
import DebugSession.Settings.Basic
import DebugSession.Number.Decimal
/-!
How collections and the like are shown: by what they hold, not by their fields. A structure applies
to the objects of a type and its subtypes.
-/

namespace DebugSession

/-- How a value is got from an object. -/
inductive LogicalExpression where
  | method (call : MethodCall) (arguments : List Value)
  | field (name : String)
  /-- Code in which `this` is the object. -/
  | snippet (code : String)
  deriving DecidableEq, Repr

inductive LogicalKind where
  /-- Each expression is applied to the value of the one before; the last one gives an array. -/
  | elements (chain : List LogicalExpression)
  /-- Children with names of their own. -/
  | properties (children : List (String × LogicalExpression))
  deriving DecidableEq, Repr

structure LogicalStructure where
  typeName : String
  kind : LogicalKind
  size : Option LogicalExpression
  deriving DecidableEq, Repr

namespace LogicalExpression

/-- A call without arguments. -/
def call (name signature : String) : LogicalExpression := .method ⟨name, signature⟩ []

/-- An expression for the same value in terms of one for the object. -/
def evaluateName (parent : String) : LogicalExpression → Option String
  | .method call [] => some s!"{parent}.{call.name}()"
  | .method _ _ => none
  | .field name => some s!"{parent}.{name}"
  | .snippet _ => none

end LogicalExpression

namespace LogicalStructure

def sizeCall : LogicalExpression := .call "size" "()I"

def arrayCall : LogicalExpression := .call "toArray" "()[Ljava/lang/Object;"

/-- The structures that are always known; the first one that applies counts. -/
def standard : List LogicalStructure :=
  [{ typeName := "java.util.Map$Entry"
     kind := .properties
       [("key", .call "getKey" "()Ljava/lang/Object;"),
         ("value", .call "getValue" "()Ljava/lang/Object;")]
     size := none },
    { typeName := "java.util.Map"
      kind := .elements [.call "entrySet" "()Ljava/util/Set;", arrayCall]
      size := some sizeCall },
    { typeName := "java.util.List", kind := .elements [arrayCall], size := some sizeCall },
    { typeName := "java.util.Collection", kind := .elements [arrayCall], size := some sizeCall }]

def register (known : List LogicalStructure) (s : LogicalStructure) : List LogicalStructure :=
  s :: known

/-- The structure of an object whose type has these supertypes. -/
def select (known : List LogicalStructure) (ancestry : List String) : Option LogicalStructure :=
  known.find? fun s => ancestry.contains s.typeName

end LogicalStructure

/-! ## As a developer sees it -/

namespace LogicalExpression

def inspectCall (name argument : String) : String := name ++ "(" ++ argument ++ ")"

def inspectKind : ObjectKind → String
  | .plain => "Plain"
  | .string => "String"
  | .array component =>
    inspectRecord "Array" [("component_signature", Text.inspect component)]
  | .classObject => "ClassObject"

def inspectObject (o : ObjectRef) : String :=
  inspectRecord "ObjectRef" [("id", Nat.repr o.id), ("type_name", Text.inspect o.typeName),
    ("kind", inspectKind o.kind)]

def inspectValue : Value → String
  | .null => "Null"
  | .void => "Void"
  | .boolean b => inspectCall "Boolean" (inspectBool b)
  | .byte n => inspectCall "Byte" (Number.renderInt n.toInt)
  | .char c => inspectCall "Char" (Text.inspectChar c)
  | .short n => inspectCall "Short" (Number.renderInt n.toInt)
  | .int n => inspectCall "Int" (Number.renderInt n.toInt)
  | .long n => inspectCall "Long" (Number.renderInt n.toInt)
  | .float bits => inspectCall "Float" (Number.inspectFloating .single bits.toNat)
  | .double bits => inspectCall "Double" (Number.inspectFloating .double bits.toNat)
  | .object o => inspectCall "Object" (inspectObject o)

def inspect : LogicalExpression → String
  | .method call arguments =>
    inspectRecord "Method" [
      ("call", inspectRecord "MethodCall" [("name", Text.inspect call.name),
        ("signature", Text.inspect call.signature)]),
      ("arguments", Text.inspectList (arguments.map inspectValue))]
  | .field name => inspectCall "Field" (Text.inspect name)
  | .snippet code => inspectCall "Snippet" (Text.inspect code)

end LogicalExpression
end DebugSession
