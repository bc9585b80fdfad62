import DebugSession.Json.Entry
import DebugSession.Value
/-!
The form in JSON of values and of what they are seen through. Floating point numbers are given by
their bits, so that none is lost.
-/

namespace DebugSession

open Json (entry)

def ObjectKind.entries : ObjectKind → List (String × Json)
  | .plain => [entry "kind" "plain"]
  | .string => [entry "kind" "string"]
  | .classObject => [entry "kind" "class"]
  | .array component => [entry "kind" "array", entry "component" component]

/-- The type of a string or an array need not be given. -/
instance : Json.Format ObjectRef where
  read j := do
    let id ← j.member "id"
    match ← j.memberOr "kind" "plain" with
    | "plain" => return ⟨id, ← j.member "type", .plain⟩
    | "class" => return ⟨id, ← j.member "type", .classObject⟩
    | "string" => return ⟨id, ← j.memberOr "type" "java.lang.String", .string⟩
    | "array" =>
      let component ← j.member "component"
      return ⟨id, ← j.memberOr "type" (Signature.typeName component ++ "[]"), .array component⟩
    | _ => j.unexpected "an object"
  write o := .obj (entry "id" o.id :: entry "type" o.typeName :: o.kind.entries)

namespace Value

def readNamed (name : String) (j : Json) : Except Json.Mismatch Value :=
  match name with
  | "byte" => return .byte (Int8.ofInt (← Json.readSigned "i8" 8 j))
  | "short" => return .short (Int16.ofInt (← Json.readSigned "i16" 16 j))
  | "int" => return .int (← Json.readInt32 j)
  | "long" => return .long (← Json.readInt64 j)
  | "char" => do
    match (← Json.readString j).toList with
    | [c] => return .char c
    | _ => j.unexpected "a character"
  | "float" => return .float (← Json.readUInt32 j)
  | "double" => return .double (← Json.readSize j)
  | "obj" => return .object (← Json.Format.read j)
  | _ => j.unexpected "a value"

instance : Json.Format Value where
  read
    | .null => .ok .null
    | .bool b => .ok (.boolean b)
    | .str "void" => .ok .void
    | .obj [(name, j)] => readNamed name j
    | j => j.unexpected "a value"
  write
    | .null => .null
    | .void => .str "void"
    | .boolean b => .bool b
    | .byte n => .obj [entry "byte" n.toInt]
    | .short n => .obj [entry "short" n.toInt]
    | .int n => .obj [entry "int" n]
    | .long n => .obj [entry "long" n]
    | .char c => .obj [entry "char" c.toString]
    | .float bits => .obj [entry "float" bits]
    | .double bits => .obj [entry "double" bits]
    | .object o => .obj [entry "obj" o]

end Value

instance : Json.Format Location where
  read j := return {
    className := ← j.member "class"
    methodName := ← j.member "method"
    line := ← j.member "line"
    methodSignature := ← j.memberOr "sig" "()V"
    codeIndex := ← j.memberOr "index" 0
    sourceName := ← j.member "source" }
  write l := .obj [entry "class" l.className, entry "method" l.methodName, entry "line" l.line,
    entry "sig" l.methodSignature, entry "index" l.codeIndex, entry "source" l.sourceName]

/-- A field; without a declaring type it is declared by `owner`. -/
def Field.readIn (owner : String) : Json.Reader Field := fun j => return {
  name := ← j.member "name"
  declaringType := ← j.memberOr "declaring" owner
  signature := ← j.member "sig"
  isStatic := ← j.memberOr "static" false }

instance : Json.Format Field where
  read := Field.readIn ""
  write f := .obj [entry "name" f.name, entry "declaring" f.declaringType,
    entry "sig" f.signature, entry "static" f.isStatic]

instance : Json.Format LocalVariable where
  read j := return {
    name := ← j.member "name"
    signature := ← j.member "sig"
    isArgument := ← j.memberOr "arg" false
    slot := ← j.memberOr "slot" 0 }
  write v := .obj [entry "name" v.name, entry "sig" v.signature, entry "arg" v.isArgument,
    entry "slot" v.slot]

/-- The class at the top of every hierarchy. -/
def ReferenceType.top : String := "java.lang.Object"

/-- What a type extends if nothing is said of it. -/
def ReferenceType.usualSuperclass (name : String) (isInterface : Bool) : Option String :=
  if isInterface || name = top then none else some top

instance : Json.Format ReferenceType where
  read j := do
    let name ← j.member "name"
    let isInterface ← j.memberOr "interface" false
    let fields : List Json ← j.memberOr "fields" []
    return {
      name
      superclass := ← match j.get? "super" with
        | some super => Json.Format.read super
        | none => pure (ReferenceType.usualSuperclass name isInterface)
      interfaces := ← j.memberOr "implements" []
      isInterface
      fields := ← fields.mapM (Field.readIn name) }
  write t := .obj [entry "name" t.name, entry "super" t.superclass,
    entry "implements" t.interfaces, entry "interface" t.isInterface, entry "fields" t.fields]

end DebugSession
