import DebugSession.Text.Blank
/-!
The two spellings of a type: the signature, as the machine has it, and the name, as source code
has it. `[[J` is `long[][]`, `Ljava/util/List;` is `java.util.List`.
-/

namespace DebugSession.Signature

/-- The signature of the type at the top of every class hierarchy. -/
def object : String := "Ljava/lang/Object;"

/-- The types that are no classes, with their letters. -/
def keywords : List (Char × String) :=
  [('Z', "boolean"), ('B', "byte"), ('C', "char"), ('S', "short"), ('I', "int"), ('J', "long"),
    ('F', "float"), ('D', "double"), ('V', "void")]

/-- Whether a signature names a primitive type; `V` names none. -/
def isPrimitive (signature : String) : Bool :=
  ["Z", "B", "C", "S", "I", "J", "F", "D"].contains signature

def replaceChar (a b : Char) (cs : List Char) : List Char := cs.map fun c => if c = a then b else c

/-- The name of a type that is no array. What has not the form of a class signature stands for
itself, with points for slashes. -/
def elementName (cs : List Char) : List Char :=
  match cs with
  | [c] =>
    match keywords.find? fun k => k.1 = c with
    | some (_, name) => name.toList
    | none => if c = '/' then ['.'] else [c]
  | _ =>
    let inner := ((Text.after? ['L'] cs).bind (Text.before? [';'])).getD cs
    replaceChar '/' '.' inner

/-- The number of array dimensions at the front of a signature, and the rest. -/
def splitDimensions : List Char → Nat × List Char
  | '[' :: cs =>
    let (dims, rest) := splitDimensions cs
    (dims + 1, rest)
  | cs => (0, cs)

def typeNameChars (signature : List Char) : List Char :=
  let (dims, element) := splitDimensions signature
  elementName element ++ (List.replicate dims ['[', ']']).flatten

def typeName (signature : String) : String := String.ofList (typeNameChars signature.toList)

/-- The signature of a type that is no array. -/
def ofElementName (cs : List Char) : List Char :=
  match keywords.find? fun k => k.2.toList = cs with
  | some (letter, _) => [letter]
  | none => 'L' :: (replaceChar '.' '/' cs ++ [';'])

/-- The number of bracket pairs at the end of a name given in reverse, and the rest. -/
def splitBrackets : List Char → Nat × List Char
  | ']' :: '[' :: cs =>
    let (dims, rest) := splitBrackets cs
    (dims + 1, rest)
  | cs => (0, cs)

def ofTypeNameChars (name : List Char) : List Char :=
  let (dims, rest) := splitBrackets name.reverse
  List.replicate dims '[' ++ ofElementName rest.reverse

def ofTypeName (name : String) : String := String.ofList (ofTypeNameChars name.toList)

/-- The part of a name behind its last point. -/
def simpleName (name : String) : String :=
  String.ofList (name.toList.reverse.takeWhile (· ≠ '.')).reverse

end DebugSession.Signature
