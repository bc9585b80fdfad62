import DebugSession.Source.Path
import DebugSession.Value
/-!
From lines of source files to loaded code, and back.
-/

namespace DebugSession

/-- Where a line of a source file is in loaded code. -/
structure BreakpointLocation where
  className : String
  methodName : Option String
  methodSignature : Option String
  line : UInt32
  /-- Columns of other places on the line where a breakpoint can stand. -/
  alternates : List UInt32
  deriving DecidableEq, Repr

/-- A line with a known place in the code; without a column it is good for all of them. -/
structure KnownLine where
  source : String
  line : UInt32
  column : Option UInt32
  location : BreakpointLocation
  deriving DecidableEq, Repr

/-- A way to find source files. -/
inductive SourceLookup where
  /-- A file's place below a root gives its class, as far as files are known. -/
  | roots (dirs : List String) (files : Path.Tree)
  /-- Known lines, and a path for each class. -/
  | known (lines : List KnownLine) (paths : List (String × String))

namespace SourceLookup

/-- The class that a file holds by its place below one root. -/
def classNameUnder (root source : String) : Option String := do
  let parts ← Path.under? root source
  let names := parts.map Path.Component.text
  match parts.getLast?, names.dropLast with
  | none, _ => none
  | some (.name last), front => some (String.intercalate "." (front ++ [Path.stem last]))
  | some _, _ => some (String.intercalate "." names)

def outermost (className : String) : String :=
  String.ofList (className.toList.takeWhile (· ≠ '$'))

def packageDirectory (className : String) : String :=
  let package := (className.toList.reverse.dropWhile (· ≠ '.')).drop 1
  String.ofList (Signature.replaceChar '.' '/' package.reverse)

/-- The file of a code position below a root: of the outermost class, under its own name unless
the position has one. -/
def pathUnder (location : Location) (root : String) : String :=
  let top := outermost location.className
  let file := location.sourceName.getD (Signature.simpleName top ++ ".java")
  Path.join (Path.join root (packageDirectory top)) file

/-- The place in loaded code of a line of a source file. -/
def resolveBreakpoint (lookup : SourceLookup) (source : String) (line : UInt32)
    (column : Option UInt32) : Option BreakpointLocation :=
  match lookup with
  | .roots dirs _ =>
    (dirs.findSome? fun root => classNameUnder root source).map fun className =>
      { className, methodName := none, methodSignature := none, line, alternates := [] }
  | .known lines _ =>
    (lines.find? fun k =>
      k.source = source && k.line = line && (k.column.isNone || k.column = column)).map
        KnownLine.location

/-- The source file of a code position. -/
def sourcePath (lookup : SourceLookup) (location : Location) : Option String :=
  match lookup with
  | .roots dirs files => (dirs.map (pathUnder location)).find? files.hasPath
  | .known _ paths => (paths.find? fun p => p.1 = location.className).map (·.2)

end SourceLookup
end DebugSession
