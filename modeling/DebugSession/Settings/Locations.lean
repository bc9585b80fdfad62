import DebugSession.Settings.Document
import DebugSession.Source.Path
/-!
Where the configuration file and the log files of a user are.
-/

namespace DebugSession.Settings

/-- The part of the environment that says where a user's files are. -/
structure Environment where
  home : String
  configHome : Option String := none
  dataHome : Option String := none

/-- A directory of the user's own choice, if it is absolute, or the usual one below home. -/
def Environment.directory (e : Environment) (chosen : Option String) (usual : String) : String :=
  match chosen with
  | some d => if Path.isAbsolute d then d else Path.join e.home usual
  | none => Path.join e.home usual

/-- The name under which files are kept. -/
def applicationName : String := "java-debug"

def configDirectory (e : Environment) : String :=
  Path.join (e.directory e.configHome ".config") applicationName

def configPath (e : Environment) : String := Path.join (configDirectory e) "config.toml"

def logDirectory (e : Environment) : String :=
  Path.join (Path.join (e.directory e.dataHome ".local/share") applicationName) "logs"

/-- Whether the log directory is there before it is made: it can only be where there is a
configuration file, on the way to it. -/
def hasLogDirectory (e : Environment) (hasConfig : Bool) : Bool :=
  hasConfig && (({} : Path.Tree).addFile (configPath e) "").isDirectory
    (Path.walk [] (Path.components (logDirectory e)))

/-- The settings in a file that is read, whose path is given for the message. -/
def loadFrom (path : String) (content : Except String String) : Except SessionError Settings :=
  match content with
  | .error cause => .error (.fileUnreadable path cause)
  | .ok text => ofText text

def load (configText : Option String) : Except SessionError Settings :=
  match configText with
  | none => .ok {}
  | some text => ofText text

end DebugSession.Settings
