/-!
Files as they are found under a path: bytes, or a folder with entries. What cannot be read as text is
told apart by its reason. A path is followed name by name from the left, so the first name that leads
nowhere decides the reason.
-/

namespace SpriteStage

inductive ReadFailure where
  | notFound
  | notADirectory
  | isADirectory
  | nameTooLong
  | notText
  | other (message : String)

def ReadFailure.message : ReadFailure → String
  | notFound => "No such file or directory (os error 2)"
  | notADirectory => "Not a directory (os error 20)"
  | isADirectory => "Is a directory (os error 21)"
  | nameTooLong => "File name too long (os error 36)"
  | notText => "stream did not contain valid UTF-8"
  | other message => message

abbrev Content := Except ReadFailure ByteArray

inductive Node where
  | file (content : Content)
  | folder (entries : List (String × Node))

def Content.text (content : Content) : Except ReadFailure String :=
  content.bind fun bytes =>
    match String.fromUTF8? bytes with
    | some text => .ok text
    | none => .error .notText

def Node.text : Node → Except ReadFailure String
  | file content => content.text
  | folder _ => .error .isADirectory

def entryPath (folder name : String) : String :=
  if folder.toList.getLast?.all (· = '/') then folder ++ name else folder ++ "/" ++ name

def lastName (path : String) : String :=
  String.ofList (path.toList.reverse.takeWhile (· ≠ '/')).reverse

def nameLimit : Nat := 255

def pathLimit : Nat := 4095

structure Visit where
  here : Node
  above : List Node

namespace Visit

def outside : Visit := ⟨.folder [], []⟩

/-- Follows one name of a path. An empty name and `.` stay at the folder, `..` goes back to the one
that led to it. Only a folder can be followed further. -/
def follow (v : Visit) (name : String) : Except ReadFailure Visit :=
  match v.here with
  | .file _ => .error .notADirectory
  | .folder entries =>
    if name = "" || name = "." then .ok v
    else if name = ".." then
      match v.above with
      | parent :: others => .ok ⟨parent, others⟩
      | [] => .ok outside
    else if nameLimit < name.utf8ByteSize then .error .nameTooLong
    else match entries.find? fun (other, _) => other = name with
      | some (_, node) => .ok ⟨node, v.here :: v.above⟩
      | none => .error .notFound

end Visit

namespace Node

mutual

/-- What can be reached of a node under a path. Under a path beyond the limit no folder can be told
from a file, and nothing can be read. -/
def reachable (path : String) : Node → Node
  | file content => file (if pathLimit < path.utf8ByteSize then .error .nameTooLong else content)
  | folder entries =>
    if pathLimit < path.utf8ByteSize then file (.error .nameTooLong)
    else folder (reachableEntries path entries)

def reachableEntries (path : String) : List (String × Node) → List (String × Node)
  | [] => []
  | (name, node) :: rest =>
    (name, node.reachable (entryPath path name)) :: reachableEntries path rest

end

def lookUp (root : Node) (path : String) : Except ReadFailure Node :=
  if path.isEmpty then .error .notFound
  else if pathLimit < path.utf8ByteSize then .error .nameTooLong
  else
    let start : Visit := if path.startsWith "/" then .outside else ⟨root, []⟩
    ((path.splitOn "/").foldlM Visit.follow start).map fun v => v.here.reachable path

end Node

end SpriteStage
