import SpriteStage.Trial.Judge
/-!
Suites: the trials in a folder, by category. The category of a trial is the folder it is in, and all
categories and trials come in the order of their names.
-/

namespace SpriteStage

structure TrialFile where
  path : String
  name : String
  content : Content

def trialEnding : String := ".test.toml"

def isTrialName (name : String) : Bool := trialEnding.toList.isSuffixOf name.toList

namespace Node

mutual

def trials (path : String) (folders : List String) : Node → List (List String × TrialFile)
  | file _ => []
  | folder entries => trialsOf path folders entries

def trialsOf (path : String) (folders : List String) :
    List (String × Node) → List (List String × TrialFile)
  | [] => []
  | (name, .file content) :: rest =>
    let others := trialsOf path folders rest
    if isTrialName name then (folders, ⟨entryPath path name, name, content⟩) :: others else others
  | (name, .folder entries) :: rest =>
    trialsOf (entryPath path name) (folders ++ [name]) entries ++ trialsOf path folders rest

end

end Node

structure Category where
  name : String
  files : List TrialFile

namespace Category

def nameOf (folders : List String) : String :=
  ("/".intercalate folders).map fun c => if c = '\\' then '/' else c

def ofTrials (found : List (List String × TrialFile)) : List Category :=
  let names := (found.map fun (folders, _) => nameOf folders).eraseDups.mergeSort fun a b => !(b < a)
  names.map fun name =>
    let members := found.filter fun (folders, _) => nameOf folders = name
    let sorted := members.mergeSort fun (f, a) (g, b) => !(g ++ [b.name] < f ++ [a.name])
    ⟨name, sorted.map Prod.snd⟩

def title (c : Category) : String := if c.name.isEmpty then "(root)" else c.name

def trimmed (request : String) : String :=
  let cut (cs : List Char) : List Char := (cs.dropWhile (· = '/')).reverse
  String.ofList (cut (cut request.toList))

/-- Whether a trimmed request means a category: it is its name, or that of a folder above it. -/
def isMeant (request : String) (c : Category) : Bool :=
  c.name = request || (request ++ "/").toList.isPrefixOf c.name.toList

def select (requests : List String) (categories : List Category) : List Category :=
  if requests.isEmpty then categories
  else categories.filter fun c => requests.any fun r => isMeant (trimmed r) c

def unmet (requests : List String) (categories : List Category) : List String :=
  (requests.map trimmed).filter fun r => !categories.any (isMeant r)

end Category

structure Verdict where
  path : String
  label : String
  failure : Option Failure

namespace TrialFile

def label (f : TrialFile) (description : Option String) : String :=
  let short := Text.dropEndings trialEnding.toList f.name.length f.name.toList
  description.getD (String.ofList short)

def verdict (f : TrialFile) : Verdict :=
  match f.content.text with
  | .error failure => ⟨f.path, f.label none, some (.unreadable failure)⟩
  | .ok source =>
    match Trial.ofSource source with
    | .error fault => ⟨f.path, f.label none, some (.badHeader (Trial.unmarked source) fault)⟩
    | .ok t => ⟨f.path, f.label t.description, t.failure? source⟩

end TrialFile

end SpriteStage
