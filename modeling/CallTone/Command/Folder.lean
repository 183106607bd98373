import CallTone.Failure
import CallTone.Path
import CallTone.Table
import CallTone.Text.Quoted
import CallTone.Text.Utf8

/-!
The working folder: the files that the command line can open, and the search for the configuration
among them. A path is followed component by component; the first step that cannot be made names the
failure.
-/
namespace CallTone.Command

/-- What stands under a name: a file with its octets, or a folder. -/
inductive FolderEntry where
  | file (octets : List Nat)
  | folder
deriving DecidableEq

/-- The working folder: what stands under each name in it. -/
abbrev Folder := Table String FolderEntry

namespace Folder

def configNames : List String := ["config.yaml", "config.yml"]

def notFound : Failure := ⟨.fileNotFound, "Could not find config.yaml - pass --config explicitly."⟩

/-- The configuration to use: the one that is named, else the first that is there. -/
def findConfig (folder : Folder) (named : Option Path) : Except Failure Path :=
  match named with
  | some path => .ok path
  | none =>
    match configNames.find? fun name => (folder.get? name).isSome with
    | some name => .ok (Path.ofString name)
    | none => .error notFound

/-- The system's failures to open a file. -/
inductive Refusal where
  | missing
  | isFolder
  | notFolder
  | nameTooLong
  | nulInName
deriving DecidableEq, Repr

def Refusal.failure (path : Path) : Refusal → Failure
  | .missing =>
    ⟨.fileNotFound, "[Errno 2] No such file or directory: " ++ Text.quoted path.toString⟩
  | .isFolder => ⟨.isADirectory, "[Errno 21] Is a directory: " ++ Text.quoted path.toString⟩
  | .notFolder => ⟨.notADirectory, "[Errno 20] Not a directory: " ++ Text.quoted path.toString⟩
  | .nameTooLong => ⟨.system, "[Errno 36] File name too long: " ++ Text.quoted path.toString⟩
  | .nulInName => ⟨.value, "embedded null byte"⟩

def octetCount (text : String) : Nat := (Text.Utf8.encode text.toList).length

/-- A place that a path leads to: a name in the folder, the folder itself, or one outside of it. -/
inductive Spot where
  | here
  | inside (name : String)
  | outside
deriving DecidableEq

/-- Follows components from a spot. What lies outside of the folder is not known. -/
def follow (folder : Folder) (spot : Spot) : List String → Except Refusal Spot
  | [] => .ok spot
  | component :: rest =>
    if 255 < octetCount component then .error .nameTooLong
    else
      match spot with
      | .here =>
        if component = ".." then follow folder .outside rest
        else if (folder.get? component).isSome then follow folder (.inside component) rest
        else .error .missing
      | .inside name =>
        match folder.get? name with
        | some .folder =>
          if component = ".." then follow folder .here rest
          else if (folder.get? (name ++ "/" ++ component)).isSome then
            follow folder (.inside (name ++ "/" ++ component)) rest
          else .error .missing
        | _ => .error .notFolder
      | .outside => if component = ".." then follow folder .outside rest else .error .missing

def openFile (folder : Folder) (path : Path) : Except Refusal (List Nat) :=
  if path.toString.toList.contains '\x00' then .error .nulInName
  else if 4096 ≤ octetCount path.toString then .error .nameTooLong
  else if path = Path.ofString "/dev/null" then .ok []
  else
    match follow folder (if path.root = .none then .here else .outside) path.components with
    | .error refusal => .error refusal
    | .ok (.inside name) =>
      match folder.get? name with
      | some (.file octets) => .ok octets
      | _ => .error .isFolder
    | .ok _ => .error .isFolder

end Folder
end CallTone.Command
