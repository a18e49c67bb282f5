import EventBus.Connection.Options

namespace EventBus

structure Files where
  contents : List (List String × Connection.FileContent)
  directories : List (List String)
  here : List String

namespace Files

inductive Fault where
  | notFound
  | notDirectory
  | isDirectory
  | nameTooLong
  | nul
  deriving DecidableEq, Repr

def Fault.message : Fault → String
  | .notFound => "No such file or directory (os error 2)"
  | .notDirectory => "Not a directory (os error 20)"
  | .isDirectory => "Is a directory (os error 21)"
  | .nameTooLong => "File name too long (os error 36)"
  | .nul => "file name contained an unexpected NUL byte"

def longestName : Nat := 255

def longestPath : Nat := 4095

def isDirectory (f : Files) (place : List String) : Bool :=
  place = [] || f.directories.any place.isPrefixOf ||
    f.contents.any fun (path, _) => place.length < path.length && place.isPrefixOf path

def walk (f : Files) (place : List String) : List String → Except Fault (List String)
  | [] => .ok place
  | name :: rest =>
    if !f.isDirectory place then .error .notDirectory
    else if name = "" ∨ name = "." then f.walk place rest
    else if name = ".." then f.walk place.dropLast rest
    else if longestName < name.utf8ByteSize then .error .nameTooLong
    else
      let next := place ++ [name]
      if f.isDirectory next || (f.contents.lookup next).isSome then f.walk next rest
      else .error .notFound

def read? (f : Files) (path : String) : Except Fault Connection.FileContent :=
  if path.contains '\x00' then .error .nul
  else if path = "" then .error .notFound
  else if longestPath < path.utf8ByteSize then .error .nameTooLong
  else do
    let place ← f.walk (if path.toList.head? = some '/' then [] else f.here) (path.splitOn "/")
    match f.contents.lookup place with
    | some content => .ok content
    | none => .error .isDirectory

def reader (f : Files) : Connection.FileReader := fun path => (f.read? path).mapError Fault.message

def inDirectory (directory here : List String)
    (files : List (String × Connection.FileContent)) : Files where
  contents :=
    (["dev", "null"], []) ::
      files.map fun (name, content) => (directory ++ name.splitOn "/", content)
  directories :=
    [directory, here] ++ (["bin", "boot", "etc", "home", "lib", "media", "mnt", "opt", "proc",
      "root", "run", "sbin", "srv", "sys", "tmp", "usr", "var"].map fun name => [name])
  here

end Files
end EventBus
