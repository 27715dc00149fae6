import ByFramework.SandboxCore

/-! Storage in the local file system: the path that each operation uses for the path it is given. -/

namespace ByFramework

/-- `text.replace(pattern, replacement)` of one character by another: the first one only -/
def replaceFirst (pattern replacement : Char) : List Char → List Char
  | [] => []
  | char :: rest =>
      if char = pattern then replacement :: rest
      else char :: replaceFirst pattern replacement rest

/-- `text.replace(/pattern/g, replacement)` of one character by another -/
def replaceEvery (pattern replacement : Char) (text : List Char) : List Char :=
  text.map fun char => if char = pattern then replacement else char

/-- `path.dirname(path)` -/
def dirname (filePath : String) : String :=
  match filePath.toList with
  | [] => "."
  | first :: body =>
      match (body.reverse.dropWhile (· = '/')).dropWhile (· ≠ '/') with
      | [] => if first = '/' then "/" else "."
      | _ :: before =>
          if first = '/' ∧ before = [] then "//" else String.ofList (first :: before.reverse)

namespace LocalFileStorage

/-- The path without its leading separators. -/
def cleanedPath (relativePath : String) : List Char :=
  let normalizedPath := replaceFirst '\\' '/' (replaceFirst '/' '/' relativePath.toList)
  normalizedPath.dropWhile fun char => char = '/' ∨ char = '\\'

def getFullPath (baseDir relativePath : String) : String :=
  joinPath [baseDir, String.ofList (cleanedPath relativePath)]

inductive StorageOp where
  | write (filePath : String)
  | read (filePath : String)
  | delete (filePath : String)
  | existsAt (filePath : String)
  | isFile (filePath : String)
  | isDir (filePath : String)
  | list (dirPath : String := "")
  | getUrl (filePath : String)
deriving DecidableEq, Repr

/-- The path that the given one is taken for, and the one that `getUrl` answers. -/
def StorageOp.usedPath (baseDir : String) : StorageOp → String
  | .write filePath | .read filePath | .delete filePath | .existsAt filePath | .isFile filePath
  | .isDir filePath | .list filePath => getFullPath baseDir filePath
  | .getUrl filePath =>
      String.ofList (replaceEvery '\\' '/' (getFullPath baseDir filePath).toList)

/-- All that is used for the file system: a write makes the directory of its file first. -/
def StorageOp.usedPaths (baseDir : String) (op : StorageOp) : List String :=
  match op with
  | .write filePath => [dirname (getFullPath baseDir filePath), op.usedPath baseDir]
  | _ => [op.usedPath baseDir]

end LocalFileStorage

end ByFramework
