import Dialect.Document

namespace Dialect.File

-- Why there is no file at a path.
inductive Fault where
  | notFound
  | isDirectory
  | notDirectory
  | nameTooLong
deriving Repr, DecidableEq, Inhabited

-- Files by the names on the way to them, from the root on. Besides the home directory there are
-- those of other users.
structure Volume where
  home : List String
  users : List (String × List String)
  files : List (List String × List UInt8)
deriving Inhabited

-- A name has at most so many bytes, and a whole path fewer than the second number.
def nameLimit : Nat := 255

def pathLimit : Nat := 4096

-- The names between slashes.
def parts (path : List Char) : List String := (path.splitOn '/').map String.ofList

def joinParts (names : List String) : List Char := ("/" ++ "/".intercalate names).toList

namespace Volume

-- Files given by names relative to the home directory.
def make (home : List String) (users : List (String × List String))
    (files : List (String × List UInt8)) : Volume :=
  ⟨home, users, files.map fun (name, bytes) => (home ++ parts name.toList, bytes)⟩

def file? (v : Volume) (path : List String) : Option (List UInt8) :=
  (v.files.find? fun f => f.1 == path).map (·.2)

-- A directory is on the way to a file or to the directory of a user.
def isDirectory (v : Volume) (path : List String) : Bool :=
  path.isPrefixOf v.home || (v.users.any fun u => path.isPrefixOf u.2)
    || v.files.any fun f => path.isPrefixOf f.1 && f.1 != path

-- Walks from a directory along names.
def walk (v : Volume) (at_ : List String) : List String → Except Fault (List String)
  | [] => .ok at_
  | name :: names =>
    if !v.isDirectory at_ then
      if (v.file? at_).isSome then .error .notDirectory else .error .notFound
    else if name = "" ∨ name = "." then v.walk at_ names
    else if name = ".." then v.walk at_.dropLast names
    else if name.utf8ByteSize > nameLimit then .error .nameTooLong
    else v.walk (at_ ++ [name]) names

-- The bytes of the file at an absolute path.
def bytesAt (v : Volume) (path : List Char) : Except Fault (List UInt8) := do
  if (String.ofList path).utf8ByteSize ≥ pathLimit then .error .nameTooLong
  let found ← v.walk [] (parts path)
  match v.file? found with
  | some bytes => return bytes
  | none => if v.isDirectory found then .error .isDirectory else .error .notFound

end Volume

-- A tilde in front stands for the home directory, or for that of the user named behind it.
def expandHome (v : Volume) (path : List Char) : List Char :=
  match path with
  | '~' :: cs =>
    let name := String.ofList (cs.takeWhile (· ≠ '/'))
    let home := if name = "" then some v.home else (v.users.find? (·.1 == name)).map (·.2)
    match home with
    | some h => joinParts h ++ cs.dropWhile (· ≠ '/')
    | none => path
  | path => path

-- Names without those that lead nowhere; going back undoes the name before.
def normalize (acc : List String) : List String → List String
  | [] => acc.reverse
  | name :: names =>
    if name = "" ∨ name = "." then normalize acc names
    else if name = ".." then normalize acc.tail names
    else normalize (name :: acc) names

-- The absolute path of a path. A relative one starts at a base directory.
def resolve (v : Volume) (base : List String) (path : List Char) : List Char :=
  match expandHome v path with
  | '/' :: r => '/' :: r
  | r => joinParts (normalize [] (base ++ parts r))

-- The ending of a name behind its last point; points in front do not count.
def ending (path : List Char) : String :=
  let name := ((path.splitOn '/').getLast?.getD []).dropWhile (· == '.')
  let tail := name.reverse.takeWhile (· != '.')
  if tail.length < name.length then String.ofList tail.reverse else ""

-- The format that the ending of a name tells.
def formatOf? (path : List Char) : Option String :=
  match Text.lowerAscii (ending path) with
  | "json" => some "json"
  | "yaml" => some "yaml"
  | "yml" => some "yaml"
  | "toml" => some "toml"
  | _ => none

-- Line ends of any kind become line feeds.
def plainLines : List Char → List Char
  | '\r' :: '\n' :: cs => '\n' :: plainLines cs
  | '\r' :: cs => '\n' :: plainLines cs
  | c :: cs => c :: plainLines cs
  | [] => []

-- What is said of bytes that are not UTF-8.
def flawText (b : Text.Utf8.Bad) : String :=
  let place := Text.ofNat 10 b.position
  let what :=
    if b.length = 1 then "byte 0x" ++ Text.hexPadded 2 b.byte.toNat ++ " in position " ++ place
    else "bytes in position " ++ place ++ "-" ++ Text.ofNat 10 (b.position + b.length - 1)
  "'utf-8' codec can't decode " ++ what ++ ": " ++ b.flaw.text

-- The text of a file.
def textOf (bytes : List UInt8) : Except Error String :=
  match Text.Utf8.decodeStrict bytes with
  | .ok cs => .ok (String.ofList (plainLines cs))
  | .error b => .error (.content .decoding (flawText b))

-- Reads program data from a file.
def read (v : Volume) (base : List String) (path : String) :
    Except Fault (Except Error Value) := do
  let full := resolve v base path.toList
  if full.contains '\x00' then return .error (.content .value "embedded null byte")
  let bytes ← v.bytesAt full
  return do Document.read (formatOf? full) none (← textOf bytes)

-- Reads a program from a file; it must hold a mapping.
def readProgram (v : Volume) (base : List String) (path : String) :
    Except Fault (Except Error Value) := do
  match ← read v base path with
  | .ok (.map es) => return .ok (.map es)
  | .ok _ => return .error (.content .value
      ("Program file " ++ Text.quoted path ++ " does not hold a mapping"))
  | .error e => return .error e

end Dialect.File
