/-
# File paths

A path may start with a volume: a drive, a share of a server or a device.  The rest is cut into
pieces at slashes and backslashes, and its last component is the name of a file.  A verbatim path,
which starts with two backslashes, a question mark and a backslash, is cut at backslashes only, and
a step to the same place is a component there like any other one.
-/

namespace MemWatch.FilePath

/-! ## Pieces -/

/-- The character separates pieces, in a verbatim path or in any other one. -/
def separates (verbatim : Bool) (c : Char) : Bool :=
  c == '\\' || !verbatim && c == '/'

/-- The pieces of a text between separators. -/
def pieces (verbatim : Bool) : List Char → List (List Char)
  | [] => [[]]
  | c :: rest =>
    if separates verbatim c then [] :: pieces verbatim rest
    else
      match pieces verbatim rest with
      | piece :: more => (c :: piece) :: more
      | [] => [[c]]

/-- The text in front of the first separator, and the text behind it. -/
def cut (verbatim : Bool) (path : List Char) : List Char × List Char :=
  (path.takeWhile fun c => !separates verbatim c,
    (path.dropWhile fun c => !separates verbatim c).tail)

/-! ## Volumes -/

/-- What a path can start with. -/
inductive Volume where
  | verbatim (name : List Char)
  | verbatimShare (server name : List Char)
  | verbatimDrive (letter : Char)
  | device (name : List Char)
  | share (server name : List Char)
  | drive (letter : Char)
deriving DecidableEq, Repr

namespace Volume

/-- The characters of the name of a share with the separator in front, if there is a name. -/
def nameSize (name : List Char) : Nat :=
  if name.isEmpty then 0 else 1 + name.length

/-- The number of characters that a volume takes in the path. -/
def size : Volume → Nat
  | verbatim name => 4 + name.length
  | verbatimShare server name => 8 + server.length + nameSize name
  | verbatimDrive _ => 6
  | device name => 4 + name.length
  | share server name => 2 + server.length + nameSize name
  | drive _ => 2

/-- The volume makes the path a verbatim one. -/
def isVerbatim : Volume → Bool
  | verbatim _ | verbatimShare _ _ | verbatimDrive _ => true
  | device _ | share _ _ | drive _ => false

end Volume

/-- The drive that a text starts with. -/
def drive? : List Char → Option Char
  | letter :: ':' :: _ => if letter.isAlpha then some letter else none
  | _ => none

/-- The names of a server and of a share on it. -/
def cutShare (verbatim : Bool) (path : List Char) : List Char × List Char :=
  let (server, rest) := cut verbatim path
  (server, (cut verbatim rest).1)

/-- The volume behind the start of a verbatim path.  A drive is one only if nothing else comes in
front of the next separator. -/
def verbatimVolume (path : List Char) : Volume :=
  match path with
  | 'U' :: 'N' :: 'C' :: c :: rest =>
    if separates false c then
      let (server, name) := cutShare true rest
      .verbatimShare server name
    else .verbatim (cut true path).1
  | _ =>
    match drive? path with
    | some letter =>
      if (path.drop 2).head?.all (separates false) then .verbatimDrive letter
      else .verbatim (cut true path).1
    | none => .verbatim (cut true path).1

/-- The share behind two separators; neither of the two names is empty. -/
def share? (path : List Char) : Option Volume :=
  let (server, name) := cutShare false path
  if server.isEmpty || name.isEmpty then none else some (.share server name)

/-- The volume behind two separators: a device behind a dot, or a share. -/
def networkVolume? (path : List Char) : Option Volume :=
  match path with
  | '.' :: c :: rest =>
    if separates false c then some (.device (cut false rest).1) else share? path
  | _ => share? path

/-- The volume that a path starts with. -/
def volume? (path : List Char) : Option Volume :=
  match path with
  | '\\' :: '\\' :: '?' :: '\\' :: rest => some (verbatimVolume rest)
  | a :: b :: rest =>
    if separates false a && separates false b then networkVolume? rest
    else (drive? path).map .drive
  | _ => none

/-- The path starts with a verbatim volume. -/
def isVerbatim (path : List Char) : Bool :=
  (volume? path).any Volume.isVerbatim

/-! ## Names -/

/-- The text without the separator that it starts with, if it starts with one. -/
def unrooted (path : List Char) : List Char :=
  if path.head?.any (separates false) then path.tail else path

/-- A path behind its volume, without the separator that it starts with there. -/
def body (path : List Char) : List Char :=
  unrooted (path.drop ((volume? path).elim 0 Volume.size))

/-- The piece is a component: it is not empty, and no step to the same place unless the path is a
verbatim one. -/
def isComponent (verbatim : Bool) (piece : List Char) : Bool :=
  !piece.isEmpty && (verbatim || piece != ['.'])

/-- The last component of a text, unless it is a step to the same place or to the parent. -/
def lastName? (verbatim : Bool) (path : List Char) : Option (List Char) :=
  match ((pieces verbatim path).filter (isComponent verbatim)).getLast? with
  | some name => if name = ['.'] ∨ name = ['.', '.'] then none else some name
  | none => none

/-- The name of the file that a path leads to. -/
def fileName? (path : List Char) : Option (List Char) :=
  lastName? (isVerbatim path) (body path)

end MemWatch.FilePath
