/-
# Process specifications

How the process to attach to is named: by its id, by the name of its executable, or by the path of
an executable to launch, marked with `/L:`.
-/
import MemWatch.Error
import MemWatch.Text.Case

namespace MemWatch

/-- The process to attach to. -/
inductive ProcessSpec where
  /-- The process with an id. -/
  | id (pid : ProcessId)
  /-- The newest process of an executable. -/
  | name (text : String)
  /-- A new process of an executable. -/
  | launch (path : String)
deriving DecidableEq, Repr

namespace ProcessSpec

/-- Splits the mark of a launch off. -/
def splitLaunch : List Char → Bool × List Char
  | '/' :: c :: ':' :: rest =>
    if c = 'L' ∨ c = 'l' then (true, rest) else (false, '/' :: c :: ':' :: rest)
  | text => (false, text)

/-- The text is the name of an executable: in lower case it ends in `.exe`. -/
def namesExecutable (text : List Char) : Bool :=
  ".exe".toList.isSuffixOf (Text.lower (String.ofList text)).toList

/-- The process id that a decimal number spells, with or without a plus sign; it has 32 bits and is
not zero. -/
def processId? (text : List Char) : Option ProcessId :=
  let digits := if text.head? = some '+' then text.tail else text
  match Numeral.valueBelow? 10 UInt32.size digits with
  | some pid => if pid = 0 then none else some pid
  | none => none

/-- Reads a process specification. -/
def parse (text : String) : Except Error ProcessSpec :=
  let (marked, rest) := splitLaunch text.toList
  if namesExecutable rest then
    .ok (if marked then .launch (String.ofList rest) else .name (String.ofList rest))
  else
    match processId? rest with
    | none => .error (.invalidProcessId (String.ofList rest))
    | some pid => if marked then .error .launchProcessId else .ok (.id pid)

/-- The specification as it is written on a command line. -/
def text : ProcessSpec → String
  | id pid => Numeral.decimal pid
  | name text => text
  | launch path => "/L:" ++ path

end ProcessSpec

end MemWatch
