import AdbControl.Automation.Executor
import AdbControl.Framework.CleanPath
import AdbControl.Framework.Words

namespace AdbControl.Server

open Framework

inductive EntryType
  | file
  | directory
  | link
  deriving DecidableEq, Repr

structure FileEntry where
  name : String
  path : String
  type : EntryType
  permissions : String
  owner : String
  group : String
  size : Int
  modified : String
  target : String
  deriving DecidableEq, Repr

/-- The bytes of a field. -/
def fieldBytes (value : List Char) : List UInt8 := utf8Bytes (String.ofList value)

def isISODate (value : List Char) : Bool :=
  (fieldBytes value).length = 10 && (fieldBytes value)[4]? = some 45 && (fieldBytes value)[7]? = some 45

def looksLikeTimeOrYear (value : List Char) : Bool :=
  if (fieldBytes value).length = 4 then (Automation.atoi value).isSome else ':' ∈ value

/-- `strconv.ParseInt` without its error: what is no number is zero, and the greatest and the least
stand for all beyond them. -/
def parseInt (text : List Char) : Int :=
  let digits (l : List Char) : Option Nat :=
    if l ≠ [] ∧ l.all isAsciiDigit then
      some (l.foldl (fun n c => 10 * n + (c.toNat - '0'.toNat)) 0)
    else none
  let value : Option Int :=
    match text with
    | '-' :: rest => (digits rest).map (fun n => -(n : Int))
    | '+' :: rest => (digits rest).map Int.ofNat
    | rest => (digits rest).map Int.ofNat
  (value.map fun n => max (-(2^63)) (min n (2^63 - 1))).getD 0

/-- Behind the name of a link. -/
def arrow : List Char := [' ', '-', '>', ' ']

/-- The two parts that a name is cut into at its first arrow. -/
def cutName (name : List Char) : List Char × List Char := (cutAt arrow name).getD (name, [])

def entryType (permissions : List Char) : EntryType :=
  match permissions.head? with
  | some 'd' => .directory
  | some 'l' => .link
  | _ => .file

/-- The entry of a name, as it is joined from its fields, and of the columns in front of it. -/
def namedEntry (basePath permissions owner group size modified name : List Char) : Option FileEntry :=
  if name = ['.'] ∨ name = ['.', '.'] then none
  else
    let found := cutName name
    some {
      name := String.ofList found.1
      path := String.ofList (joinClean basePath found.1)
      type := entryType permissions
      permissions := String.ofList permissions
      owner := String.ofList owner
      group := String.ofList group
      size := parseInt size
      modified := String.ofList modified
      target := String.ofList found.2 }

section Fields

variable (fields : List (List Char))

def field (i : Nat) : List Char := fields.getD i []

/-- Where the fields of the time end, and those of the name begin. -/
def nameStart (modifiedStart : Nat) : Nat :=
  if isISODate (field fields modifiedStart) ∧ modifiedStart + 1 < fields.length ∧
      looksLikeTimeOrYear (field fields (modifiedStart + 1)) then modifiedStart + 2
  else if ¬isISODate (field fields modifiedStart) ∧ modifiedStart + 3 < fields.length then
    modifiedStart + 3
  else modifiedStart + 1

def entryOfFields (basePath : List Char) : Option FileEntry :=
  if fields.length < 7 ∨ field fields 0 = [] then none
  else
    let ownerIndex := if (Automation.atoi (field fields 1)).isSome then 2 else 1
    let sizeIndex := ownerIndex + 2
    let modifiedStart := sizeIndex + 1
    let nameStart := nameStart fields modifiedStart
    if fields.length ≤ nameStart then none
    else namedEntry basePath (field fields 0) (field fields ownerIndex) (field fields (ownerIndex + 1))
      (field fields sizeIndex) (unwords ((fields.take nameStart).drop modifiedStart))
      (unwords (fields.drop nameStart))

end Fields

def parseFileEntry (basePath line : List Char) : Option FileEntry :=
  entryOfFields (splitWhitespace line) basePath

/-- What is read of a line of the output. -/
def readLine (basePath line : List Char) : Option FileEntry :=
  let line := trim line
  if line = [] ∨ "total ".toList <+: line then none else parseFileEntry basePath line

def parseFileListing (basePath output : String) : List FileEntry :=
  ((replaceAll ['\r', '\n'] ['\n'] output.toList).splitOn '\n').filterMap
    (readLine basePath.toList)

example : (parseFileListing "/sdcard"
      "total 12\nlrwxrwxrwx 1 root root 11 2026-08-23 15:02 a  b -> /sdcard/DCIM\n").map
        (fun e => (e.name, e.type, e.target)) = [("a b", .link, "/sdcard/DCIM")] := by
  decide

end AdbControl.Server
