import AdbControl.Server.LiveDevices

namespace AdbControl.Server

open Framework

/-- A package as `pm list packages` tells of it; what only the display shows is left out. -/
structure PackageInfo where
  package : String
  apkPath : String
  versionCode : Nat
  deriving DecidableEq, Repr

/-- `\s` of a regular expression. -/
def isPatternSpace (c : Char) : Bool :=
  c = '\t' || c = '\n' || c = '\x0c' || c = '\r' || c = ' '

/-- A match of `\s+versionCode:(\d+)` at the beginning: its digits, and what is behind it. -/
def versionAt (line : List Char) : Option (List Char × List Char) :=
  if (line.head?.map isPatternSpace).getD false then
    match (line.dropWhile isPatternSpace).dropPrefix? "versionCode:".toList with
    | none => none
    | some rest =>
      let digits := rest.takeWhile isAsciiDigit
      if digits = [] then none else some (digits, rest.drop digits.length)
  else none

/-- The digits of the first match. -/
def findVersion : List Char → Option (List Char)
  | [] => none
  | c :: rest =>
    match versionAt (c :: rest) with
    | some (digits, _) => some digits
    | none => findVersion rest

/-- The line without its matches, of the last of which `inside` characters are still to come. -/
def removeVersions : Nat → List Char → List Char
  | _, [] => []
  | inside + 1, _ :: rest => removeVersions inside rest
  | 0, c :: rest =>
    match versionAt (c :: rest) with
    | some (_, behind) => removeVersions (rest.length - behind.length) rest
    | none => c :: removeVersions 0 rest

/-- `strconv.ParseInt` of digits; without its error, the greatest number stands for all above. -/
def parseVersion (digits : List Char) : Nat :=
  min (digits.foldl (fun n c => 10 * n + (c.toNat - '0'.toNat)) 0) (2^63 - 1)

def isWordChar (c : Char) : Bool := c.isAlpha || isAsciiDigit c || c = '_'

/-- `^[A-Za-z0-9_]+(?:\.[A-Za-z0-9_]+)+$`. -/
def isPackageName (name : List Char) : Bool :=
  let parts := name.splitOn '.'
  decide (2 ≤ parts.length) && parts.all (fun part => !part.isEmpty && part.all isWordChar)

def parsePackageLine (line : List Char) : Option PackageInfo :=
  let line := (line.dropPrefix? "package:".toList).getD line
  let version := findVersion line
  let line := if version.isSome then removeVersions 0 line else line
  let found := (cutEquals line).getD ([], line)
  let packageName := trim found.2
  let packageName := (splitWhitespace packageName).head?.getD packageName
  if isPackageName packageName then
    some ⟨String.ofList packageName, String.ofList (trim found.1), (version.map parseVersion).getD 0⟩
  else none

def parsePackageList (output : String) : List PackageInfo :=
  ((replaceAll ['\r', '\n'] ['\n'] output.toList).splitOn '\n').filterMap fun line =>
    let line := trim line
    if line = [] then none else parsePackageLine line

example : parsePackageList "package:/data/app/base.apk=org.example.app versionCode:12\r\n" =
    [⟨"org.example.app", "/data/app/base.apk", 12⟩] := by decide

end AdbControl.Server
