import Mathlib.Data.Nat.Basic
import USBDevicePlugin.Environment.Interface

/-!
# The file system the plugin reads

One scan of the block-device tree reads directories, symbolic links and small text files.  `Sysfs`
is what such a scan finds: one answer for every path.  Nothing says that the answers fit together,
so a tree that changes while it is read is covered, as long as a path that is looked at twice gives
the same answer twice.  Two scans may find two different file systems.

The rest of the file is the standard library the plugin reads files with: absolute paths in the
sense of `boost::filesystem`, `std::ifstream >> int`, and `std::getline`.
-/

namespace Usb

/-- An absolute path without `.`, `..` and links, as `boost::filesystem::canonical` yields it: its
components, the root directory being the empty list. -/
abbrev CanonicalPath := List CxxString

/-- `path::string()`. -/
def CanonicalPath.string (p : CanonicalPath) : CxxString :=
  if p = [] then "/".toList else p.flatMap fun name => '/' :: name

/-- What the plugin can find out about the file system.  `none` means, in this order: `opendir`
fails, `canonical` throws, `is_regular_file` throws, the file cannot be opened. -/
structure Sysfs where
  directory : CxxString → Option (List CxxString)
  canonical : CxxString → Option CanonicalPath
  isRegularFile : CxxString → Option Bool
  contents : CxxString → Option CxxString

/-- The whitespace formatted input skips. -/
def isSpace (c : Char) : Bool :=
  c ∈ [' ', '\t', '\n', '\x0b', '\x0c', '\r']

/-- `std::ifstream >> int`: skip whitespace, an optional sign, then digits.  Fails when there is
no digit or the number is no `int`. -/
def readInt (text : CxxString) : Option Int :=
  let text := text.dropWhile isSpace
  let negative := text.head? = some '-'
  let text := if negative ∨ text.head? = some '+' then text.tail else text
  let digits := text.takeWhile Char.isDigit
  let magnitude : Int := Nat.ofDigitChars 10 digits 0
  let value := if negative then -magnitude else magnitude
  if digits = [] then none
  else if -2147483648 ≤ value ∧ value ≤ 2147483647 then some value
  else none

/-- `std::getline`: the first line, without its end. -/
def getline (text : CxxString) : CxxString := text.takeWhile (· ≠ '\n')

example : readInt "101\n".toList = some 101 := by decide

end Usb
