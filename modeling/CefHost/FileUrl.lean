import Mathlib.Data.List.Basic

/-!
# File URLs

`MakeFileUrlFromPath`: the URL of a local file, from a path of any of the forms Windows knows.

A `std::u16string` is the list of its units.

## Main definitions

* `encodeFileUrlPath` — the escaping
* `makeFileUrlFromPath` — the URL
-/

namespace CefHost

abbrev U16String := List UInt16

/-- The units of an ASCII string. -/
def u16 (s : String) : U16String := s.toList.map fun c => UInt16.ofNat c.toNat

def isAsciiAlpha (c : UInt16) : Bool := (97 ≤ c && c ≤ 122) || (65 ≤ c && c ≤ 90)

/-- `kHex`. -/
def hexDigit (n : UInt8) : UInt16 := if n < 10 then 48 + n.toUInt16 else 55 + n.toUInt16

def hexEscapeByte (b : UInt8) : U16String :=
  [37, hexDigit ((b >>> 4) &&& 15), hexDigit (b &&& 15)]

/-- What `EncodeFileUrlPath` writes for a unit. -/
def encodeFileUrlUnit (c : UInt16) : U16String :=
  if c = 32 then u16 "%20"
  else if c = 35 then u16 "%23"
  else if c = 63 then u16 "%3F"
  else if c = 37 then u16 "%25"
  else if c < 0x20 then hexEscapeByte c.toUInt8
  else [c]

def encodeFileUrlPath (path : U16String) : U16String := path.flatMap encodeFileUrlUnit

/-- Backslashes become slashes. -/
def forwardSlashes (path : U16String) : U16String := path.map fun c => if c = 92 then 47 else c

/-- `//server/share/..`. -/
def isUncPath : U16String → Bool
  | 47 :: 47 :: _ => true
  | _ => false

/-- `C:/..`. -/
def isDrivePath : U16String → Bool
  | drive :: 58 :: 47 :: _ => isAsciiAlpha drive
  | _ => false

/-- The tests of `MakeFileUrlFromPath`, in order, on a path with slashes. -/
def fileUrlOfSlashed (path : U16String) : U16String :=
  if (u16 "file://").isPrefixOf path then path
  else if isUncPath path then u16 "file:" ++ encodeFileUrlPath path
  else if isDrivePath path then u16 "file:///" ++ encodeFileUrlPath path
  else if path.head? = some 47 then u16 "file://" ++ encodeFileUrlPath path
  else u16 "file:///" ++ encodeFileUrlPath path

def makeFileUrlFromPath (rawPath : U16String) : U16String :=
  fileUrlOfSlashed (forwardSlashes rawPath)

end CefHost
