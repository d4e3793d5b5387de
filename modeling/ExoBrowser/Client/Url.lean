import Mathlib.Data.List.Basic

/-!
# Addresses

What the omnibox makes of the text typed into it.
-/

set_option autoImplicit false

namespace ExoBrowser.Client

/-- The Unicode property `White_Space`. -/
def isWhitespace (c : Char) : Bool :=
  let v := c.val
  (0x09 ≤ v && v ≤ 0x0D) || v == 0x20 || v == 0x85 || v == 0xA0 || v == 0x1680 ||
    (0x2000 ≤ v && v ≤ 0x200A) || v == 0x2028 || v == 0x2029 || v == 0x202F || v == 0x205F ||
    v == 0x3000

def trim (s : List Char) : List Char :=
  ((s.dropWhile isWhitespace).reverse.dropWhile isWhitespace).reverse

def isAsciiDigit (c : Char) : Bool := '0' ≤ c && c ≤ '9'

def isAsciiAlphabetic (c : Char) : Bool := ('a' ≤ c && c ≤ 'z') || ('A' ≤ c && c ≤ 'Z')

def searchUrl (query : List Char) : List Char := "https://duckduckgo.com/?q=".toList ++ query

/-- `http://` for the local host, which may be followed by a port or a path. -/
def isLocalhost (s : List Char) : Bool :=
  "localhost:".toList.isPrefixOf s || "localhost/".toList.isPrefixOf s ||
    s == "localhost".toList || "127.0.0.1:".toList.isPrefixOf s ||
    "127.0.0.1/".toList.isPrefixOf s || s == "127.0.0.1".toList

/-- Whether what stands before the first colon is a scheme: a host with a port is not. -/
def hasScheme (s : List Char) : Bool :=
  s.contains ':' &&
    let scheme := s.takeWhile (· != ':')
    let rest := (s.dropWhile (· != ':')).drop 1
    let portPart := rest.takeWhile (· != '/')
    let isPort := !portPart.isEmpty && portPart.all isAsciiDigit
    !scheme.isEmpty && !isPort &&
      (scheme.all fun c => isAsciiAlphabetic c || isAsciiDigit c || c == '+' || c == '-' || c == '.') &&
      (scheme.head?.any isAsciiAlphabetic)

def canonicalizeChars (raw : List Char) : List Char :=
  let s := trim raw
  if s.isEmpty then "about:blank".toList
  else if s.contains ' ' then searchUrl (s.map fun c => if c == ' ' then '+' else c)
  else if isLocalhost s then "http://".toList ++ s
  else if hasScheme s then s
  else if !s.contains '.' then searchUrl s
  else "https://".toList ++ s

def canonicalizeUrl (raw : String) : String := String.ofList (canonicalizeChars raw.toList)

end ExoBrowser.Client
