import Ingress.Http.Host

/-!
# Hosts of addresses

The host that an address of HTTP names, read the way browsers read addresses: blanks around it and
line ends in it do not count, and neither does the number of slashes after the scheme. An address
that cannot be read names no host.
-/

namespace Ingress.Http.Url

/-- Characters that do not count at the ends of an address. -/
def isEdge (c : Char) : Bool := c ≤ ' '

/-- Slashes of either kind. -/
def isSlash (c : Char) : Bool := c = '/' || c = '\\'

/-- The characters of an address that count. -/
def trimmed (url : String) : List Char :=
  let cs := ((url.toList.dropWhile isEdge).reverse.dropWhile isEdge).reverse
  cs.filter fun c => c ≠ '\t' ∧ c ≠ '\n' ∧ c ≠ '\r'

/-- The authority of an address of HTTP: what stands between the scheme and the path, without the
user. -/
def authority? (url : String) : Option (List Char) := do
  let cs := trimmed url
  let scheme := Text.lowerAscii (String.ofList (cs.takeWhile (· ≠ ':')))
  guard (scheme = "http" ∨ scheme = "https")
  let rest := ((cs.dropWhile (· ≠ ':')).drop 1).dropWhile isSlash
  (Text.pieces '@' (rest.takeWhile fun c => !isSlash c && c ≠ '?' && c ≠ '#')).getLast?

/-- Whether the characters are a number of a port, which may be absent. -/
def isPort (digits : List Char) : Bool :=
  digits.all Char.isDigit && Text.numeral digits < UInt16.size

/-- The name of the host, unless it is given by number. -/
def hostName? (url : String) : Option (List Char) := do
  let authority ← authority? url
  guard (isPort ((authority.dropWhile (· ≠ ':')).drop 1))
  Host.name? (authority.takeWhile (· ≠ ':'))

end Ingress.Http.Url
