import BranchChoice.Text.Encoding

/-!
# Queries and addresses

Parameters in the form encoding of a query, and addresses with the characters escaped that may not
stand in a path.
-/

namespace BranchChoice.Rest

/-- A byte as an escape of two hexadecimal digits. -/
def escapeByte (b : UInt8) : List Char :=
  ['%', Text.upperHexDigit (b.toNat / 16), Text.upperHexDigit (b.toNat % 16)]

/-- The escapes of the bytes of a character. -/
def escapeChar (c : Char) : List Char :=
  (Text.utf8Encode [c]).flatMap escapeByte

/-- Whether a character stands for itself in a form. -/
def isUnreserved (c : Char) : Bool :=
  c.isAlphanum || c == '-' || c == '.' || c == '_' || c == '~'

/-- A character of a form: a space is a plus sign. -/
def formChar (c : Char) : List Char :=
  if isUnreserved c then [c] else if c == ' ' then ['+'] else escapeChar c

/-- A text of a form. -/
def formEncode (s : String) : List Char :=
  s.toList.flatMap formChar

/-- The parameters of a query, each a name and a value. -/
abbrev Parameters := List (String × String)

/-- One parameter of a query. -/
def encodeParameter (p : String × String) : List Char :=
  formEncode p.1 ++ '=' :: formEncode p.2

/-- The parameters as a query. -/
def encodeQuery : Parameters → List Char
  | [] => []
  | [p] => encodeParameter p
  | p :: rest => encodeParameter p ++ '&' :: encodeQuery rest

/-- Whether a character stands for itself in a path. -/
def isPathChar (c : Char) : Bool :=
  33 ≤ c.toNat && c.toNat < 127 &&
    !(c == '"' || c == '#' || c == '<' || c == '>' || c == '?' || c == '`' || c == '\x7b' ||
      c == '\x7d')

/-- A path with the characters escaped that may not stand in it; escapes that are there stay. -/
def encodePath : List Char → List Char
  | [] => []
  | c :: rest => (if isPathChar c then [c] else escapeChar c) ++ encodePath rest

/-- The scheme with its mark, the host and the path of an address. -/
def splitAddress (address : List Char) : List Char × List Char × List Char :=
  let scheme := address.takeWhile (· != ':')
  let rest := (address.dropWhile (· != ':')).drop 3
  (scheme, rest.takeWhile (· != '/'), rest.dropWhile (· != '/'))

/-- The host without the port that the scheme has anyway. -/
def dropDefaultPort (scheme host : List Char) : List Char :=
  let port := if scheme == "https".toList then ":443".toList else ":80".toList
  if port.isSuffixOf host then host.take (host.length - port.length) else host

/-- The address with scheme and host in lower case and its path escaped. -/
def normalizeAddress (address : List Char) : List Char :=
  let (scheme, host, path) := splitAddress address
  let scheme := scheme.map Char.toLower
  scheme ++ "://".toList ++ dropDefaultPort scheme (host.map Char.toLower) ++ encodePath path

end BranchChoice.Rest
