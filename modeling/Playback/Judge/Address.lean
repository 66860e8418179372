import Playback.Judge.HostName.Label
import Playback.Judge.NumericHost
import Playback.Text.Lowercase
import Playback.Text.Numeral
import Playback.Text.Percent

/-!
This module contains the addresses of services in the form in which requests are sent to them. It is the
reader of addresses that `Judge.Config.clientUrl` is run with; nothing else depends on it.
-/

namespace Playback

/--
The address of a service. All its parts may be absent; an absent query or fragment differs from an
empty one.
-/
structure Address where
  scheme : List Char
  userInfo : List Char
  host : List Char
  portNumber : Option Int
  path : List Char
  query : Option (List Char)
  fragment : Option (List Char)
deriving DecidableEq

inductive AddressFault where
  | tooLong
  | control (c : Char) (position : Nat)
  | dottedHost (host : String)
  | bracketedHost (host : String)
  | foreignHost (host : String)
  | portNumber (text : String)
  | rootless
  | doubleSlash
  | leadingColon
deriving DecidableEq

def AddressFault.message : AddressFault → String
  | .tooLong => "URL too long"
  | .control c position =>
    s!"Invalid non-printable ASCII character in URL, {Text.quoted (String.singleton c)}"
      ++ s!" at position {position}."
  | .dottedHost host => s!"Invalid IPv4 address: {Text.quoted host}"
  | .bracketedHost host => s!"Invalid IPv6 address: {Text.quoted host}"
  | .foreignHost host => s!"Invalid IDNA hostname: {Text.quoted host}"
  | .portNumber text => s!"Invalid port: {Text.quoted text}"
  | .rootless => "For absolute URLs, path must be empty or begin with '/'"
  | .doubleSlash => "Relative URLs cannot have a path starting with '//'"
  | .leadingColon => "Relative URLs cannot have a path starting with ':'"

namespace Address

def maxLength : Nat := 65536

def splitAt (isEnd : Char → Bool) (cs : List Char) : List Char × List Char :=
  (cs.takeWhile (!isEnd ·), cs.dropWhile (!isEnd ·))

/--
Whether a character can be shown, is ASCII, and is none of the given ones.
-/
def isPlain (exceptions : String) (c : Char) : Bool :=
  0x20 ≤ c.toNat && c.toNat < 0x7F && !exceptions.toList.contains c

def isSafeInUserInfo : Char → Bool := isPlain " \"#<>?`\x7b\x7d/;=@[\\]^|"

def isSafeInPath : Char → Bool := isPlain " \"#<>?`\x7b\x7d"

def isSafeInQuery : Char → Bool := isPlain " \"#<>"

def isSafeInFragment : Char → Bool := isPlain " \"<>`"

def isSafeInHost : Char → Bool := isPlain " #/:<>?@[]^"

def lower (cs : List Char) : List Char := cs.map Char.toLower

/--
Hosts are written in lower case. A host in brackets loses them, and names of other scripts are written
in ASCII.
-/
def readHost (host : List Char) : Except AddressFault (List Char) :=
  if NumericHost.fourNumbers.startsText host then
    if NumericHost.isDotted host then .ok host
    else .error (.dottedHost (String.ofList host))
  else if host.head? == some '[' && host.getLast? == some ']' && host.length != 1 then
    let inner := (host.drop 1).dropLast
    if NumericHost.isColoned inner then .ok inner
    else .error (.bracketedHost (String.ofList host))
  else if host.all Text.isAscii then .ok (Text.percentEncode isSafeInHost (lower host))
  else
    match HostName.inAscii? (Text.lowercase host) with
    | some name => .ok name
    | none => .error (.foreignHost (String.ofList host))

def usualNumbers : List (String × Int) :=
  [("ftp", 21), ("http", 80), ("https", 443), ("ws", 80), ("wss", 443)]

/--
The number behind a host, unless there is none or it is the usual one of the scheme.
-/
def readNumber (scheme text : List Char) : Except AddressFault (Option Int) :=
  if text.isEmpty then .ok none
  else
    match Text.readInt (String.ofList text) with
    | .error _ => .error (.portNumber (String.ofList text))
    | .ok n => .ok (if usualNumbers.lookup (String.ofList scheme) == some n then none else some n)

/--
The parts of what stands between two slashes and the path: the user, the host, which may stand in
brackets, and the number behind a colon.
-/
def authorityParts (authority : List Char) : List Char × List Char × List Char :=
  let (reversed, front) := splitAt (· == '@') authority.reverse
  let rest := reversed.reverse
  let (host, number) :=
    if rest.head? == some '[' && rest.contains ']' then
      let (reversed, front) := splitAt (· == ']') rest.reverse
      (front.reverse, reversed.reverse)
    else splitAt (· == ':') rest
  ((front.drop 1).reverse, host, if number.head? == some ':' then number.drop 1 else number)

/--
Take away the parts of a path that are one point, and those that are two points with the part in front
of them.
-/
def resolveDots (kept : List (List Char)) : List (List Char) → List (List Char)
  | [] => kept
  | part :: parts =>
    if part == ['.'] then resolveDots kept parts
    else if part == ['.', '.'] then
      resolveDots (if kept == [[]] then kept else kept.dropLast) parts
    else resolveDots (kept ++ [part]) parts

def pathFault? (hasScheme hasAuthority : Bool) (path : List Char) : Option AddressFault :=
  if hasAuthority then
    if path.isEmpty || path.head? == some '/' then none else some .rootless
  else if hasScheme then none
  else if ['/', '/'].isPrefixOf path then some .doubleSlash
  else if path.head? == some ':' then some .leadingColon
  else none

def ofParts (scheme authority path : List Char) (query fragment : Option (List Char)) :
    Except AddressFault Address := do
  let (userInfo, host, number) := authorityParts authority
  let userInfo := Text.percentEncode isSafeInUserInfo userInfo
  let host ← readHost host
  let portNumber ← readNumber scheme number
  let hasScheme := !scheme.isEmpty
  let hasAuthority := !userInfo.isEmpty || !host.isEmpty || portNumber.isSome
  if let some fault := pathFault? hasScheme hasAuthority path then throw fault
  let resolved :=
    if hasScheme || hasAuthority then
      ['/'].intercalate (resolveDots [] (Text.splitOn '/' path))
    else path
  return {
    scheme := lower scheme
    userInfo
    host
    portNumber
    path := Text.percentEncode isSafeInPath resolved
    query := query.map (Text.percentEncode isSafeInQuery)
    fragment := fragment.map (Text.percentEncode isSafeInFragment) }

/--
The scheme in front of a colon, which may be empty, and the rest of a text.
-/
def takeScheme (cs : List Char) : List Char × List Char :=
  let (scheme, rest) :=
    splitAt (fun c => !(c.isAlphanum || c == '+' || c == '.' || c == '-')) cs
  if rest.head? == some ':' && scheme.head?.all Char.isAlpha then (scheme, rest.drop 1) else ([], cs)

def ofText (text : String) : Except AddressFault Address := do
  let cs := text.toList
  if maxLength < cs.length then throw .tooLong
  let isControl := fun (c : Char) => c.toNat < 0x20 || c.toNat = 0x7F
  if let some c := cs.find? isControl then throw (.control c (cs.idxOf c))
  let (scheme, rest) := takeScheme cs
  let (authority, rest) :=
    if ['/', '/'].isPrefixOf rest then
      splitAt (fun c => c == '/' || c == '?' || c == '#') (rest.drop 2)
    else ([], rest)
  let (path, rest) := splitAt (fun c => c == '?' || c == '#') rest
  let (query, rest) := splitAt (· == '#') rest
  -- A part that is there but empty is not the same as none.
  let given (part : List Char) : Option (List Char) :=
    if part.isEmpty then none else some (part.drop 1)
  ofParts scheme authority path (given query) (given rest)

/--
The user, the host and its number as they are written. A host with colons stands in brackets.
-/
def authority (address : Address) : List Char :=
  let userInfo := if address.userInfo.isEmpty then [] else address.userInfo ++ ['@']
  let host := if address.host.contains ':' then '[' :: address.host ++ [']'] else address.host
  userInfo ++ host ++ (address.portNumber.map fun n => ':' :: (toString n).toList).getD []

def toText (address : Address) : String :=
  let scheme := if address.scheme.isEmpty then [] else address.scheme ++ [':']
  let authority := if address.authority.isEmpty then [] else '/' :: '/' :: address.authority
  String.ofList (scheme ++ authority ++ address.path
    ++ (address.query.map ('?' :: ·)).getD [] ++ (address.fragment.map ('#' :: ·)).getD [])

/--
What is asked for under an address: the path, which is at least a slash, and the query.
-/
def target (address : Address) : List Char :=
  let path := if address.path.isEmpty then ['/'] else address.path
  path ++ (address.query.map ('?' :: ·)).getD []

/--
The address below which the paths of requests lie: what is asked for ends in a slash.
-/
def requestRoot (text : String) : Except AddressFault String := do
  let address ← ofText text
  if address.target.getLast? == some '/' then return address.toText
  else
    let (path, query) := splitAt (· == '?') (address.target ++ ['/'])
    let query := if query.isEmpty then none else some (query.drop 1)
    return (← ofParts address.scheme address.authority path query address.fragment).toText

def readRoot (text : String) : Except String String :=
  (requestRoot text).mapError AddressFault.message

end Address

end Playback
