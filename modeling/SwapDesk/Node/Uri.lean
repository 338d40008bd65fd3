import SwapDesk.Bytes

/-! Addresses of nodes. A URI has a scheme and an authority, an authority alone, or a path
alone. -/

namespace SwapDesk.Node

structure Uri where
  scheme : Option String
  authority : Option String
  path : String
  deriving DecidableEq

namespace Uri

inductive Fault where
  | empty
  | tooLong
  | schemeTooLong
  | character
  | authority
  | format
  deriving DecidableEq

def Fault.message : Fault → String
  | .empty => "empty string"
  | .tooLong => "uri too long"
  | .schemeTooLong => "scheme too long"
  | .character => "invalid uri character"
  | .authority => "invalid authority"
  | .format => "invalid format"

private def isLetterOrDigit (c : Char) : Bool := c.isAlphanum

/-- Characters that may stand anywhere outside a path. -/
def isPlain (c : Char) : Bool :=
  isLetterOrDigit c || c ∈ "!#$&'()*+,-./:;=?@[]_~".toList

/-- Characters that end an authority. -/
def endsAuthority (c : Char) : Bool := c == '/' || c == '?' || c == '#'

/-- Whether a path may hold a character. Characters beyond ASCII may stand as they are. -/
def isPath (c : Char) : Bool :=
  let code := c.toNat
  code == 0x21 || (0x22 ≤ code && code ≤ 0x3b && code ≠ 0x23) || code == 0x3d ||
    (0x40 ≤ code && code ≤ 0x5f) || (0x61 ≤ code && code ≠ 0x7f)

def isQuery (c : Char) : Bool :=
  let code := c.toNat
  code == 0x21 || (0x24 ≤ code && code ≤ 0x3b) || code == 0x3d || (0x3f ≤ code && code ≠ 0x7f)

structure Scan where
  colons : Nat := 0
  opened : Bool := false
  closed : Bool := false
  percent : Bool := false
  atSign : Bool := false

/-- Goes over one character of an authority. Colons and percent signs before an at sign or
inside brackets do not count. -/
def Scan.step (scan : Scan) (c : Char) : Except Fault Scan :=
  let scan := { scan with atSign := false }
  if c = ':' then
    if 8 ≤ scan.colons then .error .authority else .ok { scan with colons := scan.colons + 1 }
  else if c = '[' then
    if scan.percent || scan.opened then .error .authority else .ok { scan with opened := true }
  else if c = ']' then
    if !scan.opened || scan.closed then .error .authority
    else .ok { scan with closed := true, colons := 0, percent := false }
  else if c = '@' then .ok { scan with atSign := true, colons := 0, percent := false }
  else if c = '%' then .ok { scan with percent := true }
  else if isPlain c then .ok scan
  else .error .character

/-- Splits the authority off the front of a text that is not empty. -/
def splitAuthority (text : List Char) : Except Fault (List Char × List Char) := do
  if text.isEmpty then throw .empty
  let authority := text.takeWhile fun c => !endsAuthority c
  let scan ← authority.foldlM Scan.step {}
  if scan.opened ≠ scan.closed || 1 < scan.colons || scan.atSign || scan.percent then
    .error .authority
  else .ok (authority, text.dropWhile fun c => !endsAuthority c)

/-- Checks a path with its query. What follows a number sign is of no interest. -/
def checkPath (text : List Char) : Except Fault Unit :=
  let text := text.takeWhile (· ≠ '#')
  let path := text.takeWhile (· ≠ '?')
  let query := (text.dropWhile (· ≠ '?')).drop 1
  if path.all isPath && query.all isQuery then .ok () else .error .character

def isScheme (c : Char) : Bool := isLetterOrDigit c || c ∈ ['+', '-', '.', '~']

private def startsWith (start : String) (text : List Char) : Bool :=
  (text.take start.length).map Char.toLower == start.toList

/-- Splits the scheme off the front, if there is one. -/
def splitScheme (text : List Char) : Except Fault (Option String × List Char) :=
  if startsWith "http://" text then .ok (some "http", text.drop 7)
  else if startsWith "https://" text then .ok (some "https", text.drop 8)
  else
    let name := text.takeWhile isScheme
    let rest := text.dropWhile isScheme
    if 3 < text.length && rest.take 3 == [':', '/', '/'] then
      if 64 < name.length then .error .schemeTooLong
      else .ok (some (String.ofList name), rest.drop 3)
    else .ok (none, text)

/-- Reads an authority that has to be the whole text. -/
private def wholeAuthority (fault : Fault) (text : List Char) : Except Fault Uri := do
  let (authority, rest) ← splitAuthority text
  if rest.isEmpty then .ok ⟨none, some (String.ofList authority), ""⟩ else .error fault

def ofText (text : String) : Except Fault Uri :=
  if 65534 < text.utf8ByteSize then .error .tooLong
  else match text.toList with
    | [] => .error .empty
    | ['/'] => .ok ⟨none, none, "/"⟩
    | ['*'] => .ok ⟨none, none, "*"⟩
    | [c] => wholeAuthority .character [c]
    | '/' :: _ => (checkPath text.toList).map fun _ => ⟨none, none, text⟩
    | symbols => do
      match ← splitScheme symbols with
      | (none, rest) => wholeAuthority .format rest
      | (some scheme, rest) =>
        let (authority, path) ← splitAuthority rest
        if authority.isEmpty then .error .format
        else
          checkPath path
          .ok ⟨some scheme, some (String.ofList authority), String.ofList path⟩

/-- The host that an authority names, without user and without the number behind a colon. -/
def hostOf (authority : List Char) : List Char :=
  let host := (authority.reverse.takeWhile (· ≠ '@')).reverse
  if host.head? == some '[' then host.takeWhile (· ≠ ']') ++ [']']
  else host.takeWhile (· ≠ ':')

def host? (uri : Uri) : Option String :=
  uri.authority.map fun authority => String.ofList (hostOf authority.toList)

private def splitDots (text : List Char) : List (List Char) :=
  text.foldr (fun c parts =>
    if c = '.' then [] :: parts
    else match parts with
      | [] => [[c]]
      | part :: rest => (c :: part) :: rest) [[]]

private def isOctet (part : List Char) : Bool :=
  !part.isEmpty && part.length ≤ 3 && part.all Char.isDigit &&
    (part.length == 1 || part.head? ≠ some '0') &&
    part.foldl (fun total c => total * 10 + (c.toNat - 48)) 0 ≤ 255

private def isLabel (part : List Char) : Bool :=
  !part.isEmpty && part.length ≤ 63 && part.all (fun c => c.isAlphanum || c == '-' || c == '_') &&
    part.head? ≠ some '-' && part.getLast? ≠ some '-'

/-- Whether a host can be named in a certificate: a domain name whose last label is no
number, with or without a last point, or four octets. -/
def isServerName (host : String) : Bool :=
  let parts := splitDots host.toList
  let labels := if 1 < parts.length && parts.getLast? == some [] then parts.dropLast else parts
  (host.length ≤ 253 && labels.all isLabel && !(labels.getLast?.getD []).all Char.isDigit) ||
    (parts.length == 4 && parts.all isOctet)

end Uri

end SwapDesk.Node
