import CaretSql.Url.Host
import CaretSql.Url.Path

/-! Reading an address: a scheme, then perhaps an authority of user, password, host and port, and
a path. What follows a question mark or a hash sign is of no interest here. -/

namespace CaretSql

structure Url where
  scheme : List Char
  username : List Char
  password : Option (List Char)
  host : Option (List Char)
  port : Option Nat
  /-- with its leading slash, if it has one -/
  path : List Char
deriving DecidableEq, Repr

namespace Url

/-- Controls and spaces around an address do not count, nor do tabs and line breaks in it. -/
def clean (s : List Char) : List Char :=
  let outer (c : Char) : Bool := c.toNat ≤ 0x20
  ((s.dropWhile outer).reverse.dropWhile outer).reverse.filter
    fun c => c != '\t' && c != '\n' && c != '\r'

/-- a letter, then letters, digits and `+ - .` up to a colon -/
def splitScheme? (s : List Char) : Option (List Char × List Char) :=
  let name := s.takeWhile fun c => c.isAlphanum || c == '+' || c == '-' || c == '.'
  if name.head?.any Char.isAlpha then
    match s.drop name.length with
    | ':' :: rest => some (name.map Char.toLower, rest)
    | _ => none
  else none

def webSchemes : List (List Char × Nat) :=
  [("http".toList, 80), ("https".toList, 443), ("ws".toList, 80), ("wss".toList, 443),
   ("ftp".toList, 21)]

def fileScheme : List Char := "file".toList

def isUserinfoKept (c : Char) : Bool := Path.isKept c && !"/:;=@[\\]^|".toList.contains c

def authority (web : Bool) (s : List Char) : List Char :=
  s.takeWhile fun c => !(c == '/' || c == '?' || c == '#' || (web && c == '\\'))

def splitUserinfo (s : List Char) : Option (List Char × List Char) :=
  if s.contains '@' then
    let after := (s.reverse.takeWhile (· != '@')).reverse
    some (s.take (s.length - after.length - 1), after)
  else none

/-- The host ends at the first colon outside brackets. -/
def hostText : Bool → List Char → List Char
  | _, [] => []
  | bracketed, c :: rest =>
    if c = ':' ∧ !bracketed then []
    else c :: hostText (if c = '[' then true else if c = ']' then false else bracketed) rest

/-- Digits up to a path, a query or a fragment; none at all mean the usual port. -/
def port? (s : List Char) : Except Error (Option Nat) :=
  let digits := s.takeWhile fun c => !"/\\?#".toList.contains c
  if digits.isEmpty then .ok none
  else if digits.all Char.isDigit then
    let n := digits.foldl (fun n c => 10 * n + (c.toNat - 48)) 0
    if n ≤ 65535 then .ok (some n) else .error .badPort
  else .error .badPort

/-- the path up to the query and the fragment, cut at its slashes -/
def pathText (web : Bool) (s : List Char) : List Char :=
  let path := s.takeWhile fun c => c != '?' && c != '#'
  let path := if web then path.map fun c => if c = '\\' then '/' else c else path
  match path with
  | [] => []
  | '/' :: rest => Path.resolve (rest.splitOn '/')
  | path => Path.resolve (path.splitOn '/')

/-- The part for the user, which the last at-sign ends, and the text from the host on. -/
def splitUser (web : Bool) (s : List Char) : Except Error (List Char × List Char) :=
  match splitUserinfo (authority web s) with
  | none => .ok ([], s)
  | some (userinfo, _) =>
    let rest := s.drop (userinfo.length + 1)
    if userinfo.isEmpty ∧ (authority web rest).isEmpty ∧ !rest.isEmpty then .error .emptyHost
    else .ok (userinfo, rest)

def hostOf (web : Bool) (name : List Char) : Except Error (List Char) :=
  if web then
    if name.isEmpty then .error .emptyHost else Host.webHost name
  else Host.opaqueHost name

/-- Reads what follows the part for the user. -/
def parseHost (scheme userinfo s : List Char) : Except Error Url := do
  let usual := webSchemes.lookup scheme
  let web := usual.isSome
  let username := userinfo.takeWhile (· != ':')
  let password := userinfo.drop (username.length + 1)
  let name := hostText false (authority web s)
  let rest := s.drop name.length
  let host ← hostOf web name
  if host.isEmpty ∧ rest.head? = some ':' then throw Error.emptyHost
  let port ← if rest.head? = some ':' then port? (rest.drop 1) else pure none
  let path := if rest.head? = some ':' then
    (rest.drop 1).dropWhile Char.isDigit else rest
  if host.isEmpty ∧ !(username.isEmpty ∧ password.isEmpty) then throw Error.emptyHost
  return {
    scheme
    username := Text.Percent.encode isUserinfoKept username
    password := if password.isEmpty then none
      else some (Text.Percent.encode isUserinfoKept password)
    host := if host.isEmpty then none else some host
    port := if port = usual then none else port
    path := pathText web path }

/-- Reads what follows the two slashes. -/
def parseAuthority (scheme : List Char) (s : List Char) : Except Error Url := do
  let (userinfo, onward) ← splitUser (webSchemes.lookup scheme).isSome s
  parseHost scheme userinfo onward

/-- A file has a host only after two slashes, and a drive is none. -/
def parseFile (s : List Char) : Except Error Url := do
  let isSlash (c : Char) : Bool := c == '/' || c == '\\'
  match s with
  | a :: b :: rest =>
    if isSlash a ∧ isSlash b then
      let name := authority true rest
      let host ← if name.isEmpty ∨ Path.isDrive name then pure [] else Host.webHost name
      return ⟨fileScheme, [], none, if host.isEmpty then none else some host, none,
        pathText true (rest.drop name.length)⟩
    else return ⟨fileScheme, [], none, none, none, pathText true s⟩
  | s => return ⟨fileScheme, [], none, none, none, pathText true s⟩

def parse (s : List Char) : Except Error Url :=
  match splitScheme? (clean s) with
  | none => .error .noScheme
  | some (scheme, rest) =>
    if scheme = fileScheme then parseFile rest
    else if (webSchemes.lookup scheme).isSome then
      parseAuthority scheme (rest.dropWhile fun c => c == '/' || c == '\\')
    else match rest with
      | '/' :: '/' :: rest => parseAuthority scheme rest
      | '/' :: _ => .ok ⟨scheme, [], none, none, none, pathText false rest⟩
      | _ =>
        let path := rest.takeWhile fun c => c != '?' && c != '#'
        .ok ⟨scheme, [], none, none, none,
          Text.Percent.encode (fun c => !Host.isControl c && c.toNat < 0x80) path⟩

end Url

end CaretSql
