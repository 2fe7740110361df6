/-
# `Url.Reading` — addresses from text

Blanks and controls around an address and tabs and line breaks in it are
dropped; a backslash in a web address counts as a slash.  Addresses of
other schemes than `http` and `https` cannot be asked for, so of them only
the written parts are kept.  How those are read depends on the scheme:

| schemes              | read                                              |
| :--                  | :--                                               |
| `ws`, `wss`, `ftp`   | like web addresses                                |
| `file`               | the same, but the host may be missing             |
| all other            | with slashes only, and with any text for a host   |

`Address.parse` reads an address that stands on its own, `Url.join` one
that may be relative to another.
-/
import OrderDesk.Url

namespace OrderDesk

/-- An address of another scheme than those of the web, in its written parts. -/
structure OtherUrl where
  scheme : List Char
  /-- User, host and port, if two slashes announce them. -/
  authority : Option (List Char)
  path : List Char
  query : Option (List Char)
  fragment : Option (List Char)

/-- The written form of an address.  Without an authority the path must not look
as if it began with one. -/
def OtherUrl.text (u : OtherUrl) : String :=
  let front := match u.authority with
    | some authority => "//".toList ++ authority
    | none => if "//".toList.isPrefixOf u.path then "/.".toList else []
  String.ofList (u.scheme ++ ':' :: (front ++ u.path) ++ Url.behindPath u.query u.fragment)

/-- A checked address. -/
inductive Address where
  | web (url : Url)
  | other (url : OtherUrl)

namespace Url

/-- The kinds of schemes that are read differently. -/
inductive Kind where
  | web (scheme : Scheme)
  /-- Schemes that are read like web addresses. -/
  | hosted (port : Nat)
  | file
  | foreign
  deriving DecidableEq

/-- The kind of a scheme. -/
def kind (scheme : List Char) : Kind :=
  if scheme = "http".toList then .web .http
  else if scheme = "https".toList then .web .https
  else if scheme = "ws".toList then .hosted 80
  else if scheme = "wss".toList then .hosted 443
  else if scheme = "ftp".toList then .hosted 21
  else if scheme = "file".toList then .file
  else .foreign

/-- The text of an address without what is dropped. -/
def clean (text : List Char) : List Char :=
  let blank (c : Char) : Bool := c.toNat ≤ 0x20
  ((text.dropWhile blank).reverse.dropWhile blank).reverse.filter fun c => !Path.isDropped c

/-- The scheme of an address in small letters, and the text behind its
colon. -/
def scheme? (text : List Char) : Option (List Char × List Char) :=
  let isFirst (c : Char) : Bool := ('a' ≤ c && c ≤ 'z') || ('A' ≤ c && c ≤ 'Z')
  let isLater (c : Char) : Bool :=
    isFirst c || ('0' ≤ c && c ≤ '9') || c == '+' || c == '-' || c == '.'
  match text with
  | [] => none
  | c :: _ =>
    if isFirst c then
      match text.dropWhile isLater with
      | ':' :: rest => some ((text.takeWhile isLater).map Char.toLower, rest)
      | _ => none
    else none

/-- Does the authority of an address end here? -/
def endsAuthority (special : Bool) (c : Char) : Bool :=
  c == '/' || c == '?' || c == '#' || (special && c == '\\')

/-- The user in front of the last commercial at of the authority, and the
text behind it. -/
def readUser (special : Bool) (s : List Char) : Except UrlError (User × List Char) :=
  let authority := s.takeWhile fun c => !endsAuthority special c
  if authority.contains '@' then
    let host := (authority.reverse.takeWhile (· ≠ '@')).reverse
    let written := authority.take (authority.length - host.length - 1)
    let rest := s.drop (written.length + 1)
    if written = [] then
      match rest with
      | c :: _ => if endsAuthority special c then .error .emptyHost else .ok ({}, rest)
      | [] => .ok ({}, rest)
    else
      let name := written.takeWhile (· ≠ ':')
      let password := written.drop (name.length + 1)
      let encode := Percent.encode Percent.userinfo
      .ok (⟨encode name, if password = [] then none else some (encode password)⟩, rest)
  else .ok ({}, s)

/-- The text of the host and what follows it. -/
def splitHost (special inside : Bool) : List Char → List Char × List Char
  | [] => ([], [])
  | c :: rest =>
    if (c == ':' && !inside) || endsAuthority special c then ([], c :: rest)
    else
      let (host, rest) := splitHost special (c == '[' || (inside && c != ']')) rest
      (c :: host, rest)

/-- The port behind a host, unless it goes without saying, and the text
behind it. -/
def readPort (usual : Option Nat) : List Char → Except UrlError (Option Nat × List Char)
  | ':' :: rest =>
    let digits := rest.takeWhile fun c => '0' ≤ c && c ≤ '9'
    let behind := rest.dropWhile fun c => '0' ≤ c && c ≤ '9'
    let port := (Host.numeral? 10 digits).getD 0
    let ends := match behind with
      | [] => true
      | c :: _ => endsAuthority true c
    if 65535 < port ∨ !ends then .error .invalidPort
    else .ok (if digits = [] ∨ usual = some port then none else some port, behind)
  | rest => .ok (none, rest)

/-- The segments of a path, encoded. -/
def segments (special : Bool) (path : List Char) : List (List Char) :=
  (split path).map (Percent.encode Percent.path)
where
  /-- Splits a path at its separators. -/
  split : List Char → List (List Char)
    | [] => [[]]
    | c :: rest =>
      if c = '/' ∨ (special ∧ c = '\\') then [] :: split rest
      else match split rest with
        | [] => [[c]]
        | part :: parts => (c :: part) :: parts

/-- The path as it stands, and what is behind it: query and fragment, encoded. -/
def cutPath (special : Bool) (s : List Char) :
    List Char × Option (List Char) × Option (List Char) :=
  let (path, rest) :=
    (s.takeWhile fun c => c ≠ '?' ∧ c ≠ '#', s.dropWhile fun c => c ≠ '?' ∧ c ≠ '#')
  let (query, rest) := match rest with
    | '?' :: rest =>
      (some (Percent.encode (Percent.query special) (rest.takeWhile (· ≠ '#'))),
        rest.dropWhile (· ≠ '#'))
    | rest => (none, rest)
  let fragment := match rest with
    | '#' :: rest => some (Percent.encode Percent.fragment rest)
    | _ => none
  (path, query, fragment)

/-- Reads path, query and fragment, the path from some folders on. -/
def readTail (folders : List (List Char)) (s : List Char) :
    Path × Option (List Char) × Option (List Char) :=
  let (path, query, fragment) := cutPath true s
  (Path.follow folders (segments true path), query, fragment)

/-- Drops one separator. -/
def dropSeparator : List Char → List Char
  | '/' :: rest => rest
  | '\\' :: rest => rest
  | rest => rest

/-- Drops all separators. -/
def dropSeparators (s : List Char) : List Char := s.dropWhile fun c => c = '/' ∨ c = '\\'

/-- User, host and port behind the two slashes, and the text behind
them. -/
def readAuthority (usual : Option Nat) (s : List Char) :
    Except UrlError (User × Host × Option Nat × List Char) := do
  let (user, s) ← readUser true s
  let (written, s) := splitHost true false s
  if written = [] then throw .emptyHost
  let host ← Host.parse written
  let (port, s) ← readPort usual s
  pure (user, host, port, s)

/-- The web address behind the two slashes. -/
def readWeb (scheme : Scheme) (s : List Char) : Except UrlError Url := do
  let (user, host, port, s) ← readAuthority (some scheme.port) s
  let (path, query, fragment) := readTail [] (dropSeparator s)
  pure ⟨scheme, user, host, port, path, query, fragment⟩

/-- The address behind the two slashes of a scheme that is read like those of
the web. -/
def readHosted (scheme : List Char) (usual : Nat) (s : List Char) : Except UrlError OtherUrl := do
  let (user, host, port, s) ← readAuthority (some usual) s
  let (path, query, fragment) := readTail [] (dropSeparator s)
  pure ⟨scheme, some (authorityText user host.text port), path.text, query, fragment⟩

/-- Is this the letter of a drive with its mark? -/
def isDrive : List Char → Bool
  | [letter, mark] => letter.isAlpha && (mark == ':' || mark == '|')
  | _ => false

/-- The host of a file, if two slashes announce one, and what follows it.  A
drive is none. -/
def readFileHost (s : List Char) : Except UrlError (List Char × List Char) :=
  match s with
  | a :: b :: rest =>
    if (a = '/' ∨ a = '\\') ∧ (b = '/' ∨ b = '\\') then
      let written := rest.takeWhile fun c => !endsAuthority true c
      if written = [] ∨ isDrive written then .ok ([], rest)
      else (Host.parse written).map fun host =>
        (if host = .name "localhost".toList then [] else host.text, rest.drop written.length)
    else .ok ([], s)
  | _ => .ok ([], s)

/-- The path of a file on a host.  Nothing leads out of a drive, a path with a
drive has no host, and it does not begin with more than one slash. -/
def filePath (host : List Char) (segments : List (List Char)) : List Char × List Char :=
  match segments.dropWhile fun segment => Path.isDot segment || Path.isDots segment with
  | drive :: rest =>
    if isDrive drive then
      ([], '/' :: (drive.take 1 ++ ':' :: if rest = [] then [] else (Path.follow [] rest).text))
    else (host, '/' :: (Path.follow [] (drive :: rest)).text.dropWhile (· = '/'))
  | [] => (host, ['/'])

/-- The address of a file, behind its scheme. -/
def readFile (s : List Char) : Except UrlError OtherUrl := do
  let (host, s) ← readFileHost s
  let (path, query, fragment) := cutPath true s
  let (host, path) := filePath host (segments true (dropSeparator path))
  pure ⟨"file".toList, some host, path, query, fragment⟩

/-- The authority of a foreign address, if two slashes announce one, and what
follows it. -/
def readForeignAuthority (s : List Char) : Except UrlError (Option (List Char) × List Char) :=
  match s with
  | '/' :: '/' :: s => do
    let (user, s) ← readUser false s
    let (written, s) := splitHost false false s
    let host ← Host.readOpaque written
    if host = [] then
      if s.head? = some ':' then throw .emptyHost
      if userText user ≠ [] then throw .emptyHost
    let (port, s) ← readPort none s
    pure (some (authorityText user host port), s)
  | s => .ok (none, s)

/-- The path of a foreign address.  Behind an authority it begins with a slash
if it is not empty; elsewhere it may be a text by itself. -/
def foreignPath (behindAuthority : Bool) (path : List Char) : List Char :=
  match path with
  | [] => []
  | '/' :: rest => (Path.follow [] (segments false rest)).text
  | path =>
    if behindAuthority then (Path.follow [] (segments false path)).text
    else Percent.encode Percent.controls path

/-- A foreign address, behind its scheme. -/
def readForeign (scheme s : List Char) : Except UrlError OtherUrl := do
  let (authority, s) ← readForeignAuthority s
  let (path, query, fragment) := cutPath false s
  pure ⟨scheme, authority, foreignPath authority.isSome path, query, fragment⟩

end Url

namespace Address

/-- Reads an address behind its scheme. -/
def parseAs (scheme rest : List Char) : Except UrlError Address :=
  match Url.kind scheme with
  | .web scheme => (Url.readWeb scheme (Url.dropSeparators rest)).map .web
  | .hosted usual => (Url.readHosted scheme usual (Url.dropSeparators rest)).map .other
  | .file => (Url.readFile rest).map .other
  | .foreign => (Url.readForeign scheme rest).map .other

/-- Reads an address that stands on its own. -/
def parse (text : String) : Except UrlError Address :=
  match Url.scheme? (Url.clean text.toList) with
  | none => .error .relative
  | some (scheme, rest) => parseAs scheme rest

end Address

namespace Url

/-- Reads an address without a scheme of its own. -/
def resolve (base : Url) (s : List Char) : Except UrlError Url :=
  let replace (folders : List (List Char)) (s : List Char) : Url :=
    let (path, query, fragment) := readTail folders s
    { base with path, query, fragment }
  match s with
  | [] => .ok { base with fragment := none }
  | '#' :: rest => .ok { base with fragment := some (Percent.encode Percent.fragment rest) }
  | '?' :: rest =>
    let (_, query, fragment) := readTail [] ('?' :: rest)
    .ok { base with query, fragment }
  | c :: rest =>
    if c = '/' ∨ c = '\\' then
      match rest with
      | d :: rest' =>
        if c = '/' ∧ d = '/' then readWeb base.scheme rest'
        else if d = '/' ∨ d = '\\' then readWeb base.scheme (dropSeparators rest')
        else .ok (replace [] rest)
      | [] => .ok (replace [] rest)
    else .ok (replace base.path.folders (c :: rest))

/-- Reads an address that may be relative to another. -/
def join (base : Url) (text : String) : Except UrlError Address :=
  let s := clean text.toList
  match scheme? s with
  | none => (base.resolve s).map .web
  | some (scheme, rest) =>
    let slashes := rest.takeWhile fun c => c = '/' ∨ c = '\\'
    if scheme = base.scheme.name ∧ slashes.length < 2 then (base.resolve rest).map .web
    else Address.parseAs scheme rest

end Url

end OrderDesk
