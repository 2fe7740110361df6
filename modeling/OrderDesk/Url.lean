/-
# `Url` — addresses on the web

A `Url` is the address of something on the web: scheme, user, host, port,
path, and perhaps query and fragment, each already in its written form.
The path is a list of folders and a leaf, all of them texts without
separators, so that a path always begins with a slash and the address is
never empty behind the host.

`Url.text` writes an address.  `Url.child` goes one segment down, whatever
characters the segment has.  Some addresses cannot be asked for at all
(`Url.isRequestable`).
-/
import OrderDesk.Url.Host

namespace OrderDesk

/-- The schemes of web addresses. -/
inductive Scheme where
  | http
  | https
  deriving DecidableEq, Repr

namespace Scheme

/-- The name of a scheme. -/
def name : Scheme → List Char
  | .http => "http".toList
  | .https => "https".toList

/-- The port that is meant when none is written. -/
def port : Scheme → Nat
  | .http => 80
  | .https => 443

end Scheme

/-- The user that a web address names. -/
structure User where
  name : List Char := []
  password : Option (List Char) := none
  deriving DecidableEq

/-- The path of a web address. -/
structure Path where
  folders : List (List Char) := []
  leaf : List Char := []
  deriving DecidableEq

/-- A web address. -/
structure Url where
  scheme : Scheme
  user : User
  host : Host
  port : Option Nat
  path : Path
  query : Option (List Char)
  fragment : Option (List Char)
  deriving DecidableEq

namespace Path

/-- The written form of a path. -/
def text (p : Path) : List Char := '/' :: (p.folders.flatMap (· ++ ['/']) ++ p.leaf)

/-- Is this one of the spellings of a single dot? -/
def isDot (segment : List Char) : Bool :=
  [".", "%2e", "%2E"].any fun spelling => segment == spelling.toList

/-- Is this one of the spellings of two dots? -/
def isDots (segment : List Char) : Bool :=
  ["..", "%2e%2e", "%2e%2E", "%2E%2e", "%2E%2E", "%2e.", "%2E.", ".%2e", ".%2E"].any
    fun spelling => segment == spelling.toList

/-- Goes into a folder, where one dot means to stay and two dots mean to
go back. -/
def enter (folders : List (List Char)) (segment : List Char) : List (List Char) :=
  if isDots segment then folders.dropLast
  else if isDot segment then folders
  else folders ++ [segment]

/-- The path that ends with a segment inside some folders. -/
def close (folders : List (List Char)) (segment : List Char) : Path :=
  if isDots segment then ⟨folders.dropLast, []⟩
  else if isDot segment then ⟨folders, []⟩
  else ⟨folders, segment⟩

/-- Follows segments from some folders on. -/
def follow (folders : List (List Char)) : List (List Char) → Path
  | [] => ⟨folders, []⟩
  | [segment] => close folders segment
  | segment :: rest => follow (enter folders segment) rest

/-- The path without the slash at its end, if it has more than that. -/
def trim (p : Path) : Path :=
  if p.leaf = [] then
    match p.folders.getLast? with
    | none => p
    | some last => ⟨p.folders.dropLast, last⟩
  else p

/-- All segments of a path as folders; the path `/` has none. -/
def asFolders (p : Path) : List (List Char) :=
  if p.folders = [] ∧ p.leaf = [] then [] else p.folders ++ [p.leaf]

/-- Tabs and line breaks, which a URL does not keep. -/
def isDropped (c : Char) : Bool := c == '\t' || c == '\n' || c == '\r'

/-- Goes one segment down.  The segments `.` and `..` are left out; a
segment that becomes one of them by losing characters is followed. -/
def child (p : Path) (segment : String) : Path :=
  if segment = "." ∨ segment = ".." then p
  else
    close p.asFolders
      (Percent.encode Percent.segment (segment.toList.filter fun c => !isDropped c))

end Path

namespace Url

/-- The written form of a user, in front of the host. -/
def userText (u : User) : List Char :=
  if u.name = [] ∧ u.password = none then []
  else u.name ++ (u.password.elim [] (':' :: ·)) ++ ['@']

/-- The written form of user, host and port. -/
def authorityText (user : User) (host : List Char) (port : Option Nat) : List Char :=
  userText user ++ host ++ port.elim [] fun port => ':' :: Decimal.text port

/-- The written form of what follows a path. -/
def behindPath (query fragment : Option (List Char)) : List Char :=
  query.elim [] ('?' :: ·) ++ fragment.elim [] ('#' :: ·)

/-- The written form of an address up to its path. -/
def originText (u : Url) : List Char :=
  u.scheme.name ++ "://".toList ++ authorityText u.user u.host.text u.port

/-- The written form of what follows the path of an address. -/
def tailText (u : Url) : List Char := behindPath u.query u.fragment

/-- The characters of the written form of an address. -/
def written (u : Url) : List Char := u.originText ++ u.path.text ++ u.tailText

/-- The written form of an address. -/
def text (u : Url) : String := String.ofList u.written

/-- Can a request be made for the address?  The grammar of requests is a little
narrower than that of addresses: nothing may be left of an address behind this
many characters, and no host has one of these signs. -/
def isRequestable (u : Url) : Bool :=
  (u.written.drop 0xFFFE).isEmpty && !u.host.text.any "\"`\x7b\x7d".toList.contains

/-- The address without its user. -/
def withoutUser (u : Url) : Url := { u with user := {} }

/-- The address one segment down. -/
def child (u : Url) (segment : String) : Url := { u with path := u.path.child segment }

/-- The address without a slash at the end of its path. -/
def trim (u : Url) : Url := { u with path := u.path.trim }

end Url

end OrderDesk
