import TexTranscript.Link.Host

/-!
# Web addresses

A web address is a scheme and, after a colon, an authority, a path, a query and a
fragment, of which only the path is always there. It is read in the lenient way of
browsers, and each part is kept in the one form in which it is written back.

* Controls and spaces around the address count for nothing, tabs and line breaks
  nowhere.
* Schemes of the network – `http` and its kin – always have an authority, however
  many slashes stand before it, and a backslash is as good as a slash in them. So
  it is for `file`, whose host may be empty.
* With any other scheme the authority is what follows two slashes. If there is
  not even one slash, the path is taken as it is.
* In a path, `.` and `..` are followed, except that nothing leads out of a drive
  (`C:`).

## Main definitions

* `Url` – the parts of an address; `Url.text`, the address.
* `Url.read` – reads an address.
* `Url.withQuery` – an address with another query.
-/

namespace TexTranscript

/-- **A web address**, in parts that are already encoded. -/
structure Url where
  scheme : Text
  /-- What follows the two slashes, if there are any. -/
  authority : Option Text
  path : Text
  query : Option Text := none
  fragment : Option Text := none
deriving Repr, DecidableEq, Inhabited

namespace Url

/-- The address as a text. A path that begins with two slashes gets a `/.` in front
when there is no authority for which it could be kept apart. -/
def text (u : Url) : Text :=
  u.scheme ++ [':'] ++
    (match u.authority with
      | some a => ['/', '/'] ++ a
      | none => if Text.startsWith ['/', '/'] u.path then ['/', '.'] else []) ++
    u.path ++
    (match u.query with
      | some q => '?' :: q
      | none => []) ++
    (match u.fragment with
      | some f => '#' :: f
      | none => [])

/-- The address with another query, of which each character stands for itself. -/
def withQuery (u : Url) (q : Text) : Url := { u with query := some q }

/-! ### Breaks -/

/-- Tabs and line breaks, which count for nothing. -/
def isBreak (c : Char) : Bool := c = '\t' || c = '\n' || c = '\r'

/-- A text without its tabs and line breaks. -/
def unbroken (t : Text) : Text := t.filter (!isBreak ·)

/-! ### What stands for itself -/

/-- In a fragment. -/
def inFragment (b : UInt8) : Bool :=
  Host.isPrintable b && !([0x20, 0x22, 0x3C, 0x3E, 0x60] : List UInt8).contains b

/-- In a path. -/
def inPath (b : UInt8) : Bool :=
  inFragment b && !([0x23, 0x3F, 0x7B, 0x7D] : List UInt8).contains b

/-- In the name of a user. -/
def inUserInfo (b : UInt8) : Bool :=
  inPath b &&
    !([0x2F, 0x3A, 0x3B, 0x3D, 0x40, 0x5B, 0x5C, 0x5D, 0x5E, 0x7C] : List UInt8).contains b

/-- In a query, where an apostrophe is encoded for the schemes of the network. -/
def inQuery (network : Bool) (b : UInt8) : Bool :=
  Host.isPrintable b && !([0x20, 0x22, 0x23, 0x3C, 0x3E] : List UInt8).contains b &&
    !(network && b == 0x27)

/-! ### Schemes -/

/-- How the rest of an address is read. -/
inductive Kind where
  | network
  | file
  | other
deriving Repr, DecidableEq

/-- The sockets that the schemes of the network use by themselves. -/
def networkSchemes : List (Text × Nat) :=
  [("http", 80), ("https", 443), ("ws", 80), ("wss", 443), ("ftp", 21)].map
    fun (scheme, socket) => (scheme.toList, socket)

/-- The kind of a scheme. -/
def kind (scheme : Text) : Kind :=
  if scheme = "file".toList then .file
  else if (networkSchemes.lookup scheme).isSome then .network
  else .other

/-- A slash, or what is as good as one. -/
def isSlash (k : Kind) (c : Char) : Bool := c = '/' || (k ≠ .other && c = '\\')

/-- The scheme of an address, and what follows the colon. -/
def splitScheme? (t : Text) : Option (Text × Text) :=
  match unbroken (t.takeWhile (· ≠ ':')), t.dropWhile (· ≠ ':') with
  | c :: name, _ :: rest =>
    if c.isAlpha ∧ name.all (fun c => c.isAlphanum || c = '+' || c = '-' || c = '.') then
      some ((c :: name).map Char.toLower, rest)
    else none
  | _, _ => none

/-! ### The authority -/

/-- What stands in front of the last `@` of an authority, as it is written back, and
what follows it. -/
def userInfo (authority : Text) : Except Refusal (Text × Text) :=
  let rest := Text.afterLast '@' authority
  if rest.length = authority.length then .ok ([], authority)
  else
    let info := authority.take (authority.length - rest.length - 1)
    let user := Percent.encodeText inUserInfo (info.takeWhile (· ≠ ':'))
    let password := Percent.encodeText inUserInfo ((info.dropWhile (· ≠ ':')).drop 1)
    if info = [] ∧ rest = [] then .error .noHost
    else if user = [] ∧ password = [] then .ok ([], rest)
    else .ok (user ++ (if password = [] then [] else ':' :: password) ++ ['@'], rest)

/-- Cuts off the host, up to a colon that stands outside of square brackets. -/
def splitHost (inBrackets : Bool) : Text → Text × Text
  | [] => ([], [])
  | c :: t =>
    if c = ':' ∧ !inBrackets then ([], c :: t)
    else
      let (host, rest) := splitHost (c = '[' || (inBrackets && c ≠ ']')) t
      (c :: host, rest)

/-- The number of a socket, which is left out where the scheme implies it. What
follows the digits is given back. -/
def socket (scheme t : Text) : Except Refusal (Text × Text) :=
  let digits := t.takeWhile Char.isDigit
  let rest := t.dropWhile Char.isDigit
  match Address.number? 10 digits, rest with
  | some n, [] | some n, '\\' :: _ =>
    if 0xFFFF < n then .error .badSocket
    else if digits = [] ∨ networkSchemes.lookup scheme = some n then .ok ([], rest)
    else .ok (':' :: (toString n).toList, rest)
  | _, _ => .error .badSocket

/-- Reads an authority, without the slash that ends it. What follows it is given
back; only outside the network this can be anything, namely what a backslash
begins. -/
def authorityParts (scheme t : Text) : Except Refusal (Text × Text) := do
  let k := kind scheme
  let (info, t) ← userInfo t
  let (name, rest) := splitHost false t
  if name = [] ∧ (k = .network ∨ info ≠ [] ∨ rest ≠ []) then throw .noHost
  let host ← if k = .other then Host.plain name else Host.domain name
  let (number, rest) ← match rest with
    | ':' :: t => socket scheme t
    | _ => pure ([], rest)
  return (info ++ host ++ number, rest)

/-! ### The path -/

/-- A letter and a colon, or the bar that is written for it in places. -/
def isDrive : Text → Bool
  | [c, d] => c.isAlpha && (d = ':' || d = '|')
  | _ => false

/-- The parts of a path between its slashes. -/
def segments (k : Kind) : Text → List Text
  | [] => [[]]
  | c :: t =>
    if isSlash k c then [] :: segments k t
    else match segments k t with
      | [] => [[c]]
      | s :: ss => (c :: s) :: ss

/-- The number of dots that a part is made of, if it is made of dots, encoded or
not. -/
def dots (s : Text) : Option Nat :=
  match s with
  | [] => some 0
  | '.' :: t => (dots t).map (· + 1)
  | '%' :: '2' :: 'e' :: t | '%' :: '2' :: 'E' :: t => (dots t).map (· + 1)
  | _ => none

/-- What follows a drive and a break in one part of a path, if there is anything. -/
def afterDrive? (s : Text) : Option (Text × Text) :=
  match s.span (· ≠ ':') with
  | (a, ':' :: t) =>
    let drive := unbroken a ++ [':']
    if isDrive drive ∧ (t.head?.map isBreak).getD false ∧ unbroken t ≠ [] then
      some (drive, unbroken t)
    else none
  | _ => none

/-- Where a path has led to. -/
structure Trail where
  /-- The parts on the way, the last one first. -/
  parts : List Text := []
  /-- The way began with a drive. -/
  drive : Bool := false

namespace Trail

/-- Follows one more part of a path; `isLast` when nothing comes after it. In a file,
the first part is a drive with a bar as well as with a colon. What a break separates
from a drive is a part of its own, and stands for itself. -/
def follow (k : Kind) (isLast : Bool) (t : Trail) (segment : Text) : Trail :=
  let s := Percent.encodeText inPath (unbroken segment)
  let close (parts : List Text) := if isLast then [] :: parts else parts
  match dots s with
  | some 1 => { t with parts := close t.parts }
  | some 2 =>
    let stays := (t.parts.head?.map isDrive).getD false
    { t with parts := close (if stays then t.parts else t.parts.tail) }
  | _ =>
    if k = .file ∧ t.parts = [] then
      match afterDrive? segment with
      | some (drive, rest) => { t with parts := [Percent.encodeText inPath rest, drive] }
      | none =>
        if isDrive s then ⟨[s.take 1 ++ [':']], true⟩ else { t with parts := [s] }
    else { t with parts := s :: t.parts }

/-- Follows the parts of a path, the last one included. -/
def followAll (k : Kind) (t : Trail) : List Text → Trail
  | [] => t
  | [s] => follow k true t s
  | s :: ss => followAll k (follow k false t s) ss

/-- The path that leads along a trail. The path of a file begins with one slash. -/
def path (k : Kind) (t : Trail) : Text :=
  let p := Text.join ['/'] t.parts.reverse
  '/' :: if k = .file then p.dropWhile (· = '/') else p

end Trail

/-- Follows a path that begins with a slash, from what comes after that slash. -/
def trail (k : Kind) (t : Text) : Trail := Trail.followAll k {} (segments k t)

/-- A path that begins with a slash, with what follows that slash. -/
def rooted (k : Kind) (t : Text) : Text := (trail k t).path k

/-- What follows the slash that begins a text, if there is one. -/
def afterSlash? (k : Kind) (t : Text) : Option Text :=
  match t.dropWhile isBreak with
  | c :: t => if isSlash k c then some t else none
  | [] => none

/-- A text without the slash that begins it, if there is one. -/
def dropSlash (k : Kind) (t : Text) : Text := (afterSlash? k t).getD t

/-! ### Addresses -/

/-- Authority and path of an address of the network. -/
def networkParts (scheme t : Text) : Except Refusal (Option Text × Text) := do
  let t := t.dropWhile (isSlash .network)
  let (a, _) ← authorityParts scheme (t.takeWhile (!isSlash .network ·))
  return (some a, rooted .network (dropSlash .network (t.dropWhile (!isSlash .network ·))))

/-- Authority and path of a file, from a text that may still hold breaks. A drive can
stand where a host would, and a path with a drive belongs to no host but this one,
which has no name, or the name `localhost`. -/
def fileParts (t : Text) : Except Refusal (Option Text × Text) := do
  let some t := (afterSlash? .file t).bind (afterSlash? .file ·)
    | return (some [], rooted .file (dropSlash .file t))
  let name := t.takeWhile (!isSlash .file ·)
  let rest := t.drop name.length
  if unbroken name = [] ∨ isDrive (unbroken name) then return (some [], rooted .file t)
  let host ← Host.domain (unbroken name)
  if host = "localhost".toList then return (some [], rooted .file rest)
  let way := trail .file (dropSlash .file rest)
  return (some (if way.drive then [] else host), way.path .file)

/-- Authority and path of an address outside the network. -/
def otherParts (scheme t : Text) : Except Refusal (Option Text × Text) := do
  match t with
  | '/' :: '/' :: t =>
    let (a, rest) ← authorityParts scheme (t.takeWhile (· ≠ '/'))
    let p := rest ++ t.dropWhile (· ≠ '/')
    return (some a, if p = [] then [] else rooted .other (dropSlash .other p))
  | '/' :: t => return (none, rooted .other t)
  | t => return (none, Percent.encodeText Host.isPrintable t)

/-- What stands in front of the first `c`, and what follows it, if it occurs. -/
def cutAt (c : Char) (t : Text) : Text × Option Text :=
  match t.dropWhile (· ≠ c) with
  | [] => (t, none)
  | _ :: rest => (t.takeWhile (· ≠ c), some rest)

/-- **Reads a web address.** -/
def read (t : Text) : Except Refusal Url := do
  let some (scheme, t) := splitScheme? (Text.stripBy (· ≤ ' ') t) | throw .noScheme
  let (t, fragment) := cutAt '#' t
  let (t, query) := cutAt '?' t
  let (authority, path) ← match kind scheme with
    | .network => networkParts scheme (unbroken t)
    | .file => fileParts t
    | .other => otherParts scheme (unbroken t)
  return { scheme, authority, path
           query := query.map (Percent.encodeText (inQuery (kind scheme ≠ .other)) ∘ unbroken)
           fragment := fragment.map (Percent.encodeText inFragment ∘ unbroken) }

end Url

end TexTranscript
