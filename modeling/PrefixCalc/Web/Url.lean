import PrefixCalc.Decimal.Integer
import PrefixCalc.Domain.Name
import PrefixCalc.Text.DecimalDigit
import PrefixCalc.Web.Address
import PrefixCalc.Web.Percent

/-!
# URLs

A URL in its usual form: scheme and host in small letters and in ASCII, no number behind the host
where it is the scheme's own, no path segments that only stay or go back, and characters that may
not stand in a part percent encoded. A text that names no scheme or no host is a bare path.

## Main definitions

* `Url`: a URL.
* `Url.Refusal`: why a text is no URL.
* `Url.ofText`: the URL that a text is, with another query.
* `Url.text`: a URL as text.
-/

namespace PrefixCalc.Web

/-- A URL. -/
structure Url where
  /-- Scheme and host, with what stands around the host. It is empty in a bare path. -/
  origin : String
  path : String
  /-- The query, without its question mark. -/
  query : String := ""
  /-- The fragment, without its mark. -/
  fragment : Option String := none
  deriving DecidableEq, Repr

namespace Url

/-- Why a text is no URL that a request can be sent to. -/
inductive Refusal where
  /-- A part is malformed. -/
  | malformed
  /-- The host starts with a label behind `xn--`, and something is wrong with a label. -/
  | domain (f : Domain.Fault)
  /-- The zone of a numeric host is not ASCII. -/
  | zone
  deriving DecidableEq, Repr

/-- A URL as text. -/
def text (u : Url) : String :=
  u.origin ++ u.path ++ (if u.query.isEmpty then "" else "?" ++ u.query) ++
    (u.fragment.elim "" ("#" ++ ·))

/-- A URL with a scheme and a host. -/
def isAbsolute (u : Url) : Bool :=
  !u.origin.isEmpty

/-! ### Characters -/

/-- The visible ASCII characters without some of them. -/
def isVisibleBut (excluded : String) (c : Char) : Bool :=
  0x20 < c.toNat && c.toNat < 0x7F && !excluded.toList.contains c

/-- The characters that may stand in a path. -/
def isPathChar : Char → Bool :=
  isVisibleBut "\"#<>?`\x7b\x7d"

/-- The characters that may stand in a fragment. -/
def isFragmentChar : Char → Bool :=
  isVisibleBut "\"<>`"

/-- The characters that may stand before the host. -/
def isUserChar : Char → Bool :=
  isVisibleBut "\"#<>?`\x7b\x7d/;=@[\\]^|"

/-- The characters that may stand in a host. -/
def isHostChar : Char → Bool :=
  isVisibleBut "#/:<>?@[]^"

/-- An ASCII character that is not visible and not a blank. -/
def isControl (c : Char) : Bool :=
  c.toNat < 0x20 || c.toNat == 0x7F

/-! ### Scheme -/

/-- A character of a scheme behind its first letter. -/
def isSchemeChar (c : Char) : Bool :=
  c.isAlphanum || c == '+' || c == '.' || c == '-'

/-- The scheme before a colon, which may be empty, and the rest. -/
def splitScheme (cs : List Char) : List Char × List Char :=
  let name := cs.takeWhile isSchemeChar
  match cs.dropWhile isSchemeChar with
  | ':' :: rest => if name.isEmpty || name.head?.any Char.isAlpha then (name, rest) else ([], cs)
  | _ => ([], cs)

/-- The number that a scheme has for its hosts. -/
def ownNumber? (scheme : String) : Option Int :=
  [("ftp", 21), ("http", 80), ("https", 443), ("ws", 80), ("wss", 443)].lookup scheme

/-! ### Host -/

/-- What stands before the last at-sign, and behind it. -/
def splitUser (authority : List Char) : List Char × List Char :=
  if authority.contains '@' then
    let host := (authority.reverse.takeWhile (· != '@')).reverse
    (((authority.reverse.dropWhile (· != '@')).drop 1).reverse, host)
  else ([], authority)

/-- The host and what follows it. A host in brackets may hold colons. -/
def splitHost (cs : List Char) : List Char × List Char :=
  if cs.head? = some '[' ∧ cs.contains ']' then
    ((cs.reverse.dropWhile (· != ']')).reverse, (cs.reverse.takeWhile (· != ']')).reverse)
  else (cs.takeWhile (· != ':'), cs.dropWhile (· != ':'))

/-- The value of a digit of any script. -/
def digitValue? (c : Char) : Option Nat :=
  (Text.digitZeros.find? fun z => z ≤ c.toNat && c.toNat < z + 10).map (c.toNat - ·)

/-- Digits, with single underscores between them. -/
def digits? (cs : List Char) : Option (List Nat) :=
  let parts := Text.splitAt '_' cs
  if parts.all (!·.isEmpty) then parts.flatten.mapM digitValue? else none

/-- The number behind a host: a sign, if there is one, and no more digits than an integer may be
written with. -/
def number? (cs : List Char) : Option Int := do
  let cs := Text.trimEnds Text.isBlank cs
  let (negative, unsigned) :=
    match cs with
    | '+' :: r => (false, r)
    | r => Decimal.splitSign r
  let ds ← digits? unsigned
  if ds.length ≤ Decimal.maxDigits then
    some (Decimal.signed negative (ds.foldl (fun n d => n * 10 + d) 0))
  else none

/-- A host in its usual form: a numeric address as it is, another host in ASCII. -/
def hostForm? (cs : List Char) : Option (List Char) :=
  if cs.isEmpty then some []
  else if Address.looksShort cs then if Address.isShort cs then some cs else none
  else if cs.head? = some '[' ∧ cs.getLast? = some ']' then
    if 1 < cs.length ∧ Address.isLong cs.tail.dropLast then some cs else none
  else if cs.all (·.toNat < 0x80) then
    some (Percent.quote isHostChar (cs.map Char.toLower))
  else Domain.ascii? cs

/-- What stands between the scheme and the path. -/
structure Authority where
  user : List Char
  host : List Char
  number : Option Int
  deriving DecidableEq, Repr

/-- An authority names something. -/
def Authority.isNamed (a : Authority) : Bool :=
  !a.user.isEmpty || !a.host.isEmpty || a.number.isSome

/-- An authority as text. -/
def Authority.text (a : Authority) : List Char :=
  (if a.user.isEmpty then [] else a.user ++ ['@']) ++ a.host ++
    (a.number.elim [] fun n => ':' :: (Decimal.text n).toList)

/-- The authority that a text is, without a number that is the scheme's own. -/
def Authority.ofText? (scheme : String) (cs : List Char) : Option Authority := do
  let (user, rest) := splitUser cs
  let (host, rest) := splitHost rest
  let written := if rest.head? = some ':' then rest.drop 1 else rest
  let number ← if written.isEmpty then some none else (number? written).map some
  some
    { user := Percent.quote isUserChar user
      host := ← hostForm? host
      number := if number = ownNumber? scheme then none else number }

/-- What keeps a request from being sent to a host. -/
def hostRefusal? (host : List Char) : Option Refusal :=
  if host.all (·.toNat < 0x80) then
    if Domain.codePrefix.isPrefixOf host then (Domain.nameFault? host).map .domain else none
  else some .zone

/-! ### Path -/

/-- The segments of a path with one more: `.` stays where it is, and `..` goes back one segment,
but not over the root. -/
def walk (before : List (List Char)) : List Char → List (List Char)
  | ['.'] => before
  | ['.', '.'] => if before = [[]] then before else before.dropLast
  | segment => before ++ [segment]

/-- A path without segments that only stay or go back. -/
def straighten (path : List Char) : List Char :=
  List.intercalate ['/'] ((Text.splitAt '/' path).foldl walk [])

/-- A path may not start like something else. -/
def startsWrong (path : List Char) : Bool :=
  path.head? == some ':' || path.take 2 == ['/', '/']

/-! ### Texts -/

/-- A text and each of its parts may have at most so many characters. -/
def maxLength : Nat := 65536

/-- The parts of a text: what may stand before the path, the path, and the fragment. A query in the
text is dropped. -/
structure Parts where
  scheme : List Char
  authority : List Char
  path : List Char
  fragment : Option (List Char)
  deriving DecidableEq, Repr

/-- The parts of a text. -/
def Parts.ofText (cs : List Char) : Parts :=
  let (scheme, rest) := splitScheme cs
  let isPart := fun c => c != '?' && c != '#'
  let (authority, rest) :=
    match rest with
    | '/' :: '/' :: rest =>
      (rest.takeWhile fun c => isPart c && c != '/', rest.dropWhile fun c => isPart c && c != '/')
    | rest => ([], rest)
  { scheme := scheme.map Char.toLower
    authority
    path := rest.takeWhile isPart
    fragment := (rest.dropWhile (· != '#')).tail? }

/-- A URL whose parts are not too long. -/
def ofParts (origin path : List Char) (query : String) (fragment : Option (List Char)) :
    Except Refusal Url :=
  let lengths := [origin.length, path.length, query.length, (fragment.getD []).length]
  if lengths.all (· ≤ maxLength) then
    .ok
      { origin := String.ofList origin
        path := String.ofList path
        query
        fragment := fragment.map String.ofList }
  else .error .malformed

/-- The URL of parts that name a scheme and a host. The host is brought into its usual form once
more: percent encoding writes capital letters, and may make what is taken for a number. -/
def ofNamed (p : Parts) (a : Authority) (path : List Char) (query : String) :
    Except Refusal Url := do
  match hostForm? a.host with
  | none => .error .malformed
  | some host =>
    let origin := p.scheme ++ "://".toList ++ ({ a with host } : Authority).text
    let u ← ofParts origin path query (p.fragment.map (Percent.quote isFragmentChar))
    match hostRefusal? host with
    | some r => .error r
    | none => .ok u

/-- The URL that a text is, with a query. Of a text that names no scheme or no host only the path
is left, from the root. -/
def ofText (s query : String) : Except Refusal Url :=
  let p := Parts.ofText s.toList
  if s.toList.any isControl || maxLength < s.length then .error .malformed
  else
    match Authority.ofText? (String.ofList p.scheme) p.authority with
    | none => .error .malformed
    | some a =>
      let isNamed := !p.scheme.isEmpty || a.isNamed
      if !isNamed && startsWrong p.path then .error .malformed
      else
        let path := Percent.quote isPathChar (if isNamed then straighten p.path else p.path)
        if p.scheme.isEmpty || a.host.isEmpty then
          ofParts [] ('/' :: path.dropWhile (· == '/')) query none
        else ofNamed p a path query

end Url

end PrefixCalc.Web
