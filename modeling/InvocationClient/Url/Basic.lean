import InvocationClient.Text.Quoted
import InvocationClient.Text.Split

/-! # URLs

A URL taken apart into its components by the generic syntax of RFC 3986. Every text has these
components; whether they can be used is another question, and a fault tells why no request can be
made to a URL.
-/

namespace InvocationClient

namespace Url

inductive Fault where
  | tooLong
  | control (c : Char) (place : Nat)
  | address4 (host : String)
  | address6 (host : String)
  | name (host : String)
  | port (text : String)
  | doubleSlash
  | leadingColon
  deriving DecidableEq, Repr

def Fault.message : Fault → String
  | tooLong => "URL too long"
  | control c place =>
    "Invalid non-printable ASCII character in URL, " ++ Text.quoted (String.singleton c) ++
      " at position " ++ toString place ++ "."
  | address4 host => "Invalid IPv4 address: " ++ Text.quoted host
  | address6 host => "Invalid IPv6 address: " ++ Text.quoted host
  | name host => "Invalid IDNA hostname: " ++ Text.quoted host
  | port text => "Invalid port: " ++ Text.quoted text
  | doubleSlash => "Relative URLs cannot have a path starting with '//'"
  | leadingColon => "Relative URLs cannot have a path starting with ':'"

end Url

/-- Who a URL belongs to. What comes behind the host, less one colon, counts as its port. -/
structure Authority where
  userinfo : Option (List Char) := none
  host : List Char
  port : List Char := []
  deriving DecidableEq, Repr

namespace Authority

/-- A host in brackets reaches up to the last closing one, any other up to the first colon. -/
def splitHost (cs : List Char) : List Char × List Char :=
  match if cs.head? = some '[' then Text.splitLast? (· = ']') cs else none with
  | some (host, behind) => (host ++ [']'], behind)
  | none => cs.span (· ≠ ':')

/-- The last at sign ends the user information. -/
def ofChars (cs : List Char) : Authority :=
  let (userinfo, site) := match Text.splitLast? (· = '@') cs with
    | some (userinfo, site) => (some userinfo, site)
    | none => (none, cs)
  let (host, behind) := splitHost site
  { userinfo, host, port := if behind.head? = some ':' then behind.tail else behind }

end Authority

structure Url where
  scheme : List Char := []
  authority : Option Authority := none
  path : List Char
  query : Option (List Char) := none
  fragment : Option (List Char) := none
  deriving DecidableEq, Repr

namespace Url

/-- An empty scheme is one too. -/
def isScheme : List Char → Bool
  | [] => true
  | c :: cs => c.isAlpha && cs.all fun d => d.isAlphanum || d = '+' || d = '.' || d = '-'

def splitScheme (cs : List Char) : List Char × List Char :=
  match Text.splitFirst? (· = ':') cs with
  | some (scheme, rest) => if isScheme scheme then (scheme, rest) else ([], cs)
  | none => ([], cs)

def splitAuthority : List Char → Option Authority × List Char
  | '/' :: '/' :: cs =>
    let (authority, rest) := cs.span fun c => c ≠ '/' && c ≠ '?' && c ≠ '#'
    (some (.ofChars authority), rest)
  | cs => (none, cs)

def splitFrom (mark : Char) (cs : List Char) : List Char × Option (List Char) :=
  match Text.splitFirst? (· = mark) cs with
  | some (before, component) => (before, some component)
  | none => (cs, none)

def ofChars (cs : List Char) : Url :=
  let (scheme, cs) := splitScheme cs
  let (authority, cs) := splitAuthority cs
  let (cs, fragment) := splitFrom '#' cs
  let (path, query) := splitFrom '?' cs
  { scheme, authority, path, query, fragment }

def ofString (s : String) : Url := ofChars s.toList

example : ofString "http://u@h:9/a?b#c" =
    { scheme := "http".toList
      authority := some ⟨some ['u'], ['h'], ['9']⟩
      path := "/a".toList
      query := some ['b']
      fragment := some ['c'] } := by
  decide +kernel

example : (ofString "http://[::1]:9001").authority = some ⟨none, "[::1]".toList, "9001".toList⟩ ∧
    (ofString "http://[::1").authority = some ⟨none, ['['], ":1".toList⟩ := by
  decide +kernel

def host (u : Url) : List Char := (u.authority.map (·.host)).getD []

def port (u : Url) : List Char := (u.authority.map (·.port)).getD []

/-- A URL that does not say by itself where it leads. -/
def isRelative (u : Url) : Bool := u.scheme.isEmpty || u.host.isEmpty

def target (u : Url) : List Char :=
  u.path ++ (match u.query with
    | some query => '?' :: query
    | none => [])

/-- A relative URL is taken as a path below the root. -/
def rooted (u : Url) : List Char := '/' :: u.target.dropWhile (· = '/')

end Url

end InvocationClient
