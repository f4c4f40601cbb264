import ApiFlow.Address.Host

/-!
# Addresses

An address is split into scheme, authority, path, query and fragment.  Control characters and blanks in front are dropped,
and so are tabs and line ends anywhere.  A question mark or a number sign with nothing behind it is not kept.

* `split` cuts an address, and refuses an authority with a lone bracket, with brackets around what is no host, or with a
  character that would read as a delimiter once it is brought into its plain form.
* `join` puts the parts together again.
-/

set_option autoImplicit false

namespace ApiFlow

structure Address where
  scheme : Text := []
  authority : Text := []
  path : Text := []
  query : Text := []
  fragment : Text := []
  deriving DecidableEq, Repr

namespace Address

/-- A character that is dropped in front of an address. -/
def isLeading (c : Char) : Bool := c.toNat ≤ 32

/-- A character that is dropped anywhere. -/
def isDropped (c : Char) : Bool := c = '\t' || c = '\n' || c = '\r'

/-- A letter a scheme may begin with. -/
def startsScheme (c : Char) : Bool := c.isAlpha

def isSchemeChar (c : Char) : Bool := c.isAlphanum || c = '+' || c = '-' || c = '.'

/-- A text as scheme and rest; the scheme is in lower case, and empty if the text has none. -/
def splitScheme (s : Text) : Text × Text :=
  match s.takeWhile (· != ':'), s.dropWhile (· != ':') with
  | c :: scheme, _ :: rest =>
    if startsScheme c && (c :: scheme).all isSchemeChar then ((c :: scheme).map Char.toLower, rest) else ([], s)
  | _, _ => ([], s)

/-- A character that ends the authority. -/
def endsAuthority (c : Char) : Bool := c = '/' || c = '?' || c = '#'

/-- A text as authority and rest; only two slashes in front open an authority. -/
def splitAuthority : Text → Text × Text
  | '/' :: '/' :: s => (s.takeWhile (!endsAuthority ·), s.dropWhile (!endsAuthority ·))
  | s => ([], s)

/-- A text as what stands before a mark and what stands behind it. -/
def splitOff (mark : Char) (s : Text) : Text × Text := (Text.cutAt? mark s).getD (s, [])

/-- The characters outside ASCII whose plain form holds a slash, a question mark, a number sign, an at sign or a
colon. -/
def disguises : List Nat :=
  [0x2047, 0x2048, 0x2049, 0x2100, 0x2101, 0x2105, 0x2106, 0x2a74, 0xfe13, 0xfe16, 0xfe55, 0xfe56, 0xfe5f, 0xfe6b,
    0xff03, 0xff0f, 0xff1a, 0xff1f, 0xff20]

/-- Refuses an authority that cannot be one. -/
def checkAuthority (authority : Text) : Except Error Unit :=
  if authority.contains '[' != authority.contains ']' then .error .loneBracket
  else do
    if authority.contains '[' then checkBrackets authority
    if authority.any fun c => disguises.contains c.toNat then .error (.disguisedDelimiter authority)
    return ()

def split (text : Text) : Except Error Address :=
  let clean := (text.dropWhile isLeading).filter (!isDropped ·)
  let (scheme, rest) := splitScheme clean
  let (authority, rest) := splitAuthority rest
  let (rest, fragment) := splitOff '#' rest
  let (path, query) := splitOff '?' rest
  (checkAuthority authority).map fun _ => { scheme, authority, path, query, fragment }

/-- The schemes whose addresses have an authority, if only an empty one. -/
def authoritySchemes : List Text :=
  ["ftp", "http", "gopher", "nntp", "telnet", "imap", "wais", "file", "mms", "https", "shttp", "snews", "prospero",
    "rtsp", "rtspu", "rsync", "svn", "svn+ssh", "sftp", "nfs", "git", "git+ssh", "ws", "wss"]

/-- Whether a text begins with two slashes. -/
def opensAuthority (s : Text) : Bool := ['/', '/'].isPrefixOf s

/-- The authority and the path of an address, with the slashes that belong to them. -/
def authorityText (a : Address) : Text :=
  if !a.authority.isEmpty || (authoritySchemes.contains a.scheme && !opensAuthority a.path) then
    let path := if a.path.isEmpty || a.path.head? = some '/' then a.path else '/' :: a.path
    '/' :: '/' :: a.authority ++ path
  else a.path

def join (a : Address) : Text :=
  (if a.scheme.isEmpty then [] else a.scheme ++ [':']) ++ a.authorityText
    ++ (if a.query.isEmpty then [] else '?' :: a.query)
    ++ (if a.fragment.isEmpty then [] else '#' :: a.fragment)

end Address

end ApiFlow
