import PlatformLauncher.Host.Address
import PlatformLauncher.Host.Name
import PlatformLauncher.Text.Octets

/-!
Which texts are web addresses of the kinds an installer fetches from. A text is judged by itself: no
file decides.
-/
namespace PlatformLauncher.Url

/-- Web schemes have a host whatever their slashes; a file may have one; the others have one only
behind two slashes. -/
inductive Scheme where
  | web
  | file
  | repository
deriving DecidableEq, Repr

def schemes : List (Text × Scheme) :=
  [("http".toList, .web), ("https".toList, .web), ("git".toList, .repository),
    ("git+https".toList, .repository), ("git+ssh".toList, .repository), ("file".toList, .file)]

def isControlOrSpace (c : Char) : Bool := c.toNat ≤ 0x20

def cleaned (s : Text) : Text :=
  (((s.dropWhile isControlOrSpace).reverse.dropWhile isControlOrSpace).reverse).filter fun c =>
    !(c = '\t' || c = '\n' || c = '\r')

def isSchemeChar (c : Char) : Bool := c.isAlphanum || c = '+' || c = '-' || c = '.'

def splitScheme? (s : Text) : Option (Text × Text) :=
  match Text.cutAt? ':' s with
  | some (c :: name, rest) =>
    if c.isAlpha && name.all isSchemeChar then some ((c :: name).map Char.toLower, rest) else none
  | _ => none

def isSlash (c : Char) : Bool := c = '/' || c = '\\'

/-- The end of the part that names the host; a backslash ends it where it counts as a slash. -/
def endsAuthority (backslash : Bool) (c : Char) : Bool :=
  c = '/' || c = '?' || c = '#' || (backslash && c = '\\')

def percentDecoded : Text → Octets
  | '%' :: a :: b :: r =>
    match Text.hexDigit? a, Text.hexDigit? b with
    | some x, some y => UInt8.ofNat (16 * x + y) :: percentDecoded r
    | _, _ => Octets.ofChar '%' ++ percentDecoded (a :: b :: r)
  | c :: r => Octets.ofChar c ++ percentDecoded r
  | [] => []

def bracketed? (host : Text) : Option (Option Text) :=
  match host with
  | '[' :: r => some (Text.dropSuffix? [']'] r)
  | _ => none

def isHost (host : Text) : Bool :=
  match bracketed? host with
  | some inner => (inner.map Host.isIpv6).getD false
  | none =>
    match (Octets.decode? (percentDecoded host)).bind Host.accepted? with
    | none => false
    | some name => !name.isEmpty && (!Host.endsInNumber name || Host.isIpv4 name)

def isOpaqueHost (host : Text) : Bool :=
  match bracketed? host with
  | some inner => (inner.map Host.isIpv6).getD false
  | none => !host.any fun c => c = '\x00' || " \t\r\n#/:<>?@[\\]^|".toList.contains c

/-- The host up to the colon of the port; a colon in brackets belongs to the host. -/
def splitPort : Bool → Text → Text × Option Text
  | _, [] => ([], none)
  | inBrackets, c :: s =>
    if c = ':' && !inBrackets then ([], some s)
    else
      let (host, port) := splitPort (if c = '[' then true else if c = ']' then false else inBrackets) s
      (c :: host, port)

def isPort (port : Text) : Bool :=
  let digits := port.takeWhile fun c => !isSlash c
  digits.all Char.isDigit && Numeral.value digits ≤ 65535

def splitUser (authority : Text) : Option Text × Text :=
  match Text.cutAt? '@' authority.reverse with
  | none => (none, authority)
  | some (host, user) => (some user.reverse, host.reverse)

def namesUser (user : Option Text) : Bool :=
  match user with
  | none | some [] | some [':'] => false
  | some _ => true

def isAuthority (scheme : Scheme) (s : Text) : Bool :=
  let web := scheme == .web
  let authority := s.takeWhile fun c => !endsAuthority web c
  let atEnd := (s.dropWhile fun c => !endsAuthority web c).isEmpty
  let (user, rest) := splitUser authority
  let (host, port) := splitPort false rest
  let portFits := (port.map isPort).getD true
  if user = some [] && rest.isEmpty && !atEnd then false
  else if host.isEmpty then !web && port.isNone && !namesUser user
  else (if web then isHost host else isOpaqueHost host) && portFits

def isDrive (s : Text) : Bool :=
  match s with
  | [letter, mark] => letter.isAlpha && (mark = ':' || mark = '|')
  | _ => false

def isFileHost (s : Text) : Bool :=
  let host := s.takeWhile fun c => !endsAuthority true c
  host.isEmpty || isDrive host || isHost host

def isBody (scheme : Scheme) (s : Text) : Bool :=
  match scheme with
  | .web => isAuthority .web (s.dropWhile isSlash)
  | .repository =>
    match s with
    | '/' :: '/' :: r => isAuthority .repository r
    | _ => true
  | .file =>
    match s with
    | a :: b :: r => if isSlash a && isSlash b then isFileHost r else true
    | _ => true

def scheme? (s : Text) : Option Scheme :=
  match splitScheme? (cleaned s) with
  | none => none
  | some (name, rest) =>
    match schemes.lookup name with
    | none => none
    | some scheme => if isBody scheme rest then some scheme else none

def isUrl (s : Text) : Bool := (scheme? s).isSome

end PlatformLauncher.Url
