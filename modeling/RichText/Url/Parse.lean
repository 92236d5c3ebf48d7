import RichText.Url.Basic
import RichText.Url.FilePath
import RichText.Url.Host

/-!
# Parsing web addresses

An absolute URL from text, in its normal form. Blanks and controls around the text, and tabs and line
ends inside, do not count. Special schemes have a host and rules for it.
-/
namespace RichText.Url

/-! ## Schemes -/

def specialPort? (scheme : String) : Option (Option Nat) :=
  match scheme with
  | "http" => some (some 80)
  | "https" => some (some 443)
  | "ws" => some (some 80)
  | "wss" => some (some 443)
  | "ftp" => some (some 21)
  | "file" => some none
  | _ => none

def isSchemeChar (c : Char) : Bool := c.isAlphanum || c == '+' || c == '-' || c == '.'

def splitScheme? (cs : List Char) : Option (List Char × List Char) := do
  let (scheme, rest) ← Text.cut? ':' cs
  let scheme := dropBreaks scheme
  if scheme.head?.any Char.isAlpha ∧ scheme.all isSchemeChar then
    some (scheme.map Domain.toLower, rest)
  else none

/-! ## Authorities -/

def endsAuthority (special : Bool) (c : Char) : Bool := c == '/' || (special && c == '\\')

def splitUserinfo (authority : List Char) : Option (List Char) × List Char :=
  -- A user or a password may hold at signs itself: the last one counts.
  let host := (authority.reverse.takeWhile (· != '@')).reverse
  if host.length = authority.length then (none, authority)
  else (some (authority.take (authority.length - host.length - 1)), host)

/-- A user and a password, with a colon between them unless the password is empty, and an at sign
unless both are. -/
def writeUserinfo (userinfo : List Char) : List Char :=
  let encode := percentEncode EncodeSet.userinfo
  let written :=
    match Text.cut? ':' userinfo with
    | some (user, []) => encode user
    | some (user, password) => encode user ++ ':' :: encode password
    | none => encode userinfo
  if written.isEmpty then [] else written ++ ['@']

/-- The host, and from the colon of the port on. Colons between brackets belong to the host. -/
def splitPort (bracket : Bool) : List Char → List Char × List Char
  | [] => ([], [])
  | c :: rest =>
    if c = ':' ∧ !bracket then ([], c :: rest)
    else
      let (host, port) := splitPort (c = '[' ∨ (bracket ∧ c ≠ ']')) rest
      (c :: host, port)

def writePort? (implied : Option Nat) (digits : List Char) : Option (List Char) :=
  if !digits.all Text.isDigit then none
  else
    let port := Text.ofDigits digits
    if 65535 < port then none
    else if digits.isEmpty ∨ some port = implied then some []
    else some (':' :: Text.toDigits port)

structure Authority where
  userinfo : Option (List Char)
  host : List Char
  port : List Char

/-- The authority and the path after it. In every scheme a backslash ends the port. -/
def splitAuthority (special : Bool) (cs : List Char) : Authority × List Char :=
  let (authority, path) := Text.cutAt (endsAuthority special) cs
  let (userinfo, hostPort) := splitUserinfo authority
  let (host, port) := splitPort false hostPort
  let (port, rest) := Text.cutAt (· == '\\') port
  (⟨userinfo, host, port⟩, rest ++ path)

/-- An authority in normal form. Only a scheme without rules may leave out the host, and then there
is no user, no port, and behind an at sign nothing else (`followed` says if there is more). -/
def Authority.write? (special : Bool) (implied : Option Nat) (a : Authority) (followed : Bool) :
    Option (List Char) := do
  let userinfo := (a.userinfo.map writeUserinfo).getD []
  if a.host.isEmpty then
    if special ∨ !a.port.isEmpty ∨ !userinfo.isEmpty ∨ (a.userinfo = some [] ∧ followed) then none
    else some []
  else
    let host ← if special then Host.parse? a.host else Host.foreign? a.host
    let port ← writePort? implied (a.port.drop 1)
    some (userinfo ++ host ++ port)

/-! ## Bodies -/

def dropSeparator (special : Bool) : List Char → List Char
  | [] => []
  | c :: rest => if endsAuthority special c then rest else c :: rest

def specialBody? (implied : Option Nat) (cs : List Char) : Option (List Char) := do
  let (authority, path) := splitAuthority true (cs.dropWhile (endsAuthority true))
  let authority ← authority.write? true implied false
  some ('/' :: '/' :: (authority ++ Path.parse true (dropSeparator true path)))

def fileHost? (host : List Char) : Option (List Char) :=
  if host.isEmpty then some []
  else do
    let host ← Host.parse? host
    if host = "localhost".toList then some [] else some host

def dropSlash? (cs : List Char) : Option (List Char) :=
  match cs.dropWhile isBreak with
  | c :: rest => if endsAuthority true c then some rest else none
  | [] => none

def writeFile (host path : List Char) : List Char :=
  let path := FilePath.parse path
  '/' :: '/' :: ((if path.hasDrive then [] else host) ++ path.write)

/-- A file's host and path, from a text that may still hold breaks. A host that is a drive belongs to
the path; where no other machine is named, the path begins with its slash. -/
def fileBody? (cs : List Char) : Option (List Char) :=
  match dropSlash? cs with
  | none => some (writeFile [] cs)
  | some afterOne =>
    match dropSlash? afterOne with
    | none => some (writeFile [] afterOne)
    | some afterTwo => do
      let (host, path) := Text.cutAt (endsAuthority true) afterTwo
      let host := dropBreaks host
      if (FilePath.drive? host).isSome then some (writeFile [] afterTwo)
      else
        let host ← fileHost? host
        some (writeFile host (if host.isEmpty then path else path.drop 1))

/-- The body of a scheme without rules: an authority and a path, a path alone, or a text that only
the scheme understands. `followed` says if a query or a fragment comes after it. -/
def foreignBody? (cs : List Char) (followed : Bool) : Option (List Char) :=
  match cs with
  | '/' :: '/' :: rest => do
    let (authority, path) := splitAuthority false rest
    let authority ← authority.write? false none (!path.isEmpty || followed)
    let path := if path.isEmpty then [] else Path.parse false (dropSeparator false path)
    some ('/' :: '/' :: (authority ++ path))
  | '/' :: rest =>
    match Path.parse false rest with
    | '/' :: '/' :: path => some ('/' :: '.' :: '/' :: '/' :: path)
    | path => some path
  | cs => some (percentEncode EncodeSet.controls cs)

/-! ## Whole addresses -/

def splitMark (mark : Char) (cs : List Char) : List Char × Option (List Char) :=
  match Text.cut? mark cs with
  | some (before, after) => (before, some after)
  | none => (cs, none)

def parse? (cs : List Char) : Option Url := do
  let (scheme, rest) ← splitScheme? (trim cs)
  let (rest, fragment) := splitMark '#' rest
  let (rest, query) := splitMark '?' rest
  let special := specialPort? (String.ofList scheme)
  let body ←
    match special with
    | some (some port) => specialBody? (some port) (dropBreaks rest)
    | some none => fileBody? rest
    | none => foreignBody? (dropBreaks rest) (query.isSome || fragment.isSome)
  let querySet := if special.isSome then EncodeSet.specialQuery else EncodeSet.query
  ofParts? scheme body (query.map (percentEncode querySet <| dropBreaks ·))
    (fragment.map (percentEncode EncodeSet.fragment <| dropBreaks ·))

end RichText.Url
