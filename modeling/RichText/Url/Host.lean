import RichText.Url.Address
import RichText.Url.Domain
import RichText.Url.Percent

/-!
# Hosts
-/
namespace RichText.Url.Host

def bracketed? (cs : List Char) : Option (List Char) := do
  if cs.getLast? ≠ some ']' then none
  let groups ← Ipv6.parse? (cs.drop 1).dropLast
  some ('[' :: (Ipv6.write groups ++ [']']))

/-- The characters that the host of a scheme without rules for its hosts may not hold. -/
def isForbidden (c : Char) : Bool :=
  c == '\x00' || c == '\t' || c == '\n' || c == '\r' || " #/:<>?@[\\]^|".toList.contains c

def foreign? (cs : List Char) : Option (List Char) :=
  if cs.head? = some '[' then bracketed? cs
  else if cs.any isForbidden then none
  else some (percentEncode EncodeSet.controls cs)

def parse? (cs : List Char) : Option (List Char) :=
  if cs.head? = some '[' then bracketed? cs
  else do
    let name ← Domain.toAscii? (percentDecode (Text.utf8 cs))
    if name.isEmpty then none
    else if Ipv4.endsInNumber name then (Ipv4.parse? name).map Ipv4.write
    else some name

end RichText.Url.Host
