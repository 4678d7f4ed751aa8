import Ingest.Text.Percent
import Ingest.Url.Address
import Ingest.Url.Domain
/-!
# Hosts

The host of a URL.  Web addresses name it by domain or by number; URLs of other schemes may hold
any name there.
-/

namespace Ingest.Url

inductive Host where
  | domain (name : String)
  | ipv4 (address : Nat)
  | ipv6 (groups : List Nat)
  deriving DecidableEq, Repr

def Host.text : Host → String
  | .domain name => name
  | .ipv4 address => ipv4Text address
  | .ipv6 groups => "[" ++ ipv6Text groups ++ "]"

def bracketed? : List Char → Option (Except Problem Host)
  | '[' :: rest =>
    match rest.reverse with
    | ']' :: inner => some ((readIpv6 inner.reverse).map .ipv6)
    | _ => some (.error .badIpv6)
  | _ => none

def readWebHost (cs : List Char) : Except Problem Host :=
  match bracketed? cs with
  | some host => host
  | none =>
    match (Utf8.decode? (Percent.decode cs)).bind Domain.toAscii with
    | none => .error .badDomain
    | some [] => .error .emptyHost
    | some name =>
      if endsInNumber name then (readIpv4 name).map .ipv4
      else .ok (.domain (String.ofList name))

/-- Characters that the host of another scheme may not hold. -/
def isForbiddenInHost (c : Char) : Bool := "\x00\t\n\r #/:<>?@[\\]^|".toList.contains c

def readOtherHost (cs : List Char) : Except Problem Host :=
  match bracketed? cs with
  | some host => host
  | none =>
    if cs.any isForbiddenInHost then .error .badHostCharacter
    else .ok (.domain (String.ofList (Percent.encode Percent.control cs)))

end Ingest.Url
