import Ingest.Config.Problem
/-!
# Proxies

A proxy is given as a host and a port with a colon between them.
-/

namespace Ingest.Proxy

/-- A port number: digits, perhaps after a plus sign, below 65536. -/
def isPort (cs : List Char) : Bool :=
  let ds := match cs with
    | '+' :: rest => rest
    | _ => cs
  !ds.isEmpty && ds.all Char.isDigit &&
    ds.foldl (fun n d => n * 10 + (d.toNat - 48)) 0 < 65536

/-- The text is a host, a colon and a port; the host ends at the first colon. -/
def isWellFormed (text : String) : Bool :=
  let host := text.toList.takeWhile (· ≠ ':')
  match text.toList.dropWhile (· ≠ ':') with
  | _ :: port => !host.isEmpty && isPort port
  | [] => false

/-- A proxy must be a host and a port; without one there is nothing to check. -/
def check : Option String → Except ConfigProblem Unit
  | none => .ok ()
  | some text => if isWellFormed text then .ok () else .error (.lack (.proxy text))

end Ingest.Proxy
