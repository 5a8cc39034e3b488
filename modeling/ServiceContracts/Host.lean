import ServiceContracts.Text.Blank
import ServiceContracts.Text.Case
import ServiceContracts.Text.Split

/-!
# Hosts

`bare` reduces an authority or a URL to its host in lower case: scheme, path, credentials and port
are left out, and a literal in brackets keeps its brackets. Two hosts are `related` if they are
equal or one is a whole-label subdomain of the other.
-/

namespace ServiceContracts.Host
open Text

/-- The host of a URL or an authority, in lower case. -/
def bareChars (value : List Char) : List Char :=
  let host := lowerChars (trimChars value)
  let host := match cut? "://".toList host with
    | some (_, rest) => rest
    | none => host
  let host := behindLast '@' (before '/' host)
  if host.head? = some '[' then before ']' host ++ [']'] else before ':' host

def bare (value : String) : String := String.ofList (bareChars value.toList)

/-- Equal, or one a subdomain of the other. -/
def related (host domain : List Char) : Bool :=
  host == domain || ('.' :: domain).isSuffixOf host || ('.' :: host).isSuffixOf domain

end ServiceContracts.Host
