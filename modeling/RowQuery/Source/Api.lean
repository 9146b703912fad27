/-
# Tables of remote services

A table is named by its full address, or by what comes after a base address.
Nothing is fetched here: a service that is asked for a table does not answer.

Key definitions: `Source.address?`, `Source.api`.
-/
import RowQuery.Source

namespace RowQuery.Source

/-- A name that is a full address. -/
def isAddress (name : String) : Bool := name.startsWith "http://" || name.startsWith "https://"

/-- The address of a table: one slash stands between the base address and the name. -/
def address? (base : Option String) (name : String) : Except LoadError String :=
  if isAddress name then .ok name
  else
    match base with
    | none => .error (.noBaseUrl name)
    | some base =>
      let isSlash (c : Char) : Bool := c == '/'
      let front := (base.toList.reverse.dropWhile isSlash).reverse
      .ok (String.ofList (front ++ '/' :: name.toList.dropWhile isSlash))

/-- A remote service with or without a base address. -/
def api (base : Option String) : Source :=
  .undescribed fun _ name =>
    match address? base name with
    | .ok url => .error (.unreachable url)
    | .error error => .error error

end RowQuery.Source
