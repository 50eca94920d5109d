import Roosty.Auth.Access
import Roosty.Library.WebUrl

/-!
# Redirects after a login

The location of a redirect is the base URL of the server joined with a path of the request.
-/

set_option autoImplicit false

namespace Roosty.Auth.Access

open Library

variable {Host : Type}

/-- An `https` URL with the path `/`. -/
structure PublicBaseUrl (Host : Type) where
  host : Host
  port : Option Nat
  query : Option (List Char)
  fragment : Option (List Char)

def PublicBaseUrl.url (base : PublicBaseUrl Host) : WebUrl.Url Host where
  scheme := "https"
  host := some base.host
  port := base.port
  path := [[]]
  query := base.query
  fragment := base.fragment

/-- The text of a URL, or a text that follows the one of the base URL. -/
inductive Location (Host : Type) where
  | url (url : WebUrl.Url Host)
  | following (base : WebUrl.Url Host) (text : String)

def Location.target : Location Host → WebUrl.Url Host
  | .url read => read
  | .following base text => WebUrl.appended base text.toList

def publicUrl (parsers : WebUrl.Parsers Host) (base : PublicBaseUrl Host)
    (pathAndQuery : String) : Location Host :=
  match WebUrl.join parsers base.url (pathAndQuery.toList.dropWhile (· == '/')) with
  | some url => .url url
  | none => .following base.url pathAndQuery

def loginLocation (parsers : WebUrl.Parsers Host) (base : PublicBaseUrl Host)
    (form : LoginForm) : Location Host :=
  publicUrl parsers base (sanitizeNext form.next)

end Roosty.Auth.Access
