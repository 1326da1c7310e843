import PageFilters.Digest.Sha256
import PageFilters.Html.Escaped
import PageFilters.Text.Blank
import PageFilters.Text.Case
import PageFilters.Text.Hex

/-!
# Avatars

An avatar is found under the digest of an address, whatever case the address is
written in and whatever blanks and angle brackets stand around it.
-/

namespace PageFilters.Avatar

/-- A text without the angle brackets at its ends, one at each. -/
def stripBrackets (text : List Char) : List Char :=
  let front := if text.head? == some '<' then text.drop 1 else text
  if front.getLast? == some '>' then front.dropLast else front

/-- The form of an address that is digested. -/
def normalize (address : String) : String :=
  String.ofList (stripBrackets (Text.lowercase (Text.trim address.toList)))

/-- The digest of an address as sixty-four digits. -/
def hash (address : String) : String :=
  Text.hex (Digest.sha256 (Text.encode (normalize address).toList))

/-- The avatar's image, and behind it the trimmed text. -/
def annotate (address text baseUrl : String) (size : UInt32) : String :=
  let edge := size.toNat.repr
  "<img src='" ++ baseUrl ++ hash address ++ "?s=" ++ edge ++ "&amp;d=retro' width='" ++ edge ++
    "' height='" ++ edge ++ "' alt='Gravatar' /> " ++
    Html.escape (String.ofList (Text.trim text.toList))

end PageFilters.Avatar
