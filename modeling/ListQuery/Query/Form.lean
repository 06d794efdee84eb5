import ListQuery.Text.Hex
import ListQuery.Text.Split
import ListQuery.Text.Utf8

/-! Form encoding: pairs of names and values in the query part of an address. Reading never fails. -/
namespace ListQuery.Query

abbrev Pairs := List (String × String)

/-- A plus sign stands for a space. -/
def unplus (octet : UInt8) : UInt8 := if octet = 43 then 32 else octet

/-- A percent sign without two hexadecimal digits after it stands for itself. -/
def unescape : List UInt8 → List UInt8
  | first :: high :: low :: rest =>
    if first = 37 then
      match Text.hexOctet? high low with
      | some octet => octet :: unescape rest
      | none => first :: unescape (high :: low :: rest)
    else unplus first :: unescape (high :: low :: rest)
  | short => short.map unplus
termination_by structural octets => octets

def decodeComponent (component : List Char) : String :=
  String.ofList (Text.Utf8.decode (unescape (Text.Utf8.encode component)))

/-- The value follows the first equals sign, and is empty where there is none. -/
def decodePair (piece : List Char) : String × String :=
  let (name, value) := Text.splitFirst '=' piece
  (decodeComponent name, decodeComponent (value.getD []))

def dropQuestionMark : List Char → List Char
  | '?' :: rest => rest
  | text => text

namespace Pairs

/-- One leading question mark does not belong to the query. -/
def parse (query : String) : Pairs :=
  (Text.pieces (· == '&') (dropQuestionMark query.toList)).map decodePair

/-- The query of an address, which ends where the fragment begins. -/
def ofUri (uri : String) : Pairs :=
  let (address, _) := Text.splitFirst '#' uri.toList
  let (_, query) := Text.splitFirst '?' address
  parse (String.ofList (query.getD []))

end Pairs

end ListQuery.Query
