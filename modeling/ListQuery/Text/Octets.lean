/-! Cutting a text at a number of octets of its UTF-8 form. A character that is cut through is left out. -/
namespace ListQuery.Text

/-- The characters at the start of a text that fit into a number of octets. -/
def takeOctets (count : Nat) : List Char → List Char
  | [] => []
  | c :: rest => if c.utf8Size ≤ count then c :: takeOctets (count - c.utf8Size) rest else []

def dropOctets (count : Nat) (text : List Char) : List Char :=
  text.drop (takeOctets count text).length

end ListQuery.Text
