/-! Colored terminal text. -/
namespace ListQuery.Text

inductive Ink where
  | success | failure | heading | faint | name | warning
  deriving DecidableEq, Repr

def Ink.code : Ink → String
  | .success => "1;32"
  | .failure => "1;31"
  | .heading => "1"
  | .faint => "2"
  | .name => "36"
  | .warning => "33"

/-- With color off the text stays as it is. -/
def paint (color : Bool) (ink : Ink) (text : String) : String :=
  if color then "\x1b[" ++ ink.code ++ "m" ++ text ++ "\x1b[0m" else text

def padRight (width : Nat) (text : String) : String :=
  text ++ String.ofList (List.replicate (width - text.length) ' ')

end ListQuery.Text
