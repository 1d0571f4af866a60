/-!
# Coloured text

A coloured text stands between the sequence that starts a colour and the one that ends all colours.
Where the text itself ends all colours, its own colour is started again.
-/

namespace BoundaryContract.Text

/-- The colours of messages, by the parameters of their escape sequence. -/
inductive Colour
  | red
  | green
  | yellow
  | blue
  | brightBlue
  | boldRed
deriving DecidableEq

/-- The parameters of a colour's escape sequence. -/
def Colour.parameters : Colour → String
  | .red => "31"
  | .green => "32"
  | .yellow => "33"
  | .blue => "34"
  | .brightBlue => "94"
  | .boldRed => "1;31"

/-- The sequence that starts a colour. -/
def Colour.start (c : Colour) : List Char := '\x1b' :: '[' :: c.parameters.toList ++ ['m']

/-- The text with the colour started again after each sequence that ends all colours. -/
def restart (start : List Char) : List Char → List Char
  | '\x1b' :: '[' :: '0' :: 'm' :: rest =>
    '\x1b' :: '[' :: '0' :: 'm' :: start ++ restart start rest
  | c :: rest => c :: restart start rest
  | [] => []

/-- A text in a colour. -/
def paint (c : Colour) (s : String) : String :=
  String.ofList (c.start ++ restart c.start s.toList ++ ['\x1b', '[', '0', 'm'])

end BoundaryContract.Text
