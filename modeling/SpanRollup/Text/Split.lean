/-!
# Texts in parts

`Text.split sep` cuts a text at each character `sep`. There is one part more than there are cuts.
-/

namespace SpanRollup.Text

def split (sep : Char) : List Char → List (List Char)
  | [] => [[]]
  | c :: cs =>
    if c = sep then [] :: split sep cs
    else match split sep cs with
      | part :: parts => (c :: part) :: parts
      | [] => [[c]]

end SpanRollup.Text
