/-!
# Bytes

Text files: their bytes are UTF-8, and however a line ends, it ends in a newline once it is read.
-/

namespace Chartwright.Text

/-- Turns a carriage return, with or without a newline behind it, into a newline. -/
def unifyNewlines : List Char → List Char
  | [] => []
  | '\x0d' :: '\n' :: rest => '\n' :: unifyNewlines rest
  | c :: rest => (if c = '\x0d' then '\n' else c) :: unifyNewlines rest

/-- The text of a file, if its bytes are UTF-8. -/
def decode? (bytes : ByteArray) : Option String :=
  (String.fromUTF8? bytes).map fun s => String.ofList (unifyNewlines s.toList)

/-- The bytes of a text. -/
def encode (s : String) : ByteArray := s.toUTF8

end Chartwright.Text
