/-!
# Line ends

Files may end their lines with a carriage return, a line feed, or both. After reading, every line
ends with a line feed. Where a shape is looked for, one line feed at the end may be left out of
account.
-/

namespace FlowLint.Text

def normalizeLineEnds : List Char → List Char
  | '\r' :: '\n' :: rest => '\n' :: normalizeLineEnds rest
  | '\r' :: rest => '\n' :: normalizeLineEnds rest
  | c :: rest => c :: normalizeLineEnds rest
  | [] => []

def dropFinalLineEnd (cs : List Char) : List Char :=
  if cs.getLast? = some '\n' then cs.dropLast else cs

end FlowLint.Text
