import FormCompiler.Token.Basic

namespace FormCompiler

inductive Node where
  | atom (token : Token)
  | list (paren : Token) (items : List Node)

namespace Node

def token : Node → Token
  | atom t => t
  | list paren _ => paren

def literal : Node → String
  | atom t => t.literal
  | list .. => ""

def symbol? : Node → Option String
  | atom t => if t.kind = .symbol then some t.literal else none
  | list .. => none

def isList : Node → Bool
  | atom _ => false
  | list .. => true

def items : Node → List Node
  | atom _ => []
  | list _ items => items

def head? (n : Node) : Option String := n.items.head?.bind symbol?

def operands (n : Node) : List Node := n.items.tail

mutual
def text : Node → String
  | atom t => t.literal
  | list _ items => "(" ++ textItems items ++ ")"

def textItems : List Node → String
  | [] => ""
  | [n] => n.text
  | n :: m :: ns => n.text ++ " " ++ textItems (m :: ns)
end

end Node

def splitQualified (s : String) : String × String :=
  let before := s.toList.takeWhile (· != '.')
  let behind := (s.toList.dropWhile (· != '.')).drop 1
  if before.isEmpty || behind.isEmpty then ("", s) else (String.ofList before, String.ofList behind)

end FormCompiler
