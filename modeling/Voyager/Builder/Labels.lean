import Voyager.Ast

namespace Voyager

structure Unicode where
  isAlphanumeric : Char → Bool
  isWhitespace : Char → Bool
  toLowercase : String → String

namespace Unicode

def trim (unicode : Unicode) (s : String) : String :=
  .ofList (((s.toList.dropWhile unicode.isWhitespace).reverse.dropWhile unicode.isWhitespace).reverse)

def ascii : Unicode := ⟨Char.isAlphanum, Char.isWhitespace, String.toLower⟩

end Unicode

inductive LabelToken
  | ident (name : String)
  | and | or | not | wildcard | lParen | rParen
deriving DecidableEq, Repr

namespace LabelToken

def debug : LabelToken → String
  | ident name => "Ident(" ++ name.quote ++ ")"
  | and => "And"
  | or => "Or"
  | not => "Not"
  | wildcard => "Wildcard"
  | lParen => "LParen"
  | rParen => "RParen"

def ofWord (word : String) : LabelToken :=
  match word.toUpper with
  | "AND" => and
  | "OR" => or
  | "NOT" => not
  | _ => ident word

def ofSign : Char → Option LabelToken
  | '&' => some and
  | '|' => some or
  | '!' => some not
  | '%' | '*' => some wildcard
  | '(' => some lParen
  | ')' => some rParen
  | _ => none

end LabelToken

variable (unicode : Unicode)

def isLabelWord (c : Char) : Bool := unicode.isAlphanumeric c || c == '_' || c == '-'

def isLabelGap (c : Char) : Bool := c == ' ' || c == '\t' || c == '\r' || c == '\n' || c == ':'

/-- Every round takes a character, so as much fuel as there are characters is enough. -/
def tokenizeFrom : ℕ → List Char → Except String (List LabelToken)
  | 0, _ | _, [] => .ok []
  | fuel + 1, c :: cs =>
    if isLabelGap c then tokenizeFrom fuel cs
    else
      match LabelToken.ofSign c with
      | some token => (token :: ·) <$> tokenizeFrom fuel cs
      | none =>
        if c == '`' then
          let name := cs.takeWhile (· != '`')
          (.ident (.ofList name) :: ·) <$> tokenizeFrom fuel (cs.drop (name.length + 1))
        else if isLabelWord unicode c then
          let more := cs.takeWhile (isLabelWord unicode)
          (.ofWord (.ofList (c :: more)) :: ·) <$> tokenizeFrom fuel (cs.drop more.length)
        else .error ("Unexpected character '" ++ c.toString ++ "' in label expression")

def tokenizeLabelExpr (input : String) : Except String (List LabelToken) :=
  tokenizeFrom unicode input.length input.toList

abbrev LabelParse := Except String (LabelExpression × List LabelToken)

mutual

def parseDisjunction : ℕ → List LabelToken → LabelParse
  | 0, _ => .error "Unexpected end of label expression"
  | fuel + 1, tokens => do
    let (left, rest) ← parseConjunction fuel tokens
    parseOrs fuel left rest

def parseOrs : ℕ → LabelExpression → List LabelToken → LabelParse
  | fuel + 1, left, .or :: rest => do
    let (right, rest) ← parseConjunction fuel rest
    parseOrs fuel (.or left right) rest
  | _, left, tokens => .ok (left, tokens)

def parseConjunction : ℕ → List LabelToken → LabelParse
  | 0, _ => .error "Unexpected end of label expression"
  | fuel + 1, tokens => do
    let (left, rest) ← parseUnary fuel tokens
    parseAnds fuel left rest

def parseAnds : ℕ → LabelExpression → List LabelToken → LabelParse
  | fuel + 1, left, .and :: rest => do
    let (right, rest) ← parseUnary fuel rest
    parseAnds fuel (.and left right) rest
  | _, left, tokens => .ok (left, tokens)

def parseUnary : ℕ → List LabelToken → LabelParse
  | fuel + 1, .not :: rest => do
    let (inner, rest) ← parseUnary fuel rest
    .ok (.not inner, rest)
  | fuel + 1, tokens => parsePrimary fuel tokens
  | 0, _ => .error "Unexpected end of label expression"

def parsePrimary : ℕ → List LabelToken → LabelParse
  | _, [] => .error "Unexpected end of label expression"
  | _, .ident name :: rest => .ok (.label name, rest)
  | _, .wildcard :: rest => .ok (.wildcard, rest)
  | fuel + 1, .lParen :: rest => do
    match ← parseDisjunction fuel rest with
    | (expr, .rParen :: rest) => .ok (expr, rest)
    | _ => .error "Unclosed parenthesis in label expression"
  | _, other :: _ => .error ("Unexpected token " ++ other.debug ++ " in label expression")

end

namespace LabelExpression

/-- A token is reached through at most four of the parsing functions. -/
def parse (input : String) : Except String LabelExpression := do
  let tokens ← tokenizeLabelExpr unicode input
  if tokens.isEmpty then .error "Empty label expression"
  match ← parseDisjunction (4 * tokens.length + 4) tokens with
  | (expr, []) => .ok expr
  | _ => .error ("Unexpected trailing tokens in label expression '" ++ input ++ "'")

def parseHeuristic (input : String) : LabelExpression :=
  let trimmed := unicode.trim input
  if trimmed.isEmpty then .wildcard
  else
    match parse unicode trimmed with
    | .ok expr => expr
    | .error _ => .label trimmed

def fromLabels : List String → Option LabelExpression
  | [] => none
  | first :: rest =>
    some (rest.foldl (fun current next => .and current (parseHeuristic unicode next)) (parseHeuristic unicode first))

def fromEdgeTypes : List String → Option LabelExpression
  | [] => none
  | first :: rest =>
    some (rest.foldl (fun current next => .or current (parseHeuristic unicode next)) (parseHeuristic unicode first))

end LabelExpression

end Voyager
