import Dialect.Expr.Tree
import Dialect.Text.Digit

namespace Dialect.Expr

inductive Token where
  | leaf (l : Leaf)
  | opening
  | closing
  | not
  -- an operator; plus and minus are also signs in front of an operand
  | op (o : BinaryOp)
deriving Repr, DecidableEq, Inhabited

-- What may come next: an operand, perhaps negated, or an operator. Where an operand may start, a
-- word is read whole and is a keyword only if all of it is; after an operand, `and` and `or` are
-- operators even if more letters follow. `not` is an operator only where a negation may start, and
-- a name elsewhere.
inductive Expect where
  | operand (negatable : Bool)
  | operator
deriving Repr, DecidableEq, Inhabited

namespace Token

-- What may follow a token.
def after : Token → Expect
  | leaf _ => .operator
  | closing => .operator
  | opening => .operand true
  | not => .operand true
  | op .or => .operand true
  | op .and => .operand true
  | op _ => .operand false

end Token

def isNameStart (c : Char) : Bool :=
  c == '_' || ('a' ≤ c && c ≤ 'z') || ('A' ≤ c && c ≤ 'Z')

def isNameChar (c : Char) : Bool := isNameStart c || Text.isAsciiDigit c

-- Blanks between tokens.
def isSpace (c : Char) : Bool :=
  c == ' ' || c == '\t' || c == '\x0c' || c == '\r' || c == '\n'

-- A word where an operand may start.
def wordToken (negatable : Bool) (w : String) : Token :=
  if w = "true" then .leaf .true
  else if w = "false" then .leaf .false
  else if w = "none" then .leaf .none
  else if w = "not" && negatable then .not
  else .leaf (.name w)

-- A mark, an optional sign and digits: the exponent of a number, if it is complete.
def exponent (cs : List Char) : List Char × List Char :=
  match cs with
  | mark :: rest =>
    if mark = 'e' ∨ mark = 'E' then
      let (sign, body) := match rest with
        | '+' :: r => (['+'], r)
        | '-' :: r => (['-'], r)
        | r => ([], r)
      let ds := body.takeWhile Text.isAsciiDigit
      if ds.isEmpty then ([], cs)
      else (mark :: sign ++ ds, body.dropWhile Text.isAsciiDigit)
    else ([], cs)
  | [] => ([], [])

-- Digits with an optional point and exponent; a digit stands on one side of the point.
def number? (cs : List Char) : Option (String × List Char) :=
  let whole := cs.takeWhile Text.isAsciiDigit
  let rest := cs.dropWhile Text.isAsciiDigit
  match rest with
  | '.' :: r =>
    let part := r.takeWhile Text.isAsciiDigit
    if whole.isEmpty && part.isEmpty then none
    else
      let (e, rest) := exponent (r.dropWhile Text.isAsciiDigit)
      some (String.ofList (whole ++ '.' :: part ++ e), rest)
  | r =>
    if whole.isEmpty then none
    else
      let (e, rest) := exponent r
      some (String.ofList (whole ++ e), rest)

-- The rest of a quoted text, from behind its first quote: up to the first quote after an even
-- number of backslashes, on one line.
def closeQuote (acc : List Char) : List Char → Option (List Char × List Char)
  | [] => none
  | '"' :: cs => some (('"' :: acc).reverse, cs)
  | '\n' :: _ => none
  | ['\\'] => none
  | '\\' :: c :: cs => if c = '\n' then none else closeQuote (c :: '\\' :: acc) cs
  | c :: cs => closeQuote (c :: acc) cs

-- The token at the start of a text where an operand may start.
def operand? (negatable : Bool) (cs : List Char) : Option (Token × List Char) :=
  match cs with
  | [] => none
  | '(' :: r => some (.opening, r)
  | '+' :: r => some (.op .add, r)
  | '-' :: r => some (.op .sub, r)
  | '"' :: r => (closeQuote ['"'] r).map fun (t, r) => (.leaf (.string (String.ofList t)), r)
  | c :: _ =>
    if isNameStart c then
      some (wordToken negatable (String.ofList (cs.takeWhile isNameChar)), cs.dropWhile isNameChar)
    else (number? cs).map fun (t, r) => (.leaf (.number t), r)

-- The token at the start of a text after an operand; the longest operator wins.
def operator? : List Char → Option (Token × List Char)
  | 'o' :: 'r' :: r => some (.op .or, r)
  | 'a' :: 'n' :: 'd' :: r => some (.op .and, r)
  | '=' :: '=' :: r => some (.op .eq, r)
  | '!' :: '=' :: r => some (.op .ne, r)
  | '<' :: '=' :: r => some (.op .le, r)
  | '<' :: r => some (.op .lt, r)
  | '>' :: '=' :: r => some (.op .ge, r)
  | '>' :: r => some (.op .gt, r)
  | '+' :: r => some (.op .add, r)
  | '-' :: r => some (.op .sub, r)
  | '*' :: '*' :: r => some (.op .pow, r)
  | '*' :: r => some (.op .mul, r)
  | '/' :: '/' :: r => some (.op .floorDiv, r)
  | '/' :: r => some (.op .div, r)
  | '%' :: r => some (.op .mod, r)
  | ')' :: r => some (.closing, r)
  | _ => none

def token? : Expect → List Char → Option (Token × List Char)
  | .operand negatable, cs => operand? negatable cs
  | .operator, cs => operator? cs

-- A token and the column it starts in.
structure Lexeme where
  token : Token
  column : Nat
deriving Repr, DecidableEq, Inhabited

-- Drops blanks and counts columns: from one after each line break.
def skipSpace (column : Nat) : List Char → Nat × List Char
  | [] => (column, [])
  | c :: cs =>
    if isSpace c then skipSpace (if c = '\n' then 1 else column + 1) cs else (column, c :: cs)

-- All tokens of a text, and the column of the first character at which no token starts. Every
-- token takes a character, so `fuel` need not exceed the length of the text.
def scan : (fuel : Nat) → Expect → (column : Nat) → List Char → List Lexeme × Option Nat
  | 0, _, _, _ => ([], none)
  | fuel + 1, expect, column, cs =>
    match skipSpace column cs with
    | (_, []) => ([], none)
    | (column, rest) => match token? expect rest with
      | none => ([], some column)
      | some (token, after) =>
        let (more, stuck) :=
          scan fuel token.after (column + (rest.length - after.length)) after
        (⟨token, column⟩ :: more, stuck)

-- The tokens of a whole text.
def lexemes (cs : List Char) : List Lexeme × Option Nat :=
  scan (cs.length + 1) (.operand true) 1 cs

end Dialect.Expr
