import Dialect.Value.Access

namespace Dialect.Program

-- The data of a program that was made from a value. It is not checked; only nothing at all becomes
-- an empty mapping.
def dataOf (v : Value) : Value :=
  match v with
  | .null => .map []
  | v => v

def make (data : Value) (language : Nat) : Value := .program (dataOf data) language

-- A program in words; `language` is how its language is called.
def describe (data : Value) (language : String) : Except Error String :=
  match dataOf data with
  | .map es => do
    let keys ← Value.joinNames (es.map (·.1))
    return "<Program keys=[" ++ keys ++ "] language=#" ++ language ++ ">"
  | v => .error (.member v.kind "keys")

end Dialect.Program
