import Dialect.Error

namespace Dialect

-- A failure of a run: an error, the keys of the aspects it has passed through, innermost first, and
-- perhaps the label of an error object that is raised again and again.
structure Raised where
  error : Error
  trail : List String
  label : Option String
deriving Inhabited

namespace Raised

-- An error that has passed through nothing yet.
def fresh (e : Error) : Raised := ⟨e, [], none⟩

-- Some errors cannot carry a trail.
def traceable (r : Raised) : Bool := r.error.category != .untraceable

-- The failure after it has left the aspect of a key.
def through (key : String) (r : Raised) : Raised :=
  if r.traceable then { r with trail := r.trail ++ [key] } else r

end Raised

namespace ErrorClass

-- The arguments that errors of a class are made from, where their number is fixed.
def parameters? : ErrorClass → Option (List String)
  | pathNotFound => some ["path"]
  | unresolved => some ["path"]
  | missingRunner => some ["key"]
  | expression => some ["expression", "message"]
  | _ => none

-- Names of missing arguments, listed in words.
def namesText : List String → String
  | [a] => "'" ++ a ++ "'"
  | [a, b] => "'" ++ a ++ "' and '" ++ b ++ "'"
  | names => ", ".intercalate names

-- What is said of a call with too few arguments.
def missingText (function : String) (missing : List String) : String :=
  function ++ "() missing " ++ Text.ofNat 10 missing.length ++ " required positional argument"
    ++ (if missing.length = 1 then "" else "s") ++ ": " ++ namesText missing

-- What is said of a call with too many arguments.
def surplusText (function : String) (wanted got : Nat) : String :=
  function ++ "() takes " ++ Text.ofNat 10 wanted ++ " positional argument"
    ++ (if wanted = 1 then "" else "s") ++ " but " ++ Text.ofNat 10 got ++ " were given"

-- The error of a class with the given arguments, unless their number is wrong.
def construct (c : ErrorClass) (args : List Value) : Except Error Error :=
  match c.parameters? with
  | none => .ok (.raised c args)
  | some names =>
    let maker := c.name ++ ".__init__"
    if args.length < names.length then
      .error (.kind (.arguments (missingText maker (names.drop args.length))))
    else if names.length < args.length then
      .error (.kind (.arguments (surplusText maker (names.length + 1) (args.length + 1))))
    else .ok (.raised c args)

end ErrorClass

namespace Error

-- What an error is about, for the classes that are about one thing.
def subject : Error → String
  | unresolved p => p
  | pathNotFound p => p
  | missingRunner k => k
  | raised _ (v :: _) => v.text
  | e => e.message

-- One line for a user: the class and what went wrong.
def summary (e : Error) : String :=
  match e.category with
  | .pathNotFound => "PathNotFound: " ++ e.subject
  | .unresolved => "UnresolvedReference: " ++ e.subject
  | .missingRunner => "MissingRunner: " ++ e.subject
  | .expression => "ExpressionError: " ++ e.message
  | .language => "LanguageError: " ++ e.message
  | .key => "KeyError: " ++ e.message
  | .index => "IndexError: " ++ e.message
  | .type => "TypeError: " ++ e.message
  | .member => "TypeError: " ++ e.message
  | c => "InternalError: " ++ c.name ++ ": " ++ e.message

end Error

end Dialect
