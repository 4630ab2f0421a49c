/-!
# Methods

The methods of the protocol that a path can be called with.
-/

namespace RestContract

/-- A method of the protocol. -/
inductive Method where
  | get
  | put
  | post
  | delete
  | options
  | head
  | patch
  | trace
  deriving DecidableEq, Repr

namespace Method

/-- The field of a path that holds the operation of the method. -/
def name : Method → String
  | .get => "get"
  | .put => "put"
  | .post => "post"
  | .delete => "delete"
  | .options => "options"
  | .head => "head"
  | .patch => "patch"
  | .trace => "trace"

def all : List Method := [.get, .put, .post, .delete, .options, .head, .patch, .trace]

/-- The method as the protocol writes it. -/
def upperName (method : Method) : String := method.name.map Char.toUpper

/-- The method that a field holds the operation of, in any case of letters. No letter beyond ASCII
    has a small form that occurs in the name of a method. -/
def ofKey? (key : String) : Option Method :=
  all.find? fun method => method.name == key.map Char.toLower

end Method
end RestContract
