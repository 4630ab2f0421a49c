import RestContract.Operation.Status

/-!
# Expansion of status codes

A contract lists responses under codes only. A response under a code keeps it; one under a family
stands for the usual codes of the family, and the default for all usual codes, as far as they are
not taken yet. Neither adds a code of success once there is one.

The expansion looks at keys alone and gives each response that is used with the codes it stands for,
in the order in which they take them.
-/

namespace RestContract.Contract

/-- The codes that families and the default stand for. -/
def usualCodes : List String :=
  ["200", "201", "204", "400", "401", "403", "404", "405", "409", "415", "500"]

/-- Whether a code belongs to the family of a digit. -/
def isOfFamily (family : Char) (code : String) : Bool := code.toList.head? == some family

/-- Whether a code is one of success. -/
def isSuccess (code : String) : Bool := isOfFamily '2' code

/-- A response and the codes it stands for. -/
structure Share (α : Type) where
  codes : List String
  response : α

/-- The codes that are taken. -/
def taken {α : Type} (shares : List (Share α)) : List String := shares.flatMap (·.codes)

/-- The shares with one more, unless it would be empty. -/
def addShare {α : Type} (shares : List (Share α)) (codes : List String) (response : α) :
    List (Share α) :=
  if codes.isEmpty then shares else shares ++ [⟨codes, response⟩]

/-- The codes of a family that are free. -/
def freeOfFamily {α : Type} (shares : List (Share α)) (family : Char) : List String :=
  if family = '2' ∧ (taken shares).any isSuccess then []
  else usualCodes.filter fun code => isOfFamily family code && !(taken shares).contains code

/-- The usual codes that are free. -/
def freeCodes {α : Type} (shares : List (Share α)) : List String :=
  let succeeded := (taken shares).any isSuccess
  usualCodes.filter fun code => !(taken shares).contains code && !(succeeded && isSuccess code)

/-- The shares after a response under a family. -/
def addFamily {α : Type} (shares : List (Share α)) (response : String × α) : List (Share α) :=
  match response.1.toList with
  | [] => shares
  | family :: _ => addShare shares (freeOfFamily shares family) response.2

/-- The shares after the default response. -/
def addDefault {α : Type} (shares : List (Share α)) (response : String × α) : List (Share α) :=
  addShare shares (freeCodes shares) response.2

/-- The responses of one form. -/
def ofKind {α : Type} (kind : StatusKind) (responses : List (StatusKind × String × α)) :
    List (String × α) :=
  responses.filterMap fun (k, response) => if k = kind then some response else none

/-- The responses that are used, with their codes. -/
def expand {α : Type} (responses : List (StatusKind × String × α)) : List (Share α) :=
  let exact := (ofKind .exact responses).map fun (code, response) => ⟨[code], response⟩
  let ranges := (ofKind .range responses).foldl addFamily exact
  (ofKind .default responses).foldl addDefault ranges

/-- The number of a code. -/
def codeNumber (code : String) : Nat :=
  (code.toList.filter Char.isDigit).foldl (fun n c => n * 10 + (c.toNat - '0'.toNat)) 0

/-- A table of codes in ascending order. -/
def sortByCode {α : Type} (table : List (String × α)) : List (String × α) :=
  table.mergeSort fun a b => codeNumber a.1 ≤ codeNumber b.1

end RestContract.Contract
