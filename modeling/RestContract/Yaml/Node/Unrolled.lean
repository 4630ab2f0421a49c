import RestContract.Value.Equality
import RestContract.Yaml.Node.Meaning

/-!
# Values of collections

The values that collections stand for, from what they are made of. A collection whose members all
have values gets its own. What is left when no more can be given holds itself, or holds one that
does. Such a collection is unrolled, level by level from the inside, deeper than any rule follows
it, and is marked with its number.
-/

namespace RestContract.Yaml

/-- The number of places that a set keeps for its members. -/
def places (count : Nat) : Nat := if count < 5 then 8 else Nat.nextPowerOfTwo (2 * count + 1)

/-- The members of a set, each once. Where all of them are whole numbers, they stand in the order of
    their places, which are the remainders by the number of places. -/
def setMembers (members : List Scalar) : List Scalar :=
  let kept := (Fields.ofPairs (members.map (·, .null))).map Prod.fst
  let place := fun (s : Scalar) => (s.whole?.getD 0).emod (places kept.length)
  if kept.all (·.whole?.isSome) then kept.mergeSort fun a b => place a ≤ place b else kept

/-- The values that collections have so far, by number. -/
abbrev Values := Array (Option Value)

namespace Values

/-- The value of a member, if it has one. -/
def member? (values : Values) : Member → Option Value
  | .scalar s => some (.scalar s)
  | .collection n => values[n]?.join

/-- The value of a body, if all its members have values. -/
def body? (values : Values) (mark : Option Nat) : Body → Option Value
  | .list items => do return .list (← items.mapM values.member?) mark
  | .map fields => do
    let fields ← fields.mapM fun (key, value) => (values.member? value).map (key, ·)
    return .map (Fields.ofPairs fields) mark
  | .pairs pairs => do
    let pairs ← pairs.mapM fun (first, second) => do
      return .pair (← values.member? first) (← values.member? second)
    return .list pairs mark
  | .set members => some (.set (setMembers members))

/-- The value of a member where every collection is to have one. -/
def member (values : Values) (m : Member) : Value := (values.member? m).getD .null

/-- The values with one for a collection that has none, if its members have values. -/
def addClosed (values : Values) (entry : Nat × Body) : Values :=
  if values[entry.1]?.join.isSome then values
  else
    match values.body? none entry.2 with
    | some value => values.setIfInBounds entry.1 (some value)
    | none => values

/-- The collections that have no value. -/
def without (values : Values) (bodies : List (Nat × Body)) : List (Nat × Body) :=
  bodies.filter fun (n, _) => values[n]?.join.isNone

/-- The values of all collections that do not hold themselves. Each round takes the collections from
    the last to the first and back, and gives at least one of them a value. -/
def closed : Nat → List (Nat × Body) → Values → Values
  | 0, _, values => values
  | steps + 1, bodies, values =>
    let next := (bodies ++ bodies.reverse).foldl addClosed values
    let left := next.without bodies
    if left.length = bodies.length then next else closed steps left next

/-- One more level of the collections that hold themselves. -/
def addLevel (endless : List (Nat × Body)) (values : Values) : Values :=
  let level := endless.map fun (n, body) => (n, values.body? (some n) body)
  level.foldl (fun values (n, value) => values.setIfInBounds n value) values

/-- The values of all collections. Those that hold themselves have one level more than there is room
    for. -/
def ofBodies (room size : Nat) (bodies : List (Nat × Body)) : Values :=
  let values := closed (bodies.length + 1) bodies (Array.replicate size none)
  let endless := values.without bodies
  let bottom := endless.foldl (fun values (n, _) => values.setIfInBounds n (some .null)) values
  if endless.isEmpty then values
  else (room + 1).repeat (addLevel endless) bottom

end Values

/-- The value that the root of a document stands for. -/
def Nodes.value (nodes : Nodes) (room root : Nat) : Except Failure Value := do
  let (whole, bodies) ← nodes.meaning root
  return (Values.ofBodies room nodes.size bodies).member whole

end RestContract.Yaml
