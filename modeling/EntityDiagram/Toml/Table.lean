import EntityDiagram.Data.Value

/-! # Tables in TOML

A document is built up from headers and from keys with values. A table may be named by a header
once, be implied by a longer header, or be implied by a dotted key; only the last kind may be
extended by further dotted keys, and only the second kind may still get its own header. An array of
tables grows by one table with each of its headers. A table that is written as a value is closed.
-/

namespace EntityDiagram.Toml

inductive TableKind where
  | headed
  | implied
  | dotted
  deriving DecidableEq, Repr

inductive Node where
  | leaf (value : Value)
  | table (kind : TableKind) (members : List (List Char × Node))
  /-- Of an array of tables only the last one is still open. -/
  | tables (closed : List Value) (last : List (List Char × Node))

abbrev Members := List (List Char × Node)

mutual

def Node.toValue : Node → Value
  | .leaf value => value
  | .table _ members => .table (memberValues members)
  | .tables closed last => .array (closed ++ [.table (memberValues last)])

def memberValues : List (List Char × Node) → List (Option (List Char) × Value)
  | [] => []
  | (key, node) :: rest => (some key, node.toValue) :: memberValues rest

end

namespace Members

def find? (members : Members) (key : List Char) : Option Node :=
  (List.find? (fun member => member.1 == key) members).map (·.2)

def put (members : Members) (key : List Char) (node : Node) : Members :=
  members.map fun member => if member.1 == key then (key, node) else member

def add (members : Members) (key : List Char) (node : Node) : Members := members ++ [(key, node)]

/-- Changes the members of the table that a header's keys lead to. Tables on the way are implied,
and an array of tables stands for its last one. -/
def change (f : Members → Option Members) (members : Members) :
    List (List Char) → Option Members
  | [] => f members
  | key :: rest =>
    match members.find? key with
    | none => (change f [] rest).map fun inner => members.add key (.table .implied inner)
    | some (.table kind inner) =>
      (change f inner rest).map fun inner => members.put key (.table kind inner)
    | some (.tables closed last) =>
      (change f last rest).map fun last => members.put key (.tables closed last)
    | some (.leaf _) => none

def openTable (key : List Char) (members : Members) : Option Members :=
  match members.find? key with
  | none => some (members.add key (.table .headed []))
  | some (.table .implied inner) => some (members.put key (.table .headed inner))
  | some _ => none

def openElement (key : List Char) (members : Members) : Option Members :=
  match members.find? key with
  | none => some (members.add key (.tables [] []))
  | some (.tables closed last) =>
    some (members.put key (.tables (closed ++ [.table (memberValues last)]) []))
  | some _ => none

/-- Gives a dotted key its value. The last table that the key goes through has to be one of its own
kind. -/
def assign (value : Value) (members : Members) : List (List Char) → Option Members
  | [] => none
  | [key] =>
    match members.find? key with
    | none => some (members.add key (.leaf value))
    | some _ => none
  | key :: next :: rest =>
    match members.find? key with
    | none => (assign value [] (next :: rest)).map fun inner => members.add key (.table .dotted inner)
    | some (.table .dotted inner) =>
      (assign value inner (next :: rest)).map fun inner => members.put key (.table .dotted inner)
    | some (.table .implied inner) =>
      if rest.isEmpty then none
      else
        (assign value inner (next :: rest)).map fun inner =>
          members.put key (.table .implied inner)
    | some (.tables closed last) =>
      if rest.isEmpty then none
      else
        (assign value last (next :: rest)).map fun last => members.put key (.tables closed last)
    | some _ => none

def assignAll (members : Members) : List (List (List Char) × Value) → Option Members
  | [] => some members
  | (path, value) :: rest =>
    match members.assign value path with
    | some next => assignAll next rest
    | none => none

end Members

end EntityDiagram.Toml
