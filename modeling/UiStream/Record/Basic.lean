import UiStream.Record.Fault

/-!
# Records in JSON

A record is written as an object with a member for each field, or as an array with the fields in
their order.  Members that are no field are left aside.  An optional field may be absent or
`null`; a field with a default may be absent only.

A record has one fault to report: that of the first member that does not decode, in the order in
which the document lists them, then the first required field that is missing, and then a surplus
of items.  `Record.settle` picks the first kind, and `Record.required` finds the second.
-/

namespace UiStream

/-! ## Readers of plain values -/

/-- A reader of a value. -/
abbrev Reader (α : Type) := Json → Except DecodeFault α

namespace Reader

/-- Reads any value. -/
def value : Reader Json := .ok

/-- Reads a string. -/
def text : Reader String
  | .string s => .ok s
  | v => .error (.wrongType v .string)

/-- Reads an object as it is. -/
def map : Reader Members
  | .object members => .ok members
  | v => .error (.wrongType v .map)

/-- Reads every item in order, up to the first that does not decode. -/
def each {α : Type} (read : Reader α) : List Json → Except DecodeFault (List α)
  | [] => .ok []
  | v :: rest =>
    match read v with
    | .error fault => .error fault
    | .ok a => (each read rest).map (a :: ·)

/-- Reads every member in order, up to the first that does not decode. -/
def eachMember {α : Type} (read : Reader α) :
    List (String × Json) → Except DecodeFault (List (String × α))
  | [] => .ok []
  | (key, v) :: rest =>
    match read v with
    | .error fault => .error fault
    | .ok a => (eachMember read rest).map ((key, a) :: ·)

/-- Reads an array. -/
def listOf {α : Type} (read : Reader α) : Reader (List α)
  | .array items => each read items
  | v => .error (.wrongType v .sequence)

/-- Reads an object as a dictionary. -/
def mapOf {α : Type} (read : Reader α) : Reader (List (String × α))
  | .object members => eachMember read members
  | v => .error (.wrongType v .map)

/-- Reads `null` as an absent value. -/
def nullable {α : Type} (read : Reader α) : Reader (Option α)
  | .null => .ok none
  | v => (read v).map some

/-- Reads a condition. -/
def condition : Reader Condition := fun v =>
  match Condition.decode v with
  | .ok c => .ok c
  | .error fault => .error (.condition fault)

/-- Reads the name of a variant. -/
def variantName {α : Type} (names : List (String × α)) (name : String) : Except DecodeFault α :=
  match names.find? (·.1 == name) with
  | some (_, variant) => .ok variant
  | none => .error (.unknownVariant name (names.map (·.1)))

/-- Reads a variant without content: its name, or an object whose one member has that name and
holds `null`. -/
def variant {α : Type} (names : List (String × α)) : Reader α
  | .string name => variantName names name
  | .object [(name, v)] => do
    let variant ← variantName names name
    if v = .null then return variant else .error (.wrongType v .unit)
  | .object _ => .error .notSingleKey
  | v => .error (.wrongType v .variant)

end Reader

/-! ## Records -/

/-- A record as it is written: its members, and the number of items if it is an array. -/
structure Record where
  name : String
  fields : List String
  members : Members
  length? : Option Nat := none
deriving DecidableEq, Repr

namespace Record

/-- Opens a record that is written as an object. -/
def ofObject (name : String) (fields : List String) : Reader Record
  | .object members => .ok { name, fields, members }
  | v => .error (.wrongType v (.record name))

/-- Opens a record that is written as an object or as an array. -/
def ofJson (name : String) (fields : List String) : Reader Record
  | .array items =>
    .ok { name, fields, members := fields.zip items, length? := some items.length }
  | v => ofObject name fields v

/-- The fault of a missing field. -/
def missing (record : Record) (field : String) : DecodeFault :=
  match record.length? with
  | none => .missingField field
  | some _ => .missingItem (record.fields.idxOf field) record.name record.fields.length

/-- A field that must be there. -/
def required {α : Type} (record : Record) (field : String) (read : Reader α) :
    Except DecodeFault α :=
  match Members.find? field record.members with
  | some v => read v
  | none => .error (record.missing field)

/-- A field that may be absent, and then has a default. -/
def defaulted {α : Type} (record : Record) (field : String) (read : Reader α) (default : α) :
    Except DecodeFault α :=
  match Members.find? field record.members with
  | none => .ok default
  | some v => read v

/-- A field that may be absent or `null`. -/
def optional {α : Type} (record : Record) (field : String) (read : Reader α) :
    Except DecodeFault (Option α) :=
  record.defaulted field (Reader.nullable read) none

/-- The members that are no field. -/
def others (record : Record) : Members :=
  record.members.filter fun (key, _) => !record.fields.contains key

/-- The fault of the first member that has one, in the order of the members.  `faults` names the
fault of each field. -/
def firstFault (faults : List (String × Option DecodeFault)) (members : Members) :
    Option DecodeFault :=
  members.findSome? fun (key, _) => (faults.lookup key).join

/-- Fails with the fault of the first member that has one, or with that of a field which is
missing, or if there are items beyond the last field. -/
def settle (record : Record) (faults : List (String × Option DecodeFault)) :
    Except DecodeFault Unit :=
  match firstFault faults record.members with
  | some fault => .error fault
  | none =>
    match faults.findSome? (·.2), record.length? with
    | some fault, _ => .error fault
    | none, some length =>
      if length > record.fields.length then .error (.tooManyItems length) else .ok ()
    | none, none => .ok ()

end Record

end UiStream
