import ClusterWatch.Json.Reader

/-!
# Readers of records

A record type is described once, by the list of its fields: for each its key, the
reader of its value, and what stands for it when it is absent.  From this list
the module derives two ways to read a record.  `readRecord` goes through the text
from left to right and reports the first problem; `describe` looks every key up
among the members, wherever they stand.
-/

namespace ClusterWatch.Json

/-- What stands for a field that is absent. -/
inductive Absence (β : Type) where
  /-- Nothing: the field has to be there. -/
  | required
  /-- The given value. -/
  | default (value : β)
  /-- The given value among keyed members; in a sequence the field has to be
  there. -/
  | keyed (value : β)

/-- The value of a field whose key does not occur. -/
def Absence.inObject {β : Type} : Absence β → Option β
  | .required => none
  | .default value => some value
  | .keyed value => some value

/-- The value of a field that a sequence ends before. -/
def Absence.inSequence {β : Type} : Absence β → Option β
  | .required => none
  | .default value => some value
  | .keyed _ => none

/-- The fields of a record in declaration order; the type is the product of the
types of their values. -/
inductive Fields : Type → Type 1 where
  | nil : Fields Unit
  | cons {β γ : Type} (key : String) (value : Reader β) (absence : Absence β)
      (others : Fields γ) : Fields (β × γ)

/-- How a kind of record is written and named. -/
structure RecordStyle where
  /-- What messages expect in the place of another type. -/
  expected : String
  /-- The values may also stand in a sequence, in declaration order. -/
  sequential : Bool
  /-- A key may occur again, and then replaces what was there. -/
  repeatable : Bool

namespace Fields

/-- The number of fields. -/
def size : {α : Type} → Fields α → Nat
  | _, .nil => 0
  | _, .cons _ _ _ others => others.size + 1

/-- The keys in declaration order. -/
def keys : {α : Type} → Fields α → List String
  | _, .nil => []
  | _, .cons key _ _ others => key :: others.keys

/-- A place for the value of each field. -/
def Slots : {α : Type} → Fields α → Type
  | _, .nil => Unit
  | _, .cons (β := β) _ _ _ others => Option β × Slots others

/-- Places without values. -/
def empty : {α : Type} → (fields : Fields α) → Slots fields
  | _, .nil => ()
  | _, .cons _ _ _ others => (none, empty others)

/-- Reads the value of a known key, after the key, into its place.  The result is
nothing if no field has that key. -/
def readMember? (repeatable : Bool) (key : String) :
    {α : Type} → (fields : Fields α) → Slots fields → List Char →
      Option (Except Failure (Slots fields × List Char))
  | _, .nil, _, _ => none
  | _, .cons name value _ others, slots, s =>
      if name = key then
        if slots.1.isSome ∧ !repeatable then some (.error (.mismatch (.duplicateField key)))
        else
          some do
            let (b, rest) ← value (← readColon s)
            .ok ((some b, slots.2), rest)
      else
        (readMember? repeatable key others slots.2 s).map fun result =>
          result.map fun (later, rest) => ((slots.1, later), rest)

/-- Reads the value of any key, after the key.  The value of an unknown key is
passed over. -/
def readMember {α : Type} (repeatable : Bool) (fields : Fields α) (key : String)
    (slots : Slots fields) (s : List Char) : Except Failure (Slots fields × List Char) :=
  match readMember? repeatable key fields slots s with
  | some result => result
  | none => do
      let rest ← skipValue (← readColon s)
      .ok (slots, rest)

/-- Reads the members of an object, each of which takes a character. -/
def readMembers {α : Type} (repeatable : Bool) (fields : Fields α) :
    Nat → Bool → Slots fields → List Char → Except Failure (Slots fields × List Char)
  | 0, _, _, _ => .error .incomplete
  | steps + 1, first, slots, s => do
      match ← nextKey first s with
      | .done rest => .ok (slots, rest)
      | .entry rest =>
          let (key, rest) ← readString rest
          let (slots, rest) ← readMember repeatable fields key slots rest
          readMembers repeatable fields steps false slots rest

/-- The values of all fields, or the first that is missing. -/
def finish : {α : Type} → (fields : Fields α) → Slots fields → Except Failure α
  | _, .nil, _ => .ok ()
  | _, .cons key _ absence others, slots =>
      match slots.1.or absence.inObject with
      | none => .error (.mismatch (.missingField key))
      | some b => (finish others slots.2).map fun rest => (b, rest)

/-- Reads the values from a sequence, up to its end or to the last field; `count`
values have been read before. -/
def readSequence (expected : String) :
    {α : Type} → (fields : Fields α) → Nat → List Char → Except Failure (α × List Char)
  | _, .nil, _, s => .ok ((), s)
  | _, .cons _ value absence others, count, s => do
      match ← nextElement (count = 0) s with
      | .done _ =>
          match absence.inSequence with
          | none => .error (.mismatch (.wrongLength count expected))
          | some b =>
              let (rest, s) ← readSequence expected others count s
              .ok ((b, rest), s)
      | .entry s =>
          let (b, s) ← value s
          let (rest, s) ← readSequence expected others (count + 1) s
          .ok ((b, rest), s)

/-- The record among members given as keys and texts of values, in any order: a
known key occurs at most once, its text is read as a whole, and a field without
it has its default. -/
def describe : {α : Type} → Fields α → List (String × List Char) → Option α
  | _, .nil, _ => some ()
  | _, .cons key value absence others, members => do
      let b ←
        match members.filter fun member => member.1 = key with
        | [] => absence.inObject
        | [member] =>
            match value member.2 with
            | .ok (b, rest) => if skipSpace rest = [] then some b else none
            | .error _ => none
        | _ => none
      let rest ← others.describe members
      return (b, rest)

end Fields

/-- Reads the end of a sequence. -/
def readSequenceEnd (s : List Char) : Except Failure (List Char) :=
  match skipSpace s with
  | [] => .error .incomplete
  | c :: rest => if c = ']' then .ok rest else .error .malformed

/-- The size of a record as messages expect it. -/
def RecordStyle.expectedLength (style : RecordStyle) (size : Nat) : String :=
  style.expected ++ " with " ++ Text.decimal size ++
    (if size = 1 then " element" else " elements")

/-- Reads a record from the keyed members of an object or, where the style allows
it, from a sequence. -/
def readRecord {α : Type} (style : RecordStyle) (fields : Fields α) : Reader α := fun s =>
  match skipSpace s with
  | [] => .error .incomplete
  | c :: rest =>
      if c = '{' then do
        let (slots, rest) ←
          fields.readMembers style.repeatable (rest.length + 1) true fields.empty rest
        let a ← fields.finish slots
        .ok (a, rest)
      else if c = '[' ∧ style.sequential then do
        let (a, rest) ← fields.readSequence (style.expectedLength fields.size) 0 rest
        let rest ← readSequenceEnd rest
        .ok (a, rest)
      else .error (wrongType style.expected c rest)

/-- The style of a plain record: a sequence is allowed and keys are unique. -/
def plainRecord (name : String) : RecordStyle :=
  ⟨"struct " ++ name, true, false⟩

/-- The style of an object of the Kubernetes API: only keyed members, of which the
last with a key counts. -/
def apiRecord (name : String) : RecordStyle :=
  ⟨name, false, true⟩

end ClusterWatch.Json
