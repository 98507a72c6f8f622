import AmbientPulse.Json.Reader
import AmbientPulse.Json.Skim

namespace AmbientPulse.Json

/-- A field of a record: reading its value changes the record. -/
structure Field (ρ : Type) where
  name : String
  read : ρ → Reader ρ

def Field.of {ρ α : Type} (name : String) (r : Reader α) (set : ρ → α → ρ) : Field ρ :=
  ⟨name, fun record cs => (r cs).map fun v => (set record v.1, v.2)⟩

/-- A record type. What a document leaves out stays as it is in `blank`, unless all fields are
required. -/
structure Shape (ρ : Type) where
  title : String
  fields : List (Field ρ)
  blank : ρ
  required : Bool

namespace Shape

variable {ρ : Type}

def kind (s : Shape ρ) : String :=
  "struct " ++ s.title

def field? (s : Shape ρ) (name : String) : Option (Field ρ) :=
  s.fields.find? (·.name == name)

/-- The first field, in the order of the shape, that is required and has not been seen. -/
def missing? (s : Shape ρ) (seen : List String) : Option String :=
  if s.required then (s.fields.find? fun f => !seen.contains f.name).map (·.name) else none

def finish (s : Shape ρ) (seen : List String) (record : ρ) : Except Fault ρ :=
  match s.missing? seen with
  | none => .ok record
  | some name => mismatch (.missingField name)

/-- An object that is being read. -/
structure Draft (ρ : Type) where
  record : ρ
  seen : List String

/-- One member, from after the opening quote of its key. -/
def readMember (s : Shape ρ) (d : Draft ρ) (cs : List Char) :
    Except Fault (Draft ρ × List Char) := do
  let key ← readText cs
  match s.field? key.1 with
  | none =>
    let cs ← readColon key.2
    let cs ← skimValue cs
    return (d, cs)
  | some f =>
    if d.seen.contains f.name then mismatch (.repeatedField f.name)
    else
      let cs ← readColon key.2
      let r ← f.read d.record cs
      return (⟨r.1, d.seen ++ [f.name]⟩, r.2)

/-- The members after the first one and the closing brace. `fuel` bounds their number. -/
def readMembers (s : Shape ρ) : Nat → Draft ρ → List Char → Except Fault (ρ × List Char)
  | 0, _, _ => .error .malformed
  | fuel + 1, d, cs =>
    match skipSpace cs with
    | [] => .error .cut
    | '}' :: cs => (s.finish d.seen d.record).map fun record => (record, cs)
    | ',' :: cs =>
      match skipSpace cs with
      | [] => .error .cut
      | '"' :: cs => do
        let r ← s.readMember d cs
        s.readMembers fuel r.1 r.2
      | _ :: _ => .error .malformed
    | _ :: _ => .error .malformed

/-- An object, from after its opening brace. -/
def readObject (s : Shape ρ) (cs : List Char) : Except Fault (ρ × List Char) :=
  match skipSpace cs with
  | [] => .error .cut
  | '}' :: cs => (s.finish [] s.blank).map fun record => (record, cs)
  | '"' :: cs => do
    let r ← s.readMember ⟨s.blank, []⟩ cs
    s.readMembers (cs.length + 1) r.1 r.2
  | _ :: _ => .error .malformed

def endArray (cs : List Char) : Except Fault (List Char) :=
  match skipSpace cs with
  | [] => .error .cut
  | ']' :: cs => .ok cs
  | _ :: _ => .error .malformed

/-- The array ended before field number `n`. -/
def endEarly (s : Shape ρ) (n : Nat) (record : ρ) (cs : List Char) :
    Except Fault (ρ × List Char) :=
  if s.required then
    mismatch (.tooShort n s!"{s.kind} with {s.fields.length} elements")
  else .ok (record, cs)

/-- The items from number `n` on and the closing bracket. -/
def readItems (s : Shape ρ) : Nat → List (Field ρ) → ρ → List Char → Except Fault (ρ × List Char)
  | _, [], record, cs => (endArray cs).map fun cs => (record, cs)
  | n, f :: fs, record, cs =>
    match skipSpace cs with
    | [] => .error .cut
    | ']' :: cs => s.endEarly n record cs
    | c :: cs =>
      if n = 0 then do
        let r ← f.read record (c :: cs)
        s.readItems (n + 1) fs r.1 r.2
      else if c = ',' then
        match skipSpace cs with
        | [] => .error .cut
        | ']' :: _ => .error .malformed
        | cs => do
          let r ← f.read record cs
          s.readItems (n + 1) fs r.1 r.2
      else .error .malformed

/-- An object whose unknown members are passed over, or an array of the fields in their order. -/
def read (s : Shape ρ) : Reader ρ := fun cs =>
  match skipSpace cs with
  | [] => .error .cut
  | '{' :: cs => s.readObject cs
  | '[' :: cs => s.readItems 0 s.fields s.blank cs
  | cs => wrongKind s.kind cs

end Shape

end AmbientPulse.Json
