import Agenda.Json.Codec

/-! Records: JSON objects with known fields. A record is also read from an array that holds the
values of the fields in order. -/
namespace Agenda.Json

/-- The fields of a record in order, the type of their values together and that of the values read
so far, each of which may still be missing. A field with a fallback need not come at all. -/
inductive Fields : Type → Type → Type 1
  | done : Fields Unit Unit
  | field {α ρ σ : Type} (key : String) (codec : Codec α) (fallback : Option α)
      (rest : Fields ρ σ) : Fields (α × ρ) (Option α × σ)

namespace Fields

def vacant : {ρ σ : Type} → Fields ρ σ → σ
  | _, _, .done => ()
  | _, _, .field _ _ _ rest => (none, rest.vacant)

def size : {ρ σ : Type} → Fields ρ σ → Nat
  | _, _, .done => 0
  | _, _, .field _ _ _ rest => rest.size + 1

/-- The colon after a key. -/
def afterKey (input : Bytes) : Except ReadError Bytes :=
  match skipBlanks input with
  | [] => .error .truncated
  | c :: rest => if c = colon then .ok rest else .error .malformed

/-- Reads what follows a key. A key that was there before is refused at once, and the value of an
unknown one is passed over. -/
def readMember : {ρ σ : Type} → Fields ρ σ → String → Bytes → σ → Except ReadError (σ × Bytes)
  | _, _, .done, _, input, () => match afterKey input with
    | .error e => .error e
    | .ok input => match skipValue input with
      | .error e => .error e
      | .ok rest => .ok ((), rest)
  | _, _, .field key codec _ more, k, input, (slot, slots) =>
    if k = key then match slot with
      | some _ => .error (.mismatch (.duplicateField key))
      | none => match afterKey input with
        | .error e => .error e
        | .ok input => match codec.read input with
          | .error e => .error e
          | .ok (x, rest) => .ok ((some x, slots), rest)
    else match more.readMember k input slots with
      | .error e => .error e
      | .ok (slots, rest) => .ok ((slot, slots), rest)

/-- The values of all fields. The first field that is missing counts. -/
def collect : {ρ σ : Type} → Fields ρ σ → σ → Except ReadError ρ
  | _, _, .done, () => .ok ()
  | _, _, .field key _ fallback more, (slot, slots) => match slot <|> fallback with
    | none => .error (.mismatch (.missingField key))
    | some x => match more.collect slots with
      | .error e => .error e
      | .ok xs => .ok (x, xs)

/-- Whether an object goes on, and the rest from after the opening quote of its next key. -/
def nextKey (first : Bool) (input : Bytes) : Except ReadError (Bool × Bytes) :=
  let key : Bytes → Except ReadError (Bool × Bytes)
    | [] => .error .truncated
    | c :: rest => if c = quote then .ok (true, rest) else .error .malformed
  match skipBlanks input with
  | [] => .error .truncated
  | c :: rest =>
    if c = closeBrace then .ok (false, rest)
    else if first then key (c :: rest)
    else if c = comma then key (skipBlanks rest)
    else .error .malformed

/-- The members of an object, its closing brace included. Every member takes a byte, so the length
of the input is enough of `fuel`. -/
def readMembers {ρ σ : Type} (fs : Fields ρ σ) :
    Nat → Bool → σ → Bytes → Except ReadError (σ × Bytes)
  | 0, _, _, _ => .error .truncated
  | fuel + 1, first, slots, input => match nextKey first input with
    | .error e => .error e
    | .ok (false, rest) => .ok (slots, rest)
    | .ok (true, rest) => match readString rest with
      | .error e => .error e
      | .ok (k, rest) => match fs.readMember k rest slots with
        | .error e => .error e
        | .ok (slots, rest) => readMembers fs fuel false slots rest

/-- The values of the fields in an array, from field number `index` of the record on. In an array
that is too short the first field without a fallback counts. -/
def readElements (name : String) (total : Nat) : {ρ σ : Type} → Fields ρ σ → Nat → Bytes →
    Except ReadError (ρ × Bytes)
  | _, _, .done, _, input => .ok ((), input)
  | _, _, .field _ codec fallback more, index, input => match nextElement (index = 0) input with
    | .error e => .error e
    | .ok (false, rest) => match fallback with
      | none => .error (.mismatch (.wrongLength index name total))
      | some x => match readElements name total more (index + 1) rest with
        | .error e => .error e
        | .ok (xs, rest) => .ok ((x, xs), rest)
    | .ok (true, rest) => match codec.read rest with
      | .error e => .error e
      | .ok (x, rest) => match readElements name total more (index + 1) rest with
        | .error e => .error e
        | .ok (xs, rest) => .ok ((x, xs), rest)

def read {ρ σ : Type} (name : String) (fs : Fields ρ σ) (input : Bytes) :
    Except ReadError (ρ × Bytes) :=
  match skipBlanks input with
  | [] => .error .truncated
  | c :: rest =>
    if c = openBrace then
      match fs.readMembers (rest.length + 1) true fs.vacant rest with
      | .error e => .error e
      | .ok (slots, rest) => match fs.collect slots with
        | .error e => .error e
        | .ok xs => .ok (xs, rest)
    else if c = openBracket then
      match readElements name fs.size fs 0 rest with
      | .error e => .error e
      | .ok (xs, rest) => match endArray rest with
        | .error e => .error e
        | .ok rest => .ok (xs, rest)
    else .error (unexpected (.record name) c rest)

/-- The members of the object in order. -/
def members : {ρ σ : Type} → Fields ρ σ → ρ → List String
  | _, _, .done, () => []
  | _, _, .field key codec _ more, (x, xs) =>
    (writeText key ++ ":" ++ codec.write x) :: more.members xs

def write {ρ σ : Type} (fs : Fields ρ σ) (xs : ρ) : String :=
  "\x7b" ++ ",".intercalate (fs.members xs) ++ "\x7d"

end Fields

/-- The codec of a record whose values together make an `α`. -/
def Codec.record {α ρ σ : Type} (name : String) (fs : Fields ρ σ) (make : ρ → α) (parts : α → ρ) :
    Codec α where
  read input := match fs.read name input with
    | .error e => .error e
    | .ok (xs, rest) => .ok (make xs, rest)
  write x := fs.write (parts x)

end Agenda.Json
