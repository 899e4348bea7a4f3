import Agenda.Json.Skip
import Mathlib.Data.List.Basic

/-! What JSON is, said without its readers: blanks, strings in all their spellings, numbers, and
values inside one another to any depth. -/
namespace Agenda.Json

def IsBlanks (b : Bytes) : Prop := ∀ c ∈ b, isBlank c = true

instance : DecidablePred IsBlanks := fun b => List.decidableBAll _ b

theorem skipBlanks_append {b : Bytes} (blanks : IsBlanks b) (input : Bytes) :
    skipBlanks (b ++ input) = skipBlanks input :=
  List.dropWhile_append_of_pos blanks

/-! ## Strings -/

/-- The byte stands for itself inside a string. -/
structure IsPlain (b : UInt8) : Prop where
  printable : ¬ b < 0x20
  not_quote : b ≠ quote
  not_backslash : b ≠ backslash

/-- What may follow a backslash, other than a number, and the byte that it stands for. -/
def shortEscapes : List (UInt8 × UInt8) :=
  [(quote, quote), (backslash, backslash), (0x2F, 0x2F), (0x62, 0x08), (0x66, 0x0C), (0x6E, 0x0A),
    (0x72, 0x0D), (0x74, 0x09)]

theorem shortEscape?_of_mem :
    ∀ e ∈ shortEscapes, e.1 ≠ letterU ∧ shortEscape? e.1 = some e.2 :=
  List.forall_iff_forall_mem.mp (by decide)

/-- Four hexadecimal digits and their number. -/
inductive IsUnit : Bytes → Nat → Prop
  | digits {a b c d : UInt8} {w x y z : Nat} (first : Text.hexDigit? a = some w)
    (second : Text.hexDigit? b = some x) (third : Text.hexDigit? c = some y)
    (fourth : Text.hexDigit? d = some z) :
    IsUnit [a, b, c, d] (((w * 16 + x) * 16 + y) * 16 + z)

/-- Numbers that stand for a character beyond 16 bits, one of each in this order. -/
def IsHigh (n : Nat) : Prop := 0xD800 ≤ n ∧ n ≤ 0xDBFF
def IsLow (n : Nat) : Prop := 0xDC00 ≤ n ∧ n ≤ 0xDFFF

def ofPair (high low : Nat) : Char :=
  Char.ofNat (0x10000 + (high - 0xD800) * 0x400 + (low - 0xDC00))

def escape (u : Bytes) : Bytes := backslash :: letterU :: u

/-- What stands between two quotes spells these bytes: each by itself or escaped, in whatever
way. -/
inductive Spelling : Bytes → Bytes → Prop
  | nil : Spelling [] []
  | plain {b : UInt8} {k t : Bytes} (here : IsPlain b) (later : Spelling k t) :
    Spelling (b :: k) (b :: t)
  | short {e : UInt8 × UInt8} {k t : Bytes} (here : e ∈ shortEscapes) (later : Spelling k t) :
    Spelling (backslash :: e.1 :: k) (e.2 :: t)
  | single {u k t : Bytes} {n : Nat} (here : IsUnit u n) (not_high : ¬ IsHigh n)
    (not_low : ¬ IsLow n) (later : Spelling k t) :
    Spelling (escape u ++ k) (String.utf8EncodeChar (Char.ofNat n) ++ t)
  | pair {u v k t : Bytes} {m n : Nat} (first : IsUnit u m) (high : IsHigh m) (second : IsUnit v n)
    (low : IsLow n) (later : Spelling k t) :
    Spelling (escape u ++ (escape v ++ k)) (String.utf8EncodeChar (ofPair m n) ++ t)

/-- What may stand between two quotes, also where the numbers do not make up characters. -/
inductive IsInner : Bytes → Prop
  | nil : IsInner []
  | plain {b : UInt8} {k : Bytes} (here : IsPlain b) (later : IsInner k) : IsInner (b :: k)
  | short {e : UInt8 × UInt8} {k : Bytes} (here : e ∈ shortEscapes) (later : IsInner k) :
    IsInner (backslash :: e.1 :: k)
  | unit {u k : Bytes} {n : Nat} (here : IsUnit u n) (later : IsInner k) : IsInner (escape u ++ k)

theorem Spelling.isInner {k t : Bytes} (h : Spelling k t) : IsInner k := by
  induction h with
  | nil => exact .nil
  | plain here _ ih => exact .plain here ih
  | short here _ ih => exact .short here ih
  | single here _ _ _ ih => exact .unit here ih
  | pair first _ second _ _ ih => exact .unit first (.unit second ih)

def quoted (k : Bytes) : Bytes := quote :: (k ++ [quote])

/-! ## Numbers -/

def AllDigits (ds : Bytes) : Prop := ∀ c ∈ ds, (digit? c).isSome

instance : DecidablePred AllDigits := fun ds => List.decidableBAll _ ds

/-- A zero, or digits that do not begin with one. -/
inductive IsWhole : Bytes → Prop
  | zero : IsWhole [0x30]
  | digits {d : UInt8} {ds : Bytes} (all : AllDigits (d :: ds)) (nonzero : d ≠ 0x30) :
    IsWhole (d :: ds)

inductive IsFraction : Bytes → Prop
  | none : IsFraction []
  | digits {ds : Bytes} (all : AllDigits ds) (some_digit : ds ≠ []) : IsFraction (0x2E :: ds)

inductive IsExponent : Bytes → Prop
  | none : IsExponent []
  | digits {e : UInt8} {sign ds : Bytes} (letter : e = 0x65 ∨ e = 0x45)
    (signed : sign = [] ∨ sign = [0x2B] ∨ sign = [0x2D]) (all : AllDigits ds)
    (some_digit : ds ≠ []) : IsExponent (e :: (sign ++ ds))

inductive IsNumber : Bytes → Prop
  | parts {sign whole fraction exponent : Bytes} (signed : sign = [] ∨ sign = [0x2D])
    (w : IsWhole whole) (f : IsFraction fraction) (e : IsExponent exponent) :
    IsNumber (sign ++ (whole ++ (fraction ++ exponent)))

/-! ## Values -/

/-- Values that hold no others. -/
inductive IsScalar : Bytes → Prop
  | null : IsScalar (Text.bytes "null")
  | yes : IsScalar (Text.bytes "true")
  | no : IsScalar (Text.bytes "false")
  | text {k : Bytes} (h : IsInner k) : IsScalar (quoted k)
  | number {v : Bytes} (h : IsNumber v) : IsScalar v

def Frame.opening : Frame → UInt8
  | .array => openBracket
  | .object => openBrace

def Frame.closing : Frame → UInt8
  | .array => closeBracket
  | .object => closeBrace

/-- An element of an array, which has no name, or a member of an object. The name is what stands
between its quotes, and the value comes with the blanks before it. -/
structure Entry where
  name : Bytes
  value : Bytes

/-- The name spells this text. -/
def Entry.IsNamed (e : Entry) (s : String) : Prop := Spelling e.name (Text.bytes s)

/-- What stands before the value of an entry. -/
inductive Leads (name : Bytes) : Frame → Bytes → Prop
  | element (unnamed : name = []) : Leads name .array []
  | member {a b : Bytes} (before : IsBlanks a) (inner : IsInner name) (behind : IsBlanks b) :
    Leads name .object (a ++ quote :: (name ++ quote :: (b ++ [colon])))

/-- What a piece of JSON is: a value, or what an array or object holds. -/
inductive Shape
  | value
  | entries (frame : Frame) (es : List Entry)

inductive IsJson : Shape → Bytes → Prop
  | scalar {b v : Bytes} (before : IsBlanks b) (h : IsScalar v) : IsJson .value (b ++ v)
  | empty {b inside : Bytes} (frame : Frame) (before : IsBlanks b) (blank : IsBlanks inside) :
    IsJson .value (b ++ frame.opening :: (inside ++ [frame.closing]))
  | nested {frame : Frame} {es : List Entry} {b inside : Bytes} (before : IsBlanks b)
    (h : IsJson (.entries frame es) inside) :
    IsJson .value (b ++ frame.opening :: (inside ++ [frame.closing]))
  | last {frame : Frame} {e : Entry} {lead b : Bytes} (leads : Leads e.name frame lead)
    (h : IsJson .value e.value) (behind : IsBlanks b) :
    IsJson (.entries frame [e]) (lead ++ (e.value ++ b))
  | next {frame : Frame} {e : Entry} {es : List Entry} {lead b later : Bytes}
    (leads : Leads e.name frame lead) (h : IsJson .value e.value) (behind : IsBlanks b)
    (more : IsJson (.entries frame es) later) :
    IsJson (.entries frame (e :: es)) (lead ++ (e.value ++ (b ++ comma :: later)))

def IsValue (v : Bytes) : Prop := IsJson .value v

/-- A document that is one object with these members, and blanks around it. -/
inductive IsObject : List Entry → Bytes → Prop
  | empty {a b inside : Bytes} (before : IsBlanks a) (blank : IsBlanks inside)
    (behind : IsBlanks b) : IsObject [] (a ++ openBrace :: (inside ++ closeBrace :: b))
  | members {ms : List Entry} {a b inside : Bytes} (before : IsBlanks a)
    (h : IsJson (.entries .object ms) inside) (behind : IsBlanks b) :
    IsObject ms (a ++ openBrace :: (inside ++ closeBrace :: b))

/-! ## Members one after the other -/

/-- What stands before a member that is not the first, or before the first one. -/
inductive Separator : Bool → Bytes → Prop
  | none : Separator true []
  | comma {b : Bytes} (behind : IsBlanks b) : Separator false (b ++ [comma])

/-- The text of these members, of which the first may come right after the opening brace, in any
layout and up to the brace that closes their object. -/
inductive Laid : Bool → List Entry → Bytes → Prop
  | nil {first : Bool} {b : Bytes} (blank : IsBlanks b) : Laid first [] b
  | cons {first : Bool} {e : Entry} {es : List Entry} {separator lead inside : Bytes}
    (separated : Separator first separator) (leads : Leads e.name .object lead)
    (more : Laid false es inside) :
    Laid first (e :: es) (separator ++ (lead ++ (e.value ++ inside)))

/-- The entry is this member, given as its key and the text of its value. -/
def Entry.Denotes (e : Entry) (m : String × Bytes) : Prop := e.IsNamed m.1 ∧ e.value = m.2

theorem Laid.after_comma {es : List Entry} {b inside : Bytes} (h : Laid true es inside)
    (some_member : es ≠ []) (behind : IsBlanks b) : Laid false es (b ++ comma :: inside) := by
  cases h with
  | nil => exact absurd rfl some_member
  | cons separated leads more =>
    cases separated
    have text := Laid.cons (.comma behind) leads more
    simpa only [List.append_assoc, List.cons_append, List.nil_append] using text

theorem IsJson.laid {es : List Entry} {inside : Bytes} (h : IsJson (.entries .object es) inside) :
    es ≠ [] ∧ Laid true es inside ∧ ∀ e ∈ es, IsValue e.value := by
  generalize same : Shape.entries .object es = shape at h
  induction h generalizing es with
  | scalar | empty | nested => cases same
  | last leads h behind =>
    cases same
    refine ⟨List.cons_ne_nil _ _, .cons .none leads (.nil behind), ?_⟩
    rintro e (_ | ⟨_, ⟨⟩⟩)
    exact h
  | next leads h behind more _ ih =>
    cases same
    obtain ⟨some_member, later, values⟩ := ih rfl
    refine ⟨List.cons_ne_nil _ _, .cons .none leads (later.after_comma some_member behind), ?_⟩
    rintro e (_ | ⟨_, member⟩)
    · exact h
    · exact values e member

theorem IsObject.laid {es : List Entry} {text : Bytes} (h : IsObject es text) :
    ∃ a inside b, IsBlanks a ∧ IsBlanks b ∧
      text = a ++ openBrace :: (inside ++ closeBrace :: b) ∧
      Laid true es inside ∧ ∀ e ∈ es, IsValue e.value := by
  cases h with
  | empty before blank behind =>
    exact ⟨_, _, _, before, behind, rfl, .nil blank, fun e member => by cases member⟩
  | members before h behind => exact ⟨_, _, _, before, behind, rfl, h.laid.2⟩

theorem IsObject.values {es : List Entry} {text : Bytes} (h : IsObject es text) :
    ∀ e ∈ es, IsValue e.value := by
  obtain ⟨-, -, -, -, -, -, -, values⟩ := h.laid
  exact values

end Agenda.Json
