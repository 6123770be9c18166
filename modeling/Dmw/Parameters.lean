import Dmw.GraphNames
import Dmw.Identity

/-!
# Parameters

Typed parameter values with their declared constraints, the grammar of
parameter names, and the literals of command-line overrides. Integers are
64-bit words. Floating-point arithmetic enters only through a fixed set of
total operations, about which nothing is assumed.
-/

namespace Dmw.Parameters

open Identity GraphNames

/-- Operations on `double` that the parameter code uses. Equality need be
neither reflexive nor the identity of representations. -/
class FloatingPoint (δ : Type) where
  /-- Equality. -/
  equal : δ → δ → Bool
  /-- Strict order. -/
  less : δ → δ → Bool
  /-- Weak order. -/
  lessEqual : δ → δ → Bool
  /-- Sum. -/
  plus : δ → δ → δ
  /-- Difference. -/
  minus : δ → δ → δ
  /-- Quotient. -/
  quotient : δ → δ → δ
  /-- Nearest integer. -/
  round : δ → δ
  /-- Absolute value. -/
  fabs : δ → δ
  /-- Test for not-a-number. -/
  isNan : δ → Bool
  /-- Test for a finite number. -/
  isFinite : δ → Bool
  /-- Zero, also the default of every range field. -/
  zero : δ
  /-- Tolerance of range checks. -/
  epsilon : δ
  /-- Longest numeric beginning of some octets: its value and its length. -/
  strtod : ByteString → δ × ℕ

/-- Parameter value kinds. -/
inductive ParameterType
  | notSet
  | bool
  | integer
  | double
  | string
  | byteArray
  | boolArray
  | integerArray
  | doubleArray
  | stringArray
  deriving DecidableEq, Repr

/-- Type-tagged parameter value. -/
inductive ParameterValue (δ : Type)
  | notSet
  | bool (value : Bool)
  | integer (value : Int64)
  | double (value : δ)
  | string (value : ByteString)
  | byteArray (value : List UInt8)
  | boolArray (value : List Bool)
  | integerArray (value : List Int64)
  | doubleArray (value : List δ)
  | stringArray (value : List ByteString)

variable {δ : Type} [FloatingPoint δ]

omit [FloatingPoint δ] in
/-- Kind of a value. -/
def ParameterValue.type : ParameterValue δ → ParameterType
  | .notSet => .notSet
  | .bool _ => .bool
  | .integer _ => .integer
  | .double _ => .double
  | .string _ => .string
  | .byteArray _ => .byteArray
  | .boolArray _ => .boolArray
  | .integerArray _ => .integerArray
  | .doubleArray _ => .doubleArray
  | .stringArray _ => .stringArray

/-- Whether there is a value at all. -/
def ParameterValue.isSet (value : ParameterValue δ) : Bool := value.type ≠ .notSet

/-- Whether two values compare equal. -/
def ParameterValue.equal : ParameterValue δ → ParameterValue δ → Bool
  | .notSet, .notSet => true
  | .bool a, .bool b => a = b
  | .integer a, .integer b => a = b
  | .double a, .double b => FloatingPoint.equal a b
  | .string a, .string b => a = b
  | .byteArray a, .byteArray b => a = b
  | .boolArray a, .boolArray b => a = b
  | .integerArray a, .integerArray b => a = b
  | .doubleArray a, .doubleArray b => a.isEqv b FloatingPoint.equal
  | .stringArray a, .stringArray b => a = b
  | _, _ => false

/-- A name with a value. -/
structure Parameter (δ : Type) where
  /-- Name. -/
  name : ByteString
  /-- Value. -/
  value : ParameterValue δ

/-- Accepted integers; without a step, all between the bounds. -/
structure IntegerRange where
  /-- Lower bound. -/
  fromValue : Int64 := 0
  /-- Upper bound. -/
  toValue : Int64 := 0
  /-- Distance of accepted values, zero for none. -/
  step : UInt64 := 0
  deriving DecidableEq

/-- Accepted floating-point numbers; without a step, all between the bounds. -/
structure FloatingPointRange (δ : Type) where
  /-- Lower bound. -/
  fromValue : δ
  /-- Upper bound. -/
  toValue : δ
  /-- Distance of accepted values, zero for none. -/
  step : δ

/-- Declared constraints of one parameter. -/
structure ParameterDescriptor (δ : Type) where
  /-- Text for humans. -/
  description : ByteString := []
  /-- More text for humans. -/
  additionalConstraints : ByteString := []
  /-- The value is never assigned. -/
  readOnly : Bool := false
  /-- The kind of the value may change. -/
  dynamicTyping : Bool := false
  /-- Accepted integers, all if empty. -/
  integerRanges : List IntegerRange := []
  /-- Accepted floating-point numbers, all if empty. -/
  floatingPointRanges : List (FloatingPointRange δ) := []

/-- What changed since the changes were last taken. -/
structure ParameterChangeSet (δ : Type) where
  /-- Declared parameters. -/
  newParameters : List (Parameter δ) := []
  /-- Parameters with a new value. -/
  changedParameters : List (Parameter δ) := []
  /-- Undeclared parameters with their last value. -/
  deletedParameters : List (Parameter δ) := []

/-- Whether a range accepts an integer. The offset from the lower bound is taken
modulo the word size. -/
def integerValueIsAcceptable (value : Int64) (range : IntegerRange) : Bool :=
  if range.fromValue > range.toValue then false
  else if value < range.fromValue ∨ value > range.toValue then false
  else if range.step ≠ 0 then
    let offset := value.toUInt64 - range.fromValue.toUInt64
    offset % range.step = 0
  else true

/-- Whether a range accepts a floating-point number, up to the tolerance. -/
def doubleValueIsAcceptable (value : δ) (range : FloatingPointRange δ) : Bool :=
  if FloatingPoint.isNan value then false
  else if FloatingPoint.less range.toValue range.fromValue then false
  else if FloatingPoint.less value (FloatingPoint.minus range.fromValue FloatingPoint.epsilon) ||
      FloatingPoint.less (FloatingPoint.plus range.toValue FloatingPoint.epsilon) value then false
  else if FloatingPoint.less FloatingPoint.zero range.step then
    let offset := FloatingPoint.minus value range.fromValue
    let ratio := FloatingPoint.quotient offset range.step
    let nearest := FloatingPoint.round ratio
    !FloatingPoint.less FloatingPoint.epsilon
      (FloatingPoint.fabs (FloatingPoint.minus ratio nearest))
  else true

/-- A letter or an underscore. -/
def isTokenStart (octet : UInt8) : Bool :=
  0x61 ≤ octet ∧ octet ≤ 0x7A ∨ 0x41 ≤ octet ∧ octet ≤ 0x5A ∨ octet = 0x5F

/-- A decimal digit. -/
def isDigit (octet : UInt8) : Bool := 0x30 ≤ octet ∧ octet ≤ 0x39

/-- A letter, an underscore or a digit. -/
def isTokenChar (octet : UInt8) : Bool := isTokenStart octet || isDigit octet

/-- The octet between tokens. -/
def dot : UInt8 := 0x2E

/-- Walk over the rest of a name from an index, within the token that began at
`tokenStart`. -/
def validateTokens (index tokenStart : ℕ) : ByteString → Result Unit
  | [] =>
    if index = tokenStart then .error ⟨.invalidName, "Parameter name contains an empty token"⟩
    else .ok ()
  | octet :: rest =>
    if octet ≠ dot then
      if index = tokenStart then
        if isTokenStart octet then validateTokens (index + 1) tokenStart rest
        else .error ⟨.invalidName, "Parameter name token must start with a letter or underscore"⟩
      else if isTokenChar octet then validateTokens (index + 1) tokenStart rest
      else .error ⟨.invalidName, "Parameter name contains an invalid character"⟩
    else if index = tokenStart then
      .error ⟨.invalidName, "Parameter name contains an empty token"⟩
    else validateTokens (index + 1) (index + 1) rest

/-- Check a name against the grammar of parameter names. -/
def validateParameterName (name : ByteString) : Result Unit :=
  if name = [] then .error ⟨.invalidName, "Parameter name is empty"⟩
  else if name.head? = some dot ∨ name.getLast? = some dot then
    .error ⟨.invalidName, "Parameter name must not start or end with '.'"⟩
  else validateTokens 0 0 name

/-- Largest positive 64-bit integer. -/
def positiveLimit : UInt64 := 0x7FFFFFFFFFFFFFFF

/-- Magnitude of the smallest 64-bit integer. -/
def magnitudeCap : UInt64 := positiveLimit + 1

/-- Read decimal digits onto a magnitude, within the cap. -/
def readMagnitude (magnitude : UInt64) : ByteString → Option UInt64
  | [] => some magnitude
  | digit :: rest =>
    if isDigit digit then
      let unit := (digit - 0x30).toUInt64
      if magnitude > (magnitudeCap - unit) / 10 then none
      else readMagnitude (magnitude * 10 + unit) rest
    else none

/-- Read a whole text as a 64-bit integer. -/
def parsesAsInteger (literal : ByteString) : Option Int64 :=
  let signed := literal.head? = some 0x2D ∨ literal.head? = some 0x2B
  let negative := literal.head? = some 0x2D
  let digits := if signed then literal.tail else literal
  if digits = [] then none
  else
    match readMagnitude 0 digits with
    | none => none
    | some magnitude =>
      if ¬ negative then
        if magnitude > positiveLimit then none else some magnitude.toInt64
      else if magnitude = magnitudeCap then some Int64.minValue
      else some (-magnitude.toInt64)

/-- Read a whole text as a floating-point number; it has to carry a point or an
exponent. The text ends at its first zero octet, if it has one. -/
def parsesAsDouble (literal : ByteString) : Option δ :=
  if ¬ (0x2E ∈ literal ∨ 0x65 ∈ literal ∨ 0x45 ∈ literal) then none
  else
    let (parsed, length) := FloatingPoint.strtod (literal.takeWhile (· ≠ 0))
    if (literal.drop length).head?.getD 0 ≠ 0 then none else some parsed

/-- Read one override literal. What is neither a truth value nor a number stays
text. -/
def parseParameterLiteral (literal : ByteString) : ParameterValue δ :=
  if literal = text "true" then .bool true
  else if literal = text "false" then .bool false
  else
    match parsesAsInteger literal with
    | some integer => .integer integer
    | none =>
      match parsesAsDouble literal with
      | some floating => .double floating
      | none => .string literal

/-- One override as it was given. -/
structure ParameterOverride where
  /-- Parameter name, after a colon if a node is named first. -/
  name : ByteString
  /-- Literal. -/
  value : ByteString
  deriving DecidableEq

/-- The octet between a node and a parameter name. -/
def colon : UInt8 := 0x3A

/-- Drop one leading slash. -/
def unqualified (name : ByteString) : ByteString :=
  if name.head? = some slash then name.tail else name

/-- The parameter that an override sets in a node, if it is meant for it. -/
def selectOverride (nodeName fullyQualifiedName : ByteString) (override : ParameterOverride) :
    Option (Parameter δ) :=
  if colon ∉ override.name then some ⟨override.name, parseParameterLiteral override.value⟩
  else
    let scope := unqualified (override.name.takeWhile (· ≠ colon))
    if scope = [] ∨ scope ≠ nodeName ∧ scope ≠ unqualified fullyQualifiedName then none
    else
      some ⟨(override.name.dropWhile (· ≠ colon)).tail, parseParameterLiteral override.value⟩

/-- The overrides that apply to one node identity. -/
def selectParameterOverrides (overrides : List ParameterOverride)
    (nodeName fullyQualifiedName : ByteString) : List (Parameter δ) :=
  overrides.filterMap (selectOverride nodeName fullyQualifiedName)

/-- An integer lies between the bounds of a range, a multiple of the step away
from the lower one. -/
def OnGrid (value : Int64) (range : IntegerRange) : Prop :=
  range.fromValue.toInt ≤ value.toInt ∧ value.toInt ≤ range.toValue.toInt ∧
    (range.step ≠ 0 → (range.step.toNat : ℤ) ∣ value.toInt - range.fromValue.toInt)

/-- Above the lower bound the offset does not wrap. -/
theorem toNat_offset {value start : Int64} (hle : start.toInt ≤ value.toInt) :
    ((value.toUInt64 - start.toUInt64).toNat : ℤ) = value.toInt - start.toInt := by
  have hread : ∀ x : Int64, x.toInt =
      if 2 * x.toUInt64.toNat < 2 ^ 64 then (x.toUInt64.toNat : ℤ)
      else (x.toUInt64.toNat : ℤ) - (2 ^ 64 : ℕ) := fun x => BitVec.toInt_eq_toNat_cond x.toBitVec
  have hv := value.toUInt64.toNat_lt
  have hs := start.toUInt64.toNat_lt
  have hvalue := hread value
  have hstart := hread start
  rw [UInt64.toNat_sub]
  split at hvalue <;> split at hstart <;> omega

/-- A range accepts exactly what is on its grid. -/
theorem integerValueIsAcceptable_iff {value : Int64} {range : IntegerRange} :
    integerValueIsAcceptable value range = true ↔ OnGrid value range := by
  unfold integerValueIsAcceptable OnGrid
  simp only [gt_iff_lt, Int64.lt_iff_toInt_lt]
  by_cases hlow : range.fromValue.toInt ≤ value.toInt
  · by_cases hhigh : value.toInt ≤ range.toValue.toInt
    · rw [if_neg (by omega), if_neg (by omega)]
      simp only [hlow, hhigh, true_and]
      split
      · next hstep =>
        have hoffset := toNat_offset hlow
        have hzero : (value.toUInt64 - range.fromValue.toUInt64) % range.step = 0 ↔
            range.step.toNat ∣ (value.toUInt64 - range.fromValue.toUInt64).toNat := by
          rw [Nat.dvd_iff_mod_eq_zero, ← UInt64.toNat_mod, ← UInt64.toNat_inj]
          rfl
        rw [decide_eq_true_eq, hzero, ← hoffset, Int.natCast_dvd_natCast]
        exact ⟨fun h _ => h, fun h => h hstep⟩
      · next hstep => simp [hstep]
    · split
      · simp [hhigh]
      · rw [if_pos (Or.inr (by omega))]
        simp [hhigh]
  · split
    · simp [hlow]
    · rw [if_pos (Or.inl (by omega))]
      simp [hlow]

end Dmw.Parameters
