import Dmw.Identity
import Dmw.Scripts

/-!
# Fields of generated messages

Python holds a generated message through views. Reading a nested message gives
a view of the parent's own storage, reading an array or a sequence gives a new
list of copied elements, and assigning decodes the whole value before one swap.
-/

namespace Dmw.GeneratedMessages

open Identity Scripts

/-- What a raised exception tells. -/
inductive Exception
  /-- The value has the wrong type. -/
  | typeError (message : String)
  /-- The value is refused by a rule of the field. -/
  | valueError (message : String)
  /-- The integer does not fit. -/
  | overflowError (message : String)
  /-- The object has no such attribute. -/
  | attributeError (name : String)
  /-- A failed native call or a refused operation. -/
  | failure (error : Error)
  /-- Raised by application code. -/
  | application
  deriving DecidableEq, Repr

/-- The declared type of a field, with its size rules. -/
inductive FieldType
  | boolean
  | integer (minimum maximum : ℤ)
  | text (maximumSize : Option ℕ)
  | array (length : ℕ) (element : FieldType)
  | sequence (maximumSize : Option ℕ) (element : FieldType)
  | nested (typeName : String)
  deriving DecidableEq, Repr

/-- A stored field or message. -/
inductive Datum
  | boolean (value : Bool)
  | integer (value : ℤ)
  | text (value : String)
  | elements (values : List Datum)
  | message (typeName : String) (fields : List (String × Datum))

/-- A Python reference to a message: the object that owns the storage and the
members that lead to the viewed part. -/
structure View where
  /-- Owning object. -/
  root : ℕ
  /-- Members from the owner inwards. -/
  path : List String
  deriving DecidableEq, Repr

/-- A Python value. -/
inductive Value
  | boolean (value : Bool)
  | integer (value : ℤ)
  | text (value : String)
  | list (address : ℕ)
  | view (view : View)
  deriving DecidableEq, Repr

/-- Message objects and list objects that exist. -/
structure Memory where
  /-- Storage of message objects. -/
  messages : List Datum
  /-- Items of list objects. -/
  lists : List (List Value)

/-- One member of a generated class. -/
structure Member where
  /-- Field name. -/
  name : String
  /-- Declared type. -/
  type : FieldType
  /-- Value in a new message. -/
  initial : Datum

/-- A generated message class. -/
structure MessageClass where
  /-- Type name. -/
  typeName : String
  /-- Its members in order. -/
  members : List Member

/-- The storage of a new message. -/
def MessageClass.initial (type : MessageClass) : Datum :=
  .message type.typeName (type.members.map fun member => (member.name,member.initial))

namespace Datum

/-- A member of a message. -/
def member (name : String) : Datum → Option Datum
  | .message _ fields => fields.lookup name
  | _ => none

/-- The part that a path of members leads to. -/
def part (datum : Datum) : List String → Option Datum
  | [] => some datum
  | name :: path => (datum.member name).bind fun inner => inner.part path

/-- A message with another value for one member. -/
def replaceMember (datum : Datum) (name : String) (value : Datum) : Datum :=
  match datum with
  | .message typeName fields =>
    .message typeName (fields.map fun field => if field.1 = name then (name,value) else field)
  | _ => datum

/-- A message with another value at the end of a path. -/
def replace (datum : Datum) (value : Datum) : List String → Datum
  | [] => value
  | name :: path =>
    match datum.member name with
    | none => datum
    | some inner => datum.replaceMember name (inner.replace value path)

/-- Another member keeps its value. -/
theorem member_replaceMember_ne {name other : String} (hne : other ≠ name) (datum value : Datum) :
    (datum.replaceMember name value).member other = datum.member other := by
  cases datum with
  | message typeName fields =>
    simp only [replaceMember,member]
    induction fields with
    | nil => rfl
    | cons field fields ih =>
      obtain ⟨fieldName, inner⟩ := field
      by_cases hfield : fieldName = name
      · have hlook : (other == fieldName) = false := by simp [hfield,hne]
        have hlook' : (other == name) = false := by simp [hne]
        simp only [List.map_cons,hfield,if_true,List.lookup_cons,hlook']
        rw [ih]
      · simp only [List.map_cons,hfield,if_false,List.lookup_cons,ih]
  | _ => rfl

/-- A path that starts elsewhere leaves a member alone. -/
theorem member_replace_ne {name other : String} {path : List String} (hne : other ≠ name)
    (datum value : Datum) : (datum.replace value (name :: path)).member other = datum.member other := by
  rw [replace]
  cases datum.member name with
  | none => rfl
  | some inner => exact member_replaceMember_ne hne _ _

end Datum

/-- Statements on messages. -/
abbrev MessageScript := Script Memory Exception

namespace Memory

/-- The storage a view shows. -/
def read (memory : Memory) (view : View) : Option Datum :=
  memory.messages[view.root]?.bind fun datum => datum.part view.path

/-- A new list object. -/
def newList (items : List Value) : MessageScript Value := do
  let memory ← Script.get
  Script.modify fun memory => {memory with lists := memory.lists ++ [items]}
  pure (.list memory.lists.length)

/-- A new message object. -/
def newMessage (storage : Datum) : MessageScript Value := do
  let memory ← Script.get
  Script.modify fun memory => {memory with messages := memory.messages ++ [storage]}
  pure (.view ⟨memory.messages.length,[]⟩)

/-- Append an item to a list object. -/
def append (target item : Value) : MessageScript Unit :=
  match target with
  | .list address => Script.modify fun memory =>
      {memory with lists := memory.lists.modify address (· ++ [item])}
  | _ => Script.raise (.attributeError "append")

mutual

/-- A copy of a stored value as a Python value. -/
def copy : Datum → MessageScript Value
  | .boolean value => pure (.boolean value)
  | .integer value => pure (.integer value)
  | .text value => pure (.text value)
  | .elements values => do
    let items ← copies values
    newList items
  | .message typeName fields => newMessage (.message typeName fields)

/-- Copies of stored values, one after the other. -/
def copies : List Datum → MessageScript (List Value)
  | [] => pure []
  | value :: rest => do
    let item ← copy value
    let items ← copies rest
    pure (item :: items)

end

/-- Read an attribute: a nested message is viewed, anything else is copied. -/
def getAttribute (target : Value) (name : String) : MessageScript Value := do
  let memory ← Script.get
  match target with
  | .view view =>
    match (memory.read view).bind (Datum.member name) with
    | none => Script.raise (.attributeError name)
    | some (.message _ _) => pure (.view ⟨view.root,view.path ++ [name]⟩)
    | some datum => copy datum
  | _ => Script.raise (.attributeError name)

/-- The items of a Python sequence. -/
def items (memory : Memory) : Value → Option (List Value)
  | .list address => memory.lists[address]?
  | _ => none

/-- Convert a Python value to a field's type, or refuse it. -/
def decode (memory : Memory) : FieldType → Value → Except Exception Datum
  | .boolean, value =>
    match value with
    | .boolean flag => .ok (.boolean flag)
    | _ => .error (.typeError "Boolean field requires bool")
  | .integer minimum maximum, value =>
    match value with
    | .integer number =>
      if minimum ≤ number ∧ number ≤ maximum then .ok (.integer number)
      else .error (.overflowError "Message integer is outside the field's range")
    | .boolean flag => .ok (.integer flag.toNat)
    | _ => .error (.typeError "Integer field requires int")
  | .text maximumSize, value =>
    match value with
    | .text content =>
      if maximumSize.all fun size => content.utf8ByteSize ≤ size then .ok (.text content)
      else .error (.valueError "String exceeds its bound")
    | _ => .error (.typeError "String field requires str")
  | .array length element, value =>
    match memory.items value with
    | none => .error (.typeError "Array or sequence field requires a sequence")
    | some values =>
      if length < values.length then .error (.valueError "Sequence exceeds its bound")
      else if values.length ≠ length then .error (.valueError "Array has the wrong length")
      else (values.mapM (decode memory element)).map .elements
  | .sequence maximumSize element, value =>
    match memory.items value with
    | none => .error (.typeError "Array or sequence field requires a sequence")
    | some values =>
      if maximumSize.all fun size => values.length ≤ size then
        (values.mapM (decode memory element)).map .elements
      else .error (.valueError "Sequence exceeds its bound")
  | .nested typeName, value =>
    match value with
    | .view view =>
      match memory.read view with
      | some (.message actual fields) =>
        if actual = typeName then .ok (.message actual fields)
        else .error (.typeError "Nested field has the wrong generated type")
      | _ => .error (.typeError "Nested field has the wrong generated type")
    | _ => .error (.typeError "Nested field has the wrong generated type")

/-- The declared member of a viewed message. -/
def findMember (classes : List MessageClass) (name : String) : Option Datum → Option Member
  | some (.message typeName _) =>
    (classes.find? (·.typeName = typeName)).bind fun type => type.members.find? (·.name = name)
  | _ => none

/-- Assign an attribute: decode first, then swap the stored value. -/
def setAttribute (classes : List MessageClass) (target : Value) (name : String) (value : Value) :
    MessageScript Unit := do
  let memory ← Script.get
  match target with
  | .view view =>
    match findMember classes name (memory.read view) with
    | none => Script.raise (.attributeError name)
    | some member => do
      let staged ← Script.lift (memory.decode member.type value)
      Script.modify fun memory =>
        {memory with
          messages := memory.messages.modify view.root fun datum =>
            datum.replace staged (view.path ++ [name])}
  | _ => Script.raise (.attributeError name)

/-- A message object stores this value for one of its members. -/
def Stores (root : ℕ) (name : String) (value : Datum) (memory : Memory) : Prop :=
  memory.messages[root]?.bind (Datum.member name) = some value

section

variable {root : ℕ} {name : String} {value : Datum}

/-- What is appended to the messages leaves the old ones alone. -/
theorem Stores.extend {memory : Memory} (h : Stores root name value memory) (storage : Datum) :
    Stores root name value {memory with messages := memory.messages ++ [storage]} := by
  unfold Stores at h ⊢
  have hroot : root < memory.messages.length := by
    by_contra hout
    rw [List.getElem?_eq_none (by omega)] at h
    exact absurd h (by simp)
  rw [List.getElem?_append_left hroot]
  exact h

/-- New objects have new addresses. -/
theorem Stores.root_lt {memory : Memory} (h : Stores root name value memory) :
    root < memory.messages.length := by
  by_contra hout
  unfold Stores at h
  rw [List.getElem?_eq_none (by omega)] at h
  exact absurd h (by simp)

/-- A new list leaves the messages alone. -/
theorem newList_keeps (items : List Value) : Script.Keeps (Stores root name value) (newList items) :=
  fun _ hs => hs

/-- A new message is none of the old ones. -/
theorem newMessage_ensures (storage : Datum) :
    Script.Ensures (Stores root name value) (newMessage storage)
      (fun result memory => (∃ fresh, result = .view ⟨fresh,[]⟩ ∧ fresh ≠ root) ∧
        Stores root name value memory)
      fun _ => Stores root name value := by
  intro memory hs
  exact ⟨⟨memory.messages.length, rfl, by have := hs.root_lt; omega⟩, hs.extend storage⟩

theorem newMessage_keeps (storage : Datum) :
    Script.Keeps (Stores root name value) (newMessage storage) :=
  (newMessage_ensures storage).weaken (fun _ h => h) (fun _ _ h => h.2) fun _ _ h => h

/-- Appending to a list changes no message: the list is detached. -/
theorem append_keeps (target item : Value) :
    Script.Keeps (Stores root name value) (append target item) := by
  cases target with
  | list address => exact Script.Ensures.modify fun _ h => h
  | _ => exact Script.Ensures.raise fun _ h => h

mutual

/-- Copying only adds objects. -/
theorem copy_keeps : ∀ datum, Script.Keeps (Stores root name value) (copy datum)
  | .boolean _ => Script.Ensures.pure fun _ h => h
  | .integer _ => Script.Ensures.pure fun _ h => h
  | .text _ => Script.Ensures.pure fun _ h => h
  | .elements values => by
    rw [copy]
    exact (copies_keeps values).bind fun items => newList_keeps items
  | .message typeName fields => by
    rw [copy]
    exact newMessage_keeps _

/-- Copying only adds objects. -/
theorem copies_keeps : ∀ data, Script.Keeps (Stores root name value) (copies data)
  | [] => Script.Ensures.pure fun _ h => h
  | datum :: rest => by
    rw [copies]
    exact (copy_keeps datum).bind fun _ => (copies_keeps rest).bind fun _ =>
      Script.Ensures.pure fun _ h => h

end

/-- Reading an attribute changes no message. -/
theorem getAttribute_keeps (target : Value) (field : String) :
    Script.Keeps (Stores root name value) (getAttribute target field) := by
  refine Script.Ensures.bind (Script.Ensures.get fun _ h => h) fun memory => ?_
  cases target with
  | view view =>
    dsimp only
    split
    · exact Script.Ensures.raise fun _ h => h
    · exact Script.Ensures.pure fun _ h => h
    · exact copy_keeps _
  | _ => exact Script.Ensures.raise fun _ h => h

/-- An assignment changes the member it names and no other one. -/
theorem setAttribute_keeps (classes : List MessageClass) {target : Value} {field : String}
    (assigned : Value)
    (helsewhere : ∀ view, target = .view view →
      view.root ≠ root ∨ (view.path ++ [field]).head? ≠ some name) :
    Script.Keeps (Stores root name value) (setAttribute classes target field assigned) := by
  refine Script.Ensures.bind (Script.Ensures.get fun _ h => h) fun memory => ?_
  cases target with
  | view view =>
    dsimp only
    split
    · exact Script.Ensures.raise fun _ h => h
    · refine Script.Ensures.bind (Script.Ensures.lift (fun _ _ h _ => h) fun _ _ h _ => h) fun staged => ?_
      refine Script.Ensures.modify fun memory h => ?_
      unfold Stores at h ⊢
      rcases helsewhere view rfl with hroot | hname
      · rw [List.getElem?_modify_ne _ _ hroot]
        exact h
      · by_cases hroot : view.root = root
        · rw [← hroot,List.getElem?_modify_eq]
          rw [← hroot] at h
          cases hstorage : memory.messages[view.root]? with
          | none =>
            rw [hstorage] at h
            exact absurd h (by simp)
          | some storage =>
            rw [hstorage] at h
            obtain ⟨first, rest, hpath⟩ : ∃ first rest, view.path ++ [field] = first :: rest := by
              cases view.path <;> exact ⟨_, _, rfl⟩
            rw [hpath] at hname ⊢
            have hne : name ≠ first := fun heq => hname (by rw [heq]; rfl)
            exact (Datum.member_replace_ne hne storage staged).trans h
        · rw [List.getElem?_modify_ne _ _ hroot]
          exact h
  | _ => exact Script.Ensures.raise fun _ h => h

end

end Memory

end Dmw.GeneratedMessages
