import Dmw.Scripts
import Mathlib.Data.List.Basic

/-!
# Wire buffers

Values are written one after the other into a buffer of bounded size and read
back from its bytes. How a value stands there may depend on its offset, as
alignment does. The rules say when a script reads what another one wrote, and
that it reads nothing else.
-/

namespace Dmw.WireBuffers

open Scripts

/-- Why a script on a buffer raises. -/
inductive WireError
  | notEnoughMemory
  deriving DecidableEq, Repr

/-- What was written to a buffer. -/
structure Buffer (size : ℕ) where
  /-- The bytes. -/
  bytes : List UInt8
  /-- They fit. -/
  fits : bytes.length ≤ size

/-- Nothing was written. -/
def Buffer.empty (size : ℕ) : Buffer size := ⟨[],Nat.zero_le _⟩

/-- Where a reader is. -/
structure Cursor where
  /-- The bytes it read. -/
  offset : ℕ
  /-- The bytes it has not read. -/
  rest : List UInt8
  deriving DecidableEq

/-- How the values of a type stand at an offset. -/
structure Coder (α : Type) where
  /-- What is written. -/
  write : ℕ → α → List UInt8
  /-- What is read, and what is left. -/
  read : ℕ → List UInt8 → Option (α × List UInt8)

/-- A script that writes. -/
abbrev Put (size : ℕ) := Script (Buffer size) WireError Unit

/-- A script that reads. -/
abbrev Get (α : Type) := Script Cursor WireError α

variable {size : ℕ} {α β : Type}

/-- Write a value, if there is room for it. -/
def put (coder : Coder α) (x : α) : Put size := fun b =>
  if h : (b.bytes ++ coder.write b.bytes.length x).length ≤ size then (.ok (),⟨_,h⟩)
  else (.error .notEnoughMemory,b)

/-- Read a value, if it is there. -/
def get (coder : Coder α) : Get α := fun cursor =>
  match coder.read cursor.offset cursor.rest with
  | none => (.error .notEnoughMemory,cursor)
  | some (x,rest) => (.ok x,⟨cursor.offset + (cursor.rest.length - rest.length),rest⟩)

/-- Reading undoes writing. -/
def Coder.Inverts (coder : Coder α) (valid : α → Prop) : Prop :=
  ∀ offset x rest, valid x → coder.read offset (coder.write offset x ++ rest) = some (x,rest)

/-- One of at least two values leaves a trace. -/
theorem Coder.Inverts.write_ne_nil {coder : Coder α} {valid : α → Prop} (h : coder.Inverts valid)
    {x y : α} (hx : valid x) (hy : valid y) (hne : x ≠ y) (offset : ℕ) :
    coder.write offset x ≠ [] := by
  intro hnil
  have hfirst := h offset x (coder.write offset y) hx
  have hsecond := h offset y [] hy
  rw [hnil,List.nil_append] at hfirst
  rw [List.append_nil] at hsecond
  have hpair := Option.some.inj (hfirst.symm.trans hsecond)
  exact hne (congrArg Prod.fst hpair)

/-- A script writes at least so many bytes. -/
def Adds (n : ℕ) (w : Put size) : Prop :=
  ∀ b b', w b = (.ok (),b') → b.bytes.length + n ≤ b'.bytes.length

/-- What one script writes, another one reads, and it reads nothing else. -/
def Echoes (w : Put size) (r : Get α) (x : α) : Prop :=
  ∀ b b', w b = (.ok (),b') → ∃ added, b'.bytes = b.bytes ++ added ∧
    ∀ rest, r ⟨b.bytes.length,added ++ rest⟩ = (.ok x,⟨b'.bytes.length,rest⟩)

/-- What is written follows what was there. -/
theorem put_ok {coder : Coder α} {x : α} {b b' : Buffer size} (h : put coder x b = (.ok (),b')) :
    b'.bytes = b.bytes ++ coder.write b.bytes.length x := by
  unfold put at h
  split at h
  · cases h
    rfl
  · cases h

/-! ## How much is written -/

theorem Adds.put {coder : Coder α} {x : α} {n : ℕ}
    (h : ∀ offset, n ≤ (coder.write offset x).length) :
    Adds n (put coder x : Put size) := by
  intro b b' hput
  rw [put_ok hput,List.length_append]
  exact Nat.add_le_add_left (h _) _

theorem Adds.bind {m n : ℕ} {w w' : Put size} (h : Adds m w) (h' : Adds n w') :
    Adds (m + n) (w >>= fun _ => w') := by
  intro b b'' hboth
  obtain ⟨_,b',hfirst,hsecond⟩ := Script.of_bind_ok hboth
  have hle := h b b' hfirst
  have hle' := h' b' b'' hsecond
  omega

theorem Adds.each {write : α → Put size} {xs : List α} (h : ∀ x ∈ xs, Adds 1 (write x)) :
    Adds xs.length (Script.each write xs) := by
  induction xs with
  | nil =>
    intro b b' heach
    cases heach
    exact Nat.le_refl _
  | cons x rest ih =>
    have hrest := ih fun y hy => h y (List.mem_cons_of_mem _ hy)
    have hboth := (h x List.mem_cons_self).bind hrest
    rw [List.length_cons,Nat.add_comm]
    exact hboth

theorem Adds.weaken {m n : ℕ} {w : Put size} (h : Adds n w) (hle : m ≤ n) : Adds m w := by
  intro b b' hw
  have hadds := h b b' hw
  omega

/-! ## Reading what was written -/

namespace Echoes

/-- What was there stays there. -/
theorem adds {w : Put size} {r : Get α} {x : α} (h : Echoes w r x) : Adds 0 w := by
  intro b b' hw
  obtain ⟨added,hbytes,-⟩ := h b b' hw
  rw [hbytes,List.length_append]
  omega

/-- Reading a sequence needs what was written in this order. -/
theorem bind {w w' : Put size} {r : Get α} {f : α → Get β} {x : α} {y : β} (h : Echoes w r x)
    (h' : Echoes w' (f x) y) : Echoes (w >>= fun _ => w') (r >>= f) y := by
  intro b b'' hboth
  obtain ⟨_,b',hfirst,hsecond⟩ := Script.of_bind_ok hboth
  obtain ⟨added,hbytes,hread⟩ := h b b' hfirst
  obtain ⟨added',hbytes',hread'⟩ := h' b' b'' hsecond
  refine ⟨added ++ added',by rw [hbytes',hbytes,List.append_assoc],fun rest => ?_⟩
  have hthis := hread (added' ++ rest)
  rw [List.append_assoc,Script.bind_ok (a := x) (by rw [hthis]),hthis]
  exact hread' rest

/-- What was read may be put together at the end. -/
theorem map {w : Put size} {r : Get α} {x : α} (h : Echoes w r x) (f : α → β) :
    Echoes w (r >>= fun a => pure (f a)) (f x) := by
  intro b b' hw
  obtain ⟨added,hbytes,hread⟩ := h b b' hw
  refine ⟨added,hbytes,fun rest => ?_⟩
  have hthis := hread rest
  rw [Script.bind_ok (a := x) (by rw [hthis]),hthis]
  rfl

/-- A value that could be written can be read. -/
theorem put {coder : Coder α} {valid : α → Prop} (h : coder.Inverts valid) {x : α}
    (hx : ∀ offset, (coder.write offset x).length ≤ size → valid x) :
    Echoes (put coder x : Put size) (get coder) x := by
  intro b b' hput
  have hbytes := put_ok hput
  have hlength := congrArg List.length hbytes
  rw [List.length_append] at hlength
  have hvalid : valid x := hx b.bytes.length (by have hfits := b'.fits; omega)
  refine ⟨_,hbytes,fun rest => ?_⟩
  unfold get
  rw [h b.bytes.length x rest hvalid]
  have hmoved : b.bytes.length +
      ((coder.write b.bytes.length x ++ rest).length - rest.length) = b'.bytes.length := by
    rw [List.length_append]
    omega
  exact congrArg (fun offset => (Except.ok x,(⟨offset,rest⟩ : Cursor))) hmoved

/-- Values written one after the other are read one after the other. -/
theorem each {write : α → Put size} {read : Get α} {xs : List α}
    (h : ∀ x ∈ xs, Echoes (write x) read x) :
    Echoes (Script.each write xs) (Script.times read xs.length) xs := by
  induction xs with
  | nil =>
    intro b b' heach
    cases heach
    exact ⟨[],(List.append_nil _).symm,fun _ => rfl⟩
  | cons x rest ih =>
    have hrest := ih fun y hy => h y (List.mem_cons_of_mem _ hy)
    exact (h x List.mem_cons_self).bind (hrest.map _)

/-- The count of what follows stands before it. What follows takes a byte each at least,
so that a buffer of less than `2 ^ 32` bytes has room for no more than can be counted. -/
theorem counted {count : Coder UInt32} (hcount : count.Inverts fun _ => True)
    (hsize : size < UInt32.size) {write : α → Put size} {read : Get α} {xs : List α}
    (h : ∀ x ∈ xs, Echoes (write x) read x) (hadds : ∀ x ∈ xs, Adds 1 (write x)) :
    Echoes (do WireBuffers.put count (UInt32.ofNat xs.length); Script.each write xs)
      (do let n ← get count; Script.times read n.toNat) xs := by
  intro b b' hboth
  obtain ⟨_,b₁,-,heach⟩ := Script.of_bind_ok hboth
  have hroom := Adds.each hadds b₁ b' heach
  have hfits := b'.fits
  have hexact : (UInt32.ofNat xs.length).toNat = xs.length :=
    UInt32.toNat_ofNat_of_lt' (by omega)
  have hread := Echoes.each h
  rw [← hexact] at hread
  have hcounted := (Echoes.put hcount (x := UInt32.ofNat xs.length)
    fun _ _ => trivial).bind (f := fun n => Script.times read n.toNat) hread
  exact hcounted b b' hboth

end Echoes

end Dmw.WireBuffers
