import Dmw.NativeIo
import Dmw.Utf8

/-!
# Diagnostics of a native fault

The text of an exception is copied into a buffer of fixed size. What is no
UTF-8 is replaced octet by octet, and the text is cut between code points. The
copy reads up to the terminator of the text and writes within the buffer.
-/

namespace Dmw.Diagnostics

open Utf8

/-- A NUL-terminated string. -/
structure CString where
  /-- What precedes the terminator. -/
  octets : List UInt8
  /-- The terminator is the first NUL. -/
  nonzero : 0 ∉ octets

/-- The octet at an index; there is none beyond the terminator. -/
def CString.read (message : CString) (index : ℕ) : Option UInt8 := (message.octets ++ [0])[index]?

/-- The buffer of the caller. -/
abbrev Buffer := Vector UInt8 256

/-- Write an octet of the buffer; there is no result outside of it. -/
def store (buffer : Buffer) (index : ℕ) (octet : UInt8) : Option Buffer :=
  if h : index < 256 then some (buffer.set index octet) else none

/-- `length` of a sequence by its first octet, 0 if none starts with it. -/
def sequenceLength (lead : UInt8) : ℕ :=
  if lead < 0x80 then 1
  else if lead ≥ 0xC2 && lead ≤ 0xDF then 2
  else if lead ≥ 0xE0 && lead ≤ 0xEF then 3
  else if lead ≥ 0xF0 && lead ≤ 0xF4 then 4
  else 0

/-- The loop over the continuation octets. -/
def continued (message : CString) (source length index : ℕ) (valid : Bool) : Option Bool :=
  if valid = true ∧ index < length then do
    let octet ← message.read (source + index)
    continued message source length (index + 1) (octet != 0 && octet &&& 0xC0 == 0x80)
  else some valid
termination_by length - index

/-- One of the special ranges of the second octet. It is read only after the
first octet that has this range. -/
def excluded (message : CString) (source : ℕ) (lead special : UInt8) (range : UInt8 → Bool) :
    Option Bool :=
  if lead == special then (message.read (source + 1)).map range else some false

/-- `valid`. -/
def validSequence (message : CString) (source : ℕ) (lead : UInt8) : Option Bool := do
  let length := sequenceLength lead
  let valid ← continued message source length 1 (length != 0)
  if valid && length > 2 then
    let overlong ← excluded message source lead 0xE0 (· < 0xA0)
    let surrogate ← excluded message source lead 0xED (· ≥ 0xA0)
    let longer ← excluded message source lead 0xF0 (· < 0x90)
    let beyond ← excluded message source lead 0xF4 (· ≥ 0x90)
    some (!overlong && !surrogate && !longer && !beyond)
  else some valid

/-- Copy the octets of one sequence. -/
def copySequence (message : CString) : ℕ → ℕ → ℕ → Buffer → Option Buffer
  | 0, _, _, buffer => some buffer
  | length + 1, source, destination, buffer => do
    let octet ← message.read source
    let buffer ← store buffer destination octet
    copySequence message length (source + 1) (destination + 1) buffer

/-- The loop over the message; the destination where it ends. -/
def copyLoop (message : CString) (source destination : ℕ) (buffer : Buffer) :
    Option (ℕ × Buffer) := do
  let lead ← message.read source
  if _hroom : lead ≠ 0 ∧ destination + 1 < 256 then
    if ← validSequence message source lead then
      let length := sequenceLength lead
      -- What is valid has a length; the loop ends at a sequence that does not fit.
      if _hfits : 0 < length ∧ destination + length < 256 then
        let buffer ← copySequence message length source destination buffer
        copyLoop message (source + length) (destination + length) buffer
      else some (destination,buffer)
    else
      let buffer ← store buffer destination 0x3F
      copyLoop message (source + 1) (destination + 1) buffer
  else some (destination,buffer)
termination_by 256 - destination

/-- `copy_diagnostic`. -/
def copyDiagnostic (buffer : Buffer) (message : CString) : Option Buffer := do
  let (destination,buffer) ← copyLoop message 0 0 buffer
  store buffer destination 0

/-- The text that remains of a message: its code points, each octet that starts
none replaced by a question mark, cut off before the first one that does not
end within 255 octets. -/
def Remains (message : CString) (text : List UInt8) : Prop :=
  ∃ points kept, Replaced 0x3F message.octets points ∧ LongestWithin 255 points kept ∧
    text = kept.flatten

section

variable {message : CString} {source destination : ℕ} {lead octet : UInt8}
  {before rest : List UInt8} {buffer : Buffer}

/-- What remains is unique. -/
theorem Remains.unique {text text' : List UInt8} (h : Remains message text)
    (h' : Remains message text') : text = text' := by
  obtain ⟨points,kept,hpoints,hkept,rfl⟩ := h
  obtain ⟨points',kept',hpoints',hkept',rfl⟩ := h'
  obtain rfl := hpoints.unique hpoints'
  have hle := hkept'.longest kept hkept.isPrefix hkept.fits
  have hge := hkept.longest kept' hkept'.isPrefix hkept'.fits
  rw [hle.eq_of_length_le hge.length_le]

/-- What remains is well formed. -/
theorem Remains.wellFormed {text : List UInt8} (h : Remains message text) : WellFormed text := by
  obtain ⟨points,kept,hpoints,hkept,rfl⟩ := h
  refine ⟨kept,fun point hpoint => ?_,rfl⟩
  exact hpoints.sequences (.one (by decide)) point (hkept.isPrefix.subset hpoint)

/-- No NUL remains. -/
theorem Remains.nonzero {text : List UInt8} (h : Remains message text) : 0 ∉ text := by
  obtain ⟨points,kept,hpoints,hkept,rfl⟩ := h
  intro hzero
  obtain ⟨point,hpoint,hmem⟩ := List.mem_flatten.mp hzero
  have hdecoded : 0 ∈ points.flatten :=
    List.mem_flatten.mpr ⟨point,hkept.isPrefix.subset hpoint,hmem⟩
  cases hpoints.mem_flatten hdecoded with
  | inl hoctet => exact message.nonzero hoctet
  | inr hreplaced => cases hreplaced

/-- An octet of the rest is read where it stands. -/
theorem read_cons (hmessage : message.octets = before ++ lead :: rest)
    (hsource : before.length = source) : message.read source = some lead := by
  rw [CString.read,hmessage,List.append_assoc,List.getElem?_append_right (by omega),hsource,
    Nat.sub_self]
  rfl

/-- The terminator is read at the end. -/
theorem read_nil (hmessage : message.octets = before) (hsource : before.length = source) :
    message.read source = some 0 := by
  rw [CString.read,hmessage,List.getElem?_append_right (by omega),hsource,Nat.sub_self]
  rfl

/-- One octet further the rest is shorter. -/
theorem octets_further (hmessage : message.octets = before ++ lead :: rest) :
    message.octets = (before ++ [lead]) ++ rest := by
  rw [hmessage,List.append_assoc,List.singleton_append]

/-- It starts one octet further. -/
theorem length_further (hsource : before.length = source) (octet : UInt8) :
    (before ++ [octet]).length = source + 1 := by
  rw [List.length_append,hsource,List.length_singleton]

/-- No octet of the message is NUL. -/
theorem ne_zero_of_cons (hmessage : message.octets = before ++ lead :: rest) : lead ≠ 0 := by
  intro hzero
  apply message.nonzero
  simp [hmessage,hzero]

/-- The mask selects the continuation octets. -/
theorem continuation_iff (octet : UInt8) :
    (octet != 0 && octet &&& 0xC0 == 0x80) = true ↔ Tail octet := by
  have hall : ∀ b : BitVec 8,
      ((UInt8.ofBitVec b != 0 && UInt8.ofBitVec b &&& 0xC0 == 0x80) = true ↔
        0x80 ≤ UInt8.ofBitVec b ∧ UInt8.ofBitVec b ≤ 0xBF) := by decide
  exact hall octet.toBitVec

/-- The loop over the continuation octets ends at the first octet that is none. -/
theorem continued_false {length index : ℕ} :
    continued message source length index false = some false := by
  rw [continued,if_neg (by simp)]

/-- So many continuation octets come first. -/
def Tails : ℕ → List UInt8 → Prop
  | 0, _ => True
  | _ + 1, [] => False
  | count + 1, octet :: rest => Tail octet ∧ Tails count rest

/-- The loop finds out whether continuation octets follow. -/
theorem continued_eq (hmessage : message.octets = before ++ rest) {index : ℕ}
    (hsource : before.length = source + index) (count : ℕ) :
    ∃ valid, continued message source (index + count) index true = some valid ∧
      (valid = true ↔ Tails count rest) := by
  induction count generalizing before rest index with
  | zero =>
    rw [continued,if_neg (by omega)]
    exact ⟨true,rfl,by simp [Tails]⟩
  | succ count ih =>
    rw [continued,if_pos ⟨rfl,by omega⟩]
    cases rest with
    | nil =>
      rw [read_nil (by rw [hmessage,List.append_nil]) hsource]
      exact ⟨false,continued_false,by simp [Tails]⟩
    | cons octet more =>
      rw [read_cons hmessage hsource,Option.bind_eq_bind,Option.bind_some]
      by_cases htail : Tail octet
      · have hsource' : (before ++ [octet]).length = source + (index + 1) :=
          length_further hsource octet
        have hnext := ih (octets_further hmessage) hsource'
        rw [(continuation_iff octet).mpr htail,
          show index + (count + 1) = index + 1 + count by omega]
        obtain ⟨valid,hvalid,hiff⟩ := hnext
        exact ⟨valid,hvalid,by simp [Tails,htail,hiff]⟩
      · rw [Bool.eq_false_iff.mpr (mt (continuation_iff octet).mp htail)]
        exact ⟨false,continued_false,by simp [Tails,htail]⟩

/-- The second octet is in the range that goes with the first one. -/
def Second (lead octet : UInt8) : Prop :=
  (lead = 0xE0 → 0xA0 ≤ octet) ∧ (lead = 0xED → octet ≤ 0x9F) ∧
    (lead = 0xF0 → 0x90 ≤ octet) ∧ (lead = 0xF4 → octet ≤ 0x8F)

/-- A special range is looked up in the second octet. -/
theorem excluded_eq (hmessage : message.octets = before ++ lead :: octet :: rest)
    (hsource : before.length = source) (special : UInt8) (range : UInt8 → Bool) :
    excluded message source lead special range = some (lead == special && range octet) := by
  have hsecond : message.read (source + 1) = some octet :=
    read_cons (octets_further hmessage) (length_further hsource lead)
  unfold excluded
  split
  · next hspecial => simp [hsecond,hspecial]
  · next hspecial => simp [hspecial]

/-- The four ranges together. -/
theorem second_iff (lead octet : UInt8) :
    (!(lead == 0xE0 && decide (octet < 0xA0)) && !(lead == 0xED && decide (octet ≥ 0xA0)) &&
      !(lead == 0xF0 && decide (octet < 0x90)) && !(lead == 0xF4 && decide (octet ≥ 0x90))) = true ↔
      Second lead octet := by
  simp only [Second,Bool.and_eq_true,Bool.not_eq_true',Bool.and_eq_false_imp,beq_iff_eq,
    decide_eq_false_iff_not,UInt8.le_iff_toNat_le,UInt8.lt_iff_toNat_lt,ge_iff_le,and_assoc,
    UInt8.reduceToNat,Nat.not_lt,Nat.not_le]
  have hsurrogate : octet.toNat < 160 ↔ octet.toNat ≤ 159 := by omega
  have hbeyond : octet.toNat < 144 ↔ octet.toNat ≤ 143 := by omega
  rw [hsurrogate,hbeyond]

/-- A complete sequence starts with the first octet, as its check sees it. -/
def Starts (lead : UInt8) (rest : List UInt8) : Prop :=
  sequenceLength lead ≠ 0 ∧ Tails (sequenceLength lead - 1) rest ∧
    (2 < sequenceLength lead → ∀ octet ∈ rest.head?, Second lead octet)

/-- The check reads what there is and finds out whether a complete sequence starts. -/
theorem validSequence_eq (hmessage : message.octets = before ++ lead :: rest)
    (hsource : before.length = source) :
    ∃ valid, validSequence message source lead = some valid ∧ (valid = true ↔ Starts lead rest) := by
  unfold validSequence Starts
  dsimp only
  by_cases hlength : sequenceLength lead = 0
  · refine ⟨false,?_,by simp [hlength]⟩
    rw [show (sequenceLength lead != 0) = false by simp [hlength],continued_false]
    rfl
  · have hcontinued := continued_eq (octets_further hmessage) (length_further hsource lead)
      (sequenceLength lead - 1)
    obtain ⟨valid,hvalid,hiff⟩ := hcontinued
    rw [show (sequenceLength lead != 0) = true by simp [hlength],
      show 1 + (sequenceLength lead - 1) = sequenceLength lead by omega] at *
    rw [hvalid,Option.bind_eq_bind,Option.bind_some]
    by_cases hspecial : valid = true ∧ 2 < sequenceLength lead
    · obtain ⟨rfl,hlong⟩ := hspecial
      have htails : Tails (sequenceLength lead - 1) rest := hiff.mp rfl
      rw [if_pos (by simp [hlong])]
      cases rest with
      | nil =>
        rw [show sequenceLength lead - 1 = sequenceLength lead - 2 + 1 by omega] at htails
        exact htails.elim
      | cons octet more =>
        simp only [excluded_eq hmessage hsource,Option.bind_some]
        refine ⟨_,rfl,(second_iff lead octet).trans ?_⟩
        simp [hlength,htails,hlong]
    · refine ⟨valid,if_neg (by simpa using hspecial),hiff.trans ?_⟩
      constructor
      · intro htails
        exact ⟨hlength,htails,fun hlong => absurd ⟨hiff.mpr htails,hlong⟩ hspecial⟩
      · exact fun hstarts => hstarts.2.1

/-- The length is that of the sequences with this first octet. -/
theorem sequenceLength_cases (lead : UInt8) :
    sequenceLength lead = 1 ∧ lead.toNat < 0x80 ∨
      sequenceLength lead = 2 ∧ 0xC2 ≤ lead.toNat ∧ lead.toNat < 0xE0 ∨
      sequenceLength lead = 3 ∧ 0xE0 ≤ lead.toNat ∧ lead.toNat < 0xF0 ∨
      sequenceLength lead = 4 ∧ 0xF0 ≤ lead.toNat ∧ lead.toNat < 0xF5 ∨
      sequenceLength lead = 0 ∧
        (0x80 ≤ lead.toNat ∧ lead.toNat < 0xC2 ∨ 0xF5 ≤ lead.toNat) := by
  unfold sequenceLength
  simp only [UInt8.le_iff_toNat_le,UInt8.lt_iff_toNat_lt,ge_iff_le,Bool.and_eq_true,
    decide_eq_true_eq,UInt8.reduceToNat]
  split
  · omega
  · split
    · omega
    · split
      · omega
      · split <;> omega

/-- The sequence that starts here. -/
theorem Starts.sequence (h : Starts lead rest) : ∃ tail more, rest = tail ++ more ∧
    Sequence (lead :: tail) ∧ (lead :: tail).length = sequenceLength lead := by
  obtain ⟨hnonzero,htails,hsecond⟩ := h
  rcases sequenceLength_cases lead with
    ⟨hlength,hhigh⟩ | ⟨hlength,hlow,hhigh⟩ | ⟨hlength,hlow,hhigh⟩ | ⟨hlength,hlow,hhigh⟩ |
    ⟨hlength,-⟩
  · exact ⟨[],rest,rfl,.one (UInt8.le_iff_toNat_le.mpr (Nat.le_of_lt_succ hhigh)),hlength.symm⟩
  · rw [hlength] at htails
    match rest, htails with
    | b :: more, ⟨hb,_⟩ =>
      refine ⟨[b],more,rfl,.two ?_ ?_ hb,hlength.symm⟩
      · exact UInt8.le_iff_toNat_le.mpr hlow
      · exact UInt8.le_iff_toNat_le.mpr (Nat.le_of_lt_succ hhigh)
  · rw [hlength] at htails hsecond
    match rest, htails with
    | b :: c :: more, ⟨hb,hc,_⟩ =>
      have hrange := hsecond (by decide) b rfl
      refine ⟨[b,c],more,rfl,.three ?_ ?_ hrange.1 hrange.2.1 hb hc,hlength.symm⟩
      · exact UInt8.le_iff_toNat_le.mpr hlow
      · exact UInt8.le_iff_toNat_le.mpr (Nat.le_of_lt_succ hhigh)
  · rw [hlength] at htails hsecond
    match rest, htails with
    | b :: c :: d :: more, ⟨hb,hc,hd,_⟩ =>
      have hrange := hsecond (by decide) b rfl
      refine ⟨[b,c,d],more,rfl,.four ?_ ?_ hrange.2.2.1 hrange.2.2.2 hb hc hd,hlength.symm⟩
      · exact UInt8.le_iff_toNat_le.mpr hlow
      · exact UInt8.le_iff_toNat_le.mpr (Nat.le_of_lt_succ hhigh)
  · exact absurd hlength hnonzero

/-- The check finds every sequence. -/
theorem starts_of_sequence {tail more : List UInt8} (h : Sequence (lead :: tail)) :
    Starts lead (tail ++ more) ∧ (lead :: tail).length = sequenceLength lead := by
  have hlength := sequenceLength_cases lead
  cases h with
  | one ha =>
    simp only [UInt8.le_iff_toNat_le,UInt8.reduceToNat] at ha
    have hone : sequenceLength lead = 1 := by omega
    unfold Starts
    rw [hone]
    exact ⟨⟨by decide,trivial,by omega⟩,rfl⟩
  | two hlow hhigh hb =>
    simp only [UInt8.le_iff_toNat_le,UInt8.reduceToNat] at hlow hhigh
    have htwo : sequenceLength lead = 2 := by omega
    unfold Starts
    rw [htwo]
    exact ⟨⟨by decide,⟨hb,trivial⟩,by omega⟩,rfl⟩
  | @three _ b c hlow hhigh hfirst hsurrogate hb hc =>
    simp only [UInt8.le_iff_toNat_le,UInt8.reduceToNat] at hlow hhigh
    have hthree : sequenceLength lead = 3 := by omega
    have hf0 : lead ≠ 0xF0 := ne_of_apply_ne UInt8.toNat (by simp; omega)
    have hf4 : lead ≠ 0xF4 := ne_of_apply_ne UInt8.toNat (by simp; omega)
    unfold Starts
    rw [hthree]
    refine ⟨⟨by decide,⟨hb,hc,trivial⟩,?_⟩,rfl⟩
    rintro - octet ⟨⟩
    exact ⟨hfirst,hsurrogate,fun heq => absurd heq hf0,fun heq => absurd heq hf4⟩
  | @four _ b c d hlow hhigh hfirst hlast hb hc hd =>
    simp only [UInt8.le_iff_toNat_le,UInt8.reduceToNat] at hlow hhigh
    have hfour : sequenceLength lead = 4 := by omega
    have he0 : lead ≠ 0xE0 := ne_of_apply_ne UInt8.toNat (by simp; omega)
    have hed : lead ≠ 0xED := ne_of_apply_ne UInt8.toNat (by simp; omega)
    unfold Starts
    rw [hfour]
    refine ⟨⟨by decide,⟨hb,hc,hd,trivial⟩,?_⟩,rfl⟩
    rintro - octet ⟨⟩
    exact ⟨fun heq => absurd heq he0,fun heq => absurd heq hed,hfirst,hlast⟩

/-- The check finds the sequences and nothing else. -/
theorem starts_iff : Starts lead rest ↔ ∃ point, Sequence point ∧ point <+: lead :: rest := by
  constructor
  · intro h
    obtain ⟨tail,more,rfl,hsequence,-⟩ := h.sequence
    exact ⟨_,hsequence,more,rfl⟩
  · intro h
    obtain ⟨point,hsequence,more,hjoined⟩ := h
    obtain ⟨lead',tail,rfl,-⟩ := hsequence.lead
    obtain ⟨rfl,rfl⟩ := List.cons.inj hjoined
    exact (starts_of_sequence hsequence).1

/-- An octet is written behind what was written before. -/
theorem store_eq {done old : List UInt8} (hbuffer : buffer.toList = done ++ old)
    (hroom : done.length < 256) (octet : UInt8) :
    ∃ buffer', store buffer done.length octet = some buffer' ∧
      buffer'.toList = done ++ octet :: old.drop 1 := by
  refine ⟨buffer.set done.length octet,dif_pos hroom,?_⟩
  have hold : 0 < old.length := by
    have hsize := buffer.length_toList
    rw [hbuffer,List.length_append] at hsize
    omega
  rw [Vector.toList_set,hbuffer,List.set_append_right _ _ (Nat.le_refl _),Nat.sub_self]
  cases old with
  | nil => simp at hold
  | cons first more => rfl

/-- A sequence is copied behind what was written before. -/
theorem copySequence_eq {done old octets more : List UInt8}
    (hmessage : message.octets = before ++ (octets ++ more)) (hsource : before.length = source)
    (hbuffer : buffer.toList = done ++ old) (hroom : done.length + octets.length ≤ 256) :
    ∃ buffer', copySequence message octets.length source done.length buffer = some buffer' ∧
      buffer'.toList = done ++ octets ++ old.drop octets.length := by
  induction octets generalizing before source done old buffer with
  | nil => exact ⟨buffer,rfl,by simpa using hbuffer⟩
  | cons octet octets ih =>
    rw [List.length_cons] at hroom
    obtain ⟨stored,hstore,hstored⟩ := store_eq hbuffer (by omega) octet
    have hstored' : stored.toList = (done ++ [octet]) ++ old.drop 1 := by
      rw [hstored,List.append_assoc,List.singleton_append]
    have hroom' : (done ++ [octet]).length + octets.length ≤ 256 := by
      rw [List.length_append,List.length_singleton]
      omega
    have hnext := ih (octets_further hmessage) (length_further hsource octet) hstored' hroom'
    obtain ⟨buffer',hcopy,hbuffer'⟩ := hnext
    refine ⟨buffer',?_,?_⟩
    · rw [List.length_append] at hcopy
      rw [List.length_cons,copySequence,read_cons hmessage hsource,Option.bind_eq_bind,
        Option.bind_some,hstore]
      exact hcopy
    · rw [hbuffer']
      simp

/-- The loop ends at the terminator and in a full buffer. -/
theorem copyLoop_stop (hread : message.read source = some lead)
    (hstop : ¬ (lead ≠ 0 ∧ destination + 1 < 256)) :
    copyLoop message source destination buffer = some (destination,buffer) := by
  rw [copyLoop,hread,Option.bind_eq_bind,Option.bind_some,dif_neg hstop]

/-- An octet that starts no sequence is replaced. -/
theorem copyLoop_invalid {buffer' : Buffer} (hread : message.read source = some lead)
    (hgo : lead ≠ 0 ∧ destination + 1 < 256)
    (hinvalid : validSequence message source lead = some false)
    (hstore : store buffer destination 0x3F = some buffer') :
    copyLoop message source destination buffer =
      copyLoop message (source + 1) (destination + 1) buffer' := by
  rw [copyLoop,hread,Option.bind_eq_bind,Option.bind_some,dif_pos hgo,hinvalid,hstore]
  rfl

/-- The loop ends at a sequence that does not fit. -/
theorem copyLoop_full (hread : message.read source = some lead)
    (hgo : lead ≠ 0 ∧ destination + 1 < 256)
    (hvalid : validSequence message source lead = some true)
    (hfull : 256 ≤ destination + sequenceLength lead) :
    copyLoop message source destination buffer = some (destination,buffer) := by
  rw [copyLoop,hread,Option.bind_eq_bind,Option.bind_some,dif_pos hgo,hvalid]
  exact dif_neg fun h => absurd h.2 (Nat.not_lt.mpr hfull)

/-- A sequence that fits is copied. -/
theorem copyLoop_sequence {buffer' : Buffer} (hread : message.read source = some lead)
    (hgo : lead ≠ 0 ∧ destination + 1 < 256)
    (hvalid : validSequence message source lead = some true)
    (hfits : 0 < sequenceLength lead ∧ destination + sequenceLength lead < 256)
    (hcopy : copySequence message (sequenceLength lead) source destination buffer = some buffer') :
    copyLoop message source destination buffer =
      copyLoop message (source + sequenceLength lead) (destination + sequenceLength lead)
        buffer' := by
  rw [copyLoop,hread,Option.bind_eq_bind,Option.bind_some,dif_pos hgo,hvalid]
  refine (dif_pos hfits).trans ?_
  rw [hcopy]
  rfl

/-- An outcome appends what remains of the rest and fits to what was written before. -/
def Appends (rest done old : List UInt8) (outcome : Option (ℕ × Buffer)) : Prop :=
  ∃ points kept buffer', Replaced 0x3F rest points ∧
    LongestWithin (255 - done.length) points kept ∧
    outcome = some (done.length + kept.flatten.length,buffer') ∧
    buffer'.toList = done ++ kept.flatten ++ old.drop kept.flatten.length

/-- Nothing is appended if the next code point does not fit. -/
theorem Appends.stop {done old point : List UInt8} {points : List (List UInt8)}
    (hpoints : Replaced 0x3F rest (point :: points)) (hlong : 256 ≤ done.length + point.length)
    (hroom : done.length < 256) (hbuffer : buffer.toList = done ++ old) :
    Appends rest done old (some (done.length,buffer)) :=
  ⟨point :: points,[],buffer,hpoints,longestWithin_nil (by omega),rfl,by simpa using hbuffer⟩

/-- What was appended behind a code point was appended with it. -/
theorem Appends.point {done old point rest' : List UInt8} {outcome : Option (ℕ × Buffer)}
    (h : Appends rest (done ++ point) (old.drop point.length) outcome)
    (hfits : done.length + point.length < 256)
    (hpoint : ∀ points, Replaced 0x3F rest points → Replaced 0x3F rest' (point :: points)) :
    Appends rest' done old outcome := by
  obtain ⟨points,kept,buffer',hpoints,hkept,rfl,hbuffer'⟩ := h
  refine ⟨point :: points,point :: kept,buffer',hpoint points hpoints,.cons (by omega) ?_,?_,?_⟩
  · rw [List.length_append] at hkept
    rw [Nat.sub_sub]
    exact hkept
  · simp only [List.length_append,List.flatten_cons,Nat.add_assoc]
  · rw [hbuffer']
    simp only [List.flatten_cons,List.append_assoc,List.drop_drop,List.length_append]

/-- From any place of the message on the loop appends what remains and fits. -/
theorem copyLoop_eq {done old : List UInt8} (hmessage : message.octets = before ++ rest)
    (hsource : before.length = source) (hbuffer : buffer.toList = done ++ old)
    (hroom : done.length < 256) :
    Appends rest done old (copyLoop message source done.length buffer) := by
  induction hlength : rest.length using Nat.strong_induction_on
    generalizing before rest source done old buffer with
  | _ length ih =>
    cases rest with
    | nil =>
      have hread := read_nil (by rw [hmessage,List.append_nil]) hsource
      rw [copyLoop_stop hread (by simp)]
      exact ⟨[],[],buffer,.nil,longestWithin_empty,rfl,by simpa using hbuffer⟩
    | cons lead rest =>
      have hread := read_cons hmessage hsource
      by_cases hfull : done.length + 1 < 256
      · have hgo := And.intro (ne_zero_of_cons hmessage) hfull
        obtain ⟨valid,hvalid,hstarts⟩ := validSequence_eq hmessage hsource
        by_cases hsequence : Starts lead rest
        · rw [hstarts.mpr hsequence] at hvalid
          obtain ⟨tail,more,rfl,hpoint,hpointLength⟩ := hsequence.sequence
          by_cases hfits : done.length + sequenceLength lead < 256
          · have hpos := hpoint.length_pos
            have hjoined : message.octets = before ++ ((lead :: tail) ++ more) := hmessage
            obtain ⟨copied,hcopy,hcopied⟩ := copySequence_eq hjoined hsource hbuffer (by omega)
            rw [hpointLength] at hcopy
            rw [copyLoop_sequence hread hgo hvalid ⟨by omega,hfits⟩ hcopy,← hpointLength]
            have hmessage' : message.octets = (before ++ (lead :: tail)) ++ more := by
              rw [hjoined,List.append_assoc]
            have hnext := ih more.length (by simp at hlength; omega) hmessage'
              (by rw [List.length_append,hsource]) hcopied (by rw [List.length_append]; omega) rfl
            rw [List.length_append] at hnext
            exact hnext.point (by omega) fun points => .sequence hpoint
          · rw [copyLoop_full hread hgo hvalid (by omega)]
            obtain ⟨points,hpoints⟩ := exists_replaced 0x3F more
            exact .stop (.sequence hpoint hpoints) (by omega) hroom hbuffer
        · rw [Bool.eq_false_iff.mpr (mt hstarts.mp hsequence)] at hvalid
          obtain ⟨stored,hstore,hstored⟩ := store_eq hbuffer hroom 0x3F
          rw [copyLoop_invalid hread hgo hvalid hstore]
          have hnone : ∀ point, Sequence point → ¬ point <+: lead :: rest :=
            fun point hpoint hcut => hsequence (starts_iff.mpr ⟨point,hpoint,hcut⟩)
          have hstored' : stored.toList = (done ++ [0x3F]) ++ old.drop 1 := by
            rw [hstored,List.append_assoc,List.singleton_append]
          have hnext := ih rest.length (by simp [← hlength]) (octets_further hmessage)
            (length_further hsource lead) hstored' (by simpa using hfull) rfl
          rw [List.length_append] at hnext
          exact hnext.point hfull fun points => .invalid hnone
      · rw [copyLoop_stop hread fun h => hfull h.2]
        obtain ⟨points,hpoints⟩ := exists_replaced 0x3F (lead :: rest)
        obtain ⟨point,more,rfl,hpos⟩ := hpoints.exists_cons
        exact .stop hpoints (by omega) hroom hbuffer

end

/-- For every message and every buffer: the copy ends without a read beyond the
terminator or a write outside of the buffer; it writes what remains of the
message and a NUL and nothing else; and what remains is at most 255 octets of
well-formed UTF-8 without a NUL. -/
theorem copy_exact (buffer : Buffer) (message : CString) :
    ∃ text result, Remains message text ∧ copyDiagnostic buffer message = some result ∧
      result.toList = text ++ 0 :: buffer.toList.drop (text.length + 1) ∧
      text.length ≤ 255 ∧ WellFormed text ∧ 0 ∉ text := by
  have hmessage : message.octets = [] ++ message.octets := (List.nil_append _).symm
  have hbuffer : buffer.toList = [] ++ buffer.toList := (List.nil_append _).symm
  have hloop := copyLoop_eq hmessage rfl hbuffer (by decide)
  obtain ⟨points,kept,copied,hpoints,hkept,hcopy,hcopied⟩ := hloop
  have hfits : kept.flatten.length ≤ 255 := hkept.fits
  obtain ⟨result,hstore,hresult⟩ := store_eq hcopied (by simpa using Nat.lt_succ_of_le hfits) 0
  have hremains : Remains message kept.flatten := ⟨points,kept,hpoints,hkept,rfl⟩
  refine ⟨kept.flatten,result,hremains,?_,?_,hfits,hremains.wellFormed,hremains.nonzero⟩
  · rw [List.length_nil] at hcopy
    rw [copyDiagnostic,hcopy,Option.bind_eq_bind,Option.bind_some,Nat.zero_add]
    exact hstore
  · rw [hresult]
    simp

/-- A text up to its first NUL, as `what` returns it. -/
def CString.ofText (text : List Char) : CString where
  octets := (text.takeWhile (· ≠ Char.ofNat 0)).flatMap String.utf8EncodeChar
  nonzero := by
    intro hzero
    obtain ⟨c,hc,hmem⟩ := List.mem_flatMap.mp hzero
    have hall := List.all_takeWhile (p := fun c => decide (c ≠ Char.ofNat 0)) (l := text)
    have hnonzero := List.all_eq_true.mp hall c hc
    simp [eq_nul_of_zero_mem hmem] at hnonzero

/-- The characters that fit are the longest part of the code points that does. -/
theorem longestWithin_fit (room : ℕ) (text : List Char) :
    LongestWithin room ((text.takeWhile (· ≠ Char.ofNat 0)).map String.utf8EncodeChar)
      ((NativeIo.fit room text).map String.utf8EncodeChar) := by
  induction text generalizing room with
  | nil => exact longestWithin_empty
  | cons c text ih =>
    rw [NativeIo.fit]
    by_cases hnul : c = Char.ofNat 0
    · rw [if_pos (.inl hnul),List.takeWhile_cons_of_neg (by simp [hnul])]
      exact longestWithin_empty
    · rw [List.takeWhile_cons_of_pos (by simp [hnul]),List.map_cons]
      by_cases hfits : room < c.utf8Size
      · rw [if_pos (.inr hfits)]
        exact longestWithin_nil (by rw [String.length_utf8EncodeChar]; exact hfits)
      · rw [if_neg (by simp [hnul,hfits]),List.map_cons]
        refine .cons (by rw [String.length_utf8EncodeChar]; omega) ?_
        rw [String.length_utf8EncodeChar]
        exact ih _

/-- Of a text there remain the characters that fit. -/
theorem remains_ofText (message : String) :
    Remains (.ofText message.toList)
      ((NativeIo.copyDiagnostic message).toList.flatMap String.utf8EncodeChar) := by
  refine ⟨_,_,replaced_flatMap _ _,longestWithin_fit 255 message.toList,?_⟩
  rw [NativeIo.copyDiagnostic,String.toList_ofList,List.flatMap_def]

/-- What remains of any message is the encoding of a text. -/
theorem Remains.exists_text {message : CString} {text : List UInt8} (h : Remains message text) :
    ∃ chars : List Char, text = chars.flatMap String.utf8EncodeChar :=
  wellFormed_iff.mp h.wellFormed

end Dmw.Diagnostics
