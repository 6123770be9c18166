import Mathlib.Data.List.Basic
import Mathlib.Data.List.Infix
import Mathlib.Tactic.MkIffOfInductiveProp

/-!
# Well-formed UTF-8

The octets that encode one scalar value, by their ranges, and the decoding of
arbitrary octets into such sequences and single octets that start none. The
sequences are those of the encoder of the language, no one of them starts
another, and the decoding is unique.
-/

namespace Dmw.Utf8

/-- A continuation octet. -/
def Tail (octet : UInt8) : Prop := 0x80 ≤ octet ∧ octet ≤ 0xBF

/-- A complete well-formed sequence; the second octet excludes overlong forms,
surrogates and what lies beyond the last scalar value. -/
inductive Sequence : List UInt8 → Prop
  | one {a : UInt8} : a ≤ 0x7F → Sequence [a]
  | two {a b : UInt8} : 0xC2 ≤ a → a ≤ 0xDF → Tail b → Sequence [a,b]
  | three {a b c : UInt8} : 0xE0 ≤ a → a ≤ 0xEF → (a = 0xE0 → 0xA0 ≤ b) → (a = 0xED → b ≤ 0x9F) →
      Tail b → Tail c → Sequence [a,b,c]
  | four {a b c d : UInt8} : 0xF0 ≤ a → a ≤ 0xF4 → (a = 0xF0 → 0x90 ≤ b) → (a = 0xF4 → b ≤ 0x8F) →
      Tail b → Tail c → Tail d → Sequence [a,b,c,d]

/-- Octets are well formed if complete sequences make them up. -/
def WellFormed (octets : List UInt8) : Prop :=
  ∃ points : List (List UInt8), (∀ point ∈ points, Sequence point) ∧ octets = points.flatten

/-- Decoding with a replacement for every octet that starts no complete
sequence. -/
@[mk_iff]
inductive Replaced (replacement : UInt8) : List UInt8 → List (List UInt8) → Prop
  | nil : Replaced replacement [] []
  | sequence {point rest : List UInt8} {points : List (List UInt8)} : Sequence point →
      Replaced replacement rest points → Replaced replacement (point ++ rest) (point :: points)
  | invalid {octet : UInt8} {rest : List UInt8} {points : List (List UInt8)} :
      (∀ point, Sequence point → ¬ point <+: octet :: rest) → Replaced replacement rest points →
      Replaced replacement (octet :: rest) ([replacement] :: points)

/-- The longest part of the code points, from the first one on, that so many
octets hold. -/
structure LongestWithin (room : ℕ) (points kept : List (List UInt8)) : Prop where
  /-- Nothing but the end is cut off. -/
  isPrefix : kept <+: points
  /-- It fits. -/
  fits : kept.flatten.length ≤ room
  /-- Nothing longer does. -/
  longest : ∀ other, other <+: points → other.flatten.length ≤ room → other <+: kept

variable {replacement octet : UInt8} {octets rest point point' : List UInt8}
  {points points' : List (List UInt8)}

/-- The first octet tells the length. -/
theorem Sequence.lead (h : Sequence point) : ∃ lead tail, point = lead :: tail ∧
    (lead.toNat < 0x80 ∧ tail.length = 0 ∨
      0xC2 ≤ lead.toNat ∧ lead.toNat < 0xE0 ∧ tail.length = 1 ∨
      0xE0 ≤ lead.toNat ∧ lead.toNat < 0xF0 ∧ tail.length = 2 ∨
      0xF0 ≤ lead.toNat ∧ tail.length = 3) := by
  cases h with
  | one ha =>
    rw [UInt8.le_iff_toNat_le] at ha
    exact ⟨_,_,rfl,.inl ⟨Nat.lt_succ_of_le ha,rfl⟩⟩
  | two hlow hhigh =>
    rw [UInt8.le_iff_toNat_le] at hlow hhigh
    exact ⟨_,_,rfl,.inr (.inl ⟨hlow,Nat.lt_succ_of_le hhigh,rfl⟩)⟩
  | three hlow hhigh =>
    rw [UInt8.le_iff_toNat_le] at hlow hhigh
    exact ⟨_,_,rfl,.inr (.inr (.inl ⟨hlow,Nat.lt_succ_of_le hhigh,rfl⟩))⟩
  | four hlow =>
    rw [UInt8.le_iff_toNat_le] at hlow
    exact ⟨_,_,rfl,.inr (.inr (.inr ⟨hlow,rfl⟩))⟩

/-- No sequence is empty. -/
theorem Sequence.length_pos (h : Sequence point) : 0 < point.length := by
  obtain ⟨lead,tail,rfl,-⟩ := h.lead
  exact Nat.succ_pos _

/-- At most one sequence starts given octets. -/
theorem Sequence.eq_of_prefix (h : Sequence point) (h' : Sequence point')
    (hp : point <+: octets) (hp' : point' <+: octets) : point = point' := by
  obtain ⟨lead,tail,rfl,hlength⟩ := h.lead
  obtain ⟨lead',tail',rfl,hlength'⟩ := h'.lead
  obtain ⟨rest,hrest⟩ := hp
  obtain ⟨rest',hrest'⟩ := hp'
  have hjoined : lead :: (tail ++ rest) = lead' :: (tail' ++ rest') := hrest.trans hrest'.symm
  obtain ⟨rfl,htails⟩ := List.cons.inj hjoined
  have hsame : tail.length = tail'.length := by omega
  rw [(List.append_inj htails hsame).1]

/-- The decoding is unique. -/
theorem Replaced.unique (h : Replaced replacement octets points)
    (h' : Replaced replacement octets points') : points = points' := by
  induction h generalizing points' with
  | nil =>
    rcases (replaced_iff ..).mp h' with ⟨-,hnil⟩ | ⟨point,rest,points,hpoint,-,hnil,-⟩ | h
    · exact hnil.symm
    · have hpos := hpoint.length_pos
      simp [(List.append_eq_nil_iff.mp hnil.symm).1] at hpos
    · obtain ⟨octet,rest,points,-,-,hnil,-⟩ := h
      cases hnil
  | @sequence point rest points hpoint _ ih =>
    have hstart : point <+: point ++ rest := List.prefix_append _ _
    rcases (replaced_iff ..).mp h' with
      ⟨hnil,-⟩ | ⟨point',rest',points',hpoint',htail,hjoined,rfl⟩ | h
    · have hpos := hpoint.length_pos
      simp [(List.append_eq_nil_iff.mp hnil).1] at hpos
    · have hsame : point = point' :=
        hpoint.eq_of_prefix hpoint' hstart (hjoined ▸ List.prefix_append _ _)
      subst hsame
      rw [ih (List.append_cancel_left hjoined ▸ htail)]
    · obtain ⟨octet,rest',points',hnone,-,hjoined,-⟩ := h
      exact absurd (hjoined ▸ hstart) (hnone point hpoint)
  | @invalid octet rest points hnone _ ih =>
    rcases (replaced_iff ..).mp h' with
      ⟨hnil,-⟩ | ⟨point',rest',points',hpoint',htail,hjoined,rfl⟩ | h
    · cases hnil
    · exact absurd (hjoined ▸ List.prefix_append _ _) (hnone point' hpoint')
    · obtain ⟨octet',rest',points',-,htail,hjoined,rfl⟩ := h
      obtain ⟨-,rfl⟩ := List.cons.inj hjoined
      rw [ih htail]

/-- A replacement that is a sequence makes everything well formed. -/
theorem Replaced.sequences (hreplacement : Sequence [replacement])
    (h : Replaced replacement octets points) : ∀ point ∈ points, Sequence point := by
  induction h with
  | nil => simp
  | sequence hpoint _ ih => exact List.forall_mem_cons.mpr ⟨hpoint,ih⟩
  | invalid _ _ ih => exact List.forall_mem_cons.mpr ⟨hreplacement,ih⟩

/-- What is decoded is made of the octets and the replacement. -/
theorem Replaced.mem_flatten (h : Replaced replacement octets points)
    (hmem : octet ∈ points.flatten) : octet ∈ octets ∨ octet = replacement := by
  induction h with
  | nil => simp at hmem
  | sequence _ _ ih =>
    cases List.mem_append.mp hmem with
    | inl hpoint => exact .inl (List.mem_append_left _ hpoint)
    | inr hrest => exact (ih hrest).imp_left (List.mem_append_right _)
  | invalid _ _ ih =>
    cases List.mem_append.mp hmem with
    | inl hpoint => exact .inr (List.mem_singleton.mp hpoint)
    | inr hrest => exact (ih hrest).imp_left (List.mem_cons_of_mem _)

/-- Everything can be decoded. -/
theorem exists_replaced (replacement : UInt8) (octets : List UInt8) :
    ∃ points, Replaced replacement octets points := by
  induction hlength : octets.length using Nat.strong_induction_on generalizing octets with
  | _ length ih =>
    cases octets with
    | nil => exact ⟨[],.nil⟩
    | cons octet rest =>
      by_cases hstart : ∃ point, Sequence point ∧ point <+: octet :: rest
      · obtain ⟨point,hpoint,tail,htail⟩ := hstart
        have hshorter : tail.length < length := by
          have hjoined := congrArg List.length htail
          have hpos := hpoint.length_pos
          rw [List.length_append] at hjoined
          omega
        obtain ⟨points,hpoints⟩ := ih tail.length hshorter tail rfl
        exact ⟨point :: points,htail ▸ .sequence hpoint hpoints⟩
      · obtain ⟨points,hpoints⟩ := ih rest.length (by simp [← hlength]) rest rfl
        exact ⟨[replacement] :: points,
          .invalid (fun point hpoint hcut => hstart ⟨point,hpoint,hcut⟩) hpoints⟩

/-- Something is decoded from the first octet. -/
theorem Replaced.exists_cons (h : Replaced replacement (octet :: rest) points) :
    ∃ point more, points = point :: more ∧ 0 < point.length := by
  rcases (replaced_iff ..).mp h with ⟨hnil,-⟩ | ⟨point,-,more,hpoint,-,-,hpoints⟩ | h
  · cases hnil
  · exact ⟨point,more,hpoints,hpoint.length_pos⟩
  · obtain ⟨-,-,more,-,-,-,hpoints⟩ := h
    exact ⟨_,more,hpoints,Nat.one_pos⟩

/-- Nothing is kept of what starts with a code point that does not fit. -/
theorem longestWithin_nil {room : ℕ} (h : room < point.length) :
    LongestWithin room (point :: points) [] := by
  refine ⟨List.nil_prefix,Nat.zero_le _,fun other hother hfits => ?_⟩
  cases other with
  | nil => exact List.nil_prefix
  | cons first more =>
    obtain ⟨rfl,-⟩ := List.cons_prefix_cons.mp hother
    simp only [List.flatten_cons,List.length_append] at hfits
    omega

/-- All of nothing is kept. -/
theorem longestWithin_empty {room : ℕ} : LongestWithin room [] [] :=
  ⟨List.nil_prefix,Nat.zero_le _,fun _ hother _ => hother⟩

/-- A code point that fits is kept, and what then fits of the rest. -/
theorem LongestWithin.cons {room : ℕ} {kept : List (List UInt8)} (hpoint : point.length ≤ room)
    (h : LongestWithin (room - point.length) points kept) :
    LongestWithin room (point :: points) (point :: kept) := by
  have hfits := h.fits
  refine ⟨List.cons_prefix_cons.mpr ⟨rfl,h.isPrefix⟩,?_,fun other hother hroom => ?_⟩
  · simp only [List.flatten_cons,List.length_append]
    omega
  · cases other with
    | nil => exact List.nil_prefix
    | cons first more =>
      obtain ⟨rfl,hmore⟩ := List.cons_prefix_cons.mp hother
      simp only [List.flatten_cons,List.length_append] at hroom
      exact List.cons_prefix_cons.mpr ⟨rfl,h.longest more hmore (by omega)⟩

/-- A continuation octet in numbers. -/
theorem tail_iff : Tail octet ↔ 0x80 ≤ octet.toNat ∧ octet.toNat < 0xC0 := by
  unfold Tail
  simp only [UInt8.le_iff_toNat_le]
  exact and_congr_right fun _ => Nat.lt_succ_iff.symm

/-- The number of an octet that is given by one. -/
theorem toNat_ofNat {n : ℕ} (h : n < 256) : (UInt8.ofNat n).toNat = n := by
  rw [UInt8.toNat_ofNat']
  exact Nat.mod_eq_of_lt h

/-- Six bits make a continuation octet. -/
theorem tail_ofNat (n : ℕ) : Tail (UInt8.ofNat (n % 0x40 + 0x80)) := by
  rw [tail_iff,toNat_ofNat (by omega)]
  omega

/-- What the encoder yields is a sequence. -/
theorem sequence_utf8EncodeChar (c : Char) : Sequence (String.utf8EncodeChar c) := by
  have hvalid : c.val.toNat < 0xD800 ∨ 0xDFFF < c.val.toNat ∧ c.val.toNat < 0x110000 := c.valid
  unfold String.utf8EncodeChar
  generalize c.val.toNat = v at hvalid
  dsimp only
  split
  · refine .one ?_
    simp (disch := omega) only [UInt8.le_iff_toNat_le,toNat_ofNat,UInt8.reduceToNat]
    assumption
  · split
    · refine .two ?_ ?_ (tail_ofNat v)
      all_goals
        simp (disch := omega) only [UInt8.le_iff_toNat_le,toNat_ofNat,UInt8.reduceToNat]
        omega
    · split
      · refine .three ?_ ?_ ?_ ?_ (tail_ofNat _) (tail_ofNat v)
        all_goals
          simp (disch := omega) only [UInt8.le_iff_toNat_le,← UInt8.toNat_inj,toNat_ofNat,
            UInt8.reduceToNat]
          omega
      · refine .four ?_ ?_ ?_ ?_ (tail_ofNat _) (tail_ofNat _) (tail_ofNat v)
        all_goals
          simp (disch := omega) only [UInt8.le_iff_toNat_le,← UInt8.toNat_inj,toNat_ofNat,
            UInt8.reduceToNat]
          omega

/-- The encoder at the number of a scalar value. -/
theorem utf8EncodeChar_ofNatAux {v : ℕ} (hv : v.isValidChar) :
    String.utf8EncodeChar (Char.ofNatAux v hv) =
      if v ≤ 0x7F then [UInt8.ofNat v]
      else if v ≤ 0x7FF then [UInt8.ofNat (v / 64 % 0x20 + 0xC0),UInt8.ofNat (v % 0x40 + 0x80)]
      else if v ≤ 0xFFFF then
        [UInt8.ofNat (v / 4096 % 0x10 + 0xE0),UInt8.ofNat (v / 64 % 0x40 + 0x80),
          UInt8.ofNat (v % 0x40 + 0x80)]
      else
        [UInt8.ofNat (v / 262144 % 0x08 + 0xF0),UInt8.ofNat (v / 4096 % 0x40 + 0x80),
          UInt8.ofNat (v / 64 % 0x40 + 0x80),UInt8.ofNat (v % 0x40 + 0x80)] := rfl

/-- Every sequence is what the encoder yields. -/
theorem Sequence.exists_utf8EncodeChar (h : Sequence octets) :
    ∃ c : Char, octets = String.utf8EncodeChar c := by
  have hoctet : ∀ (octet : UInt8) (n : ℕ), octet.toNat = n → octet = UInt8.ofNat n := by
    intro octet n hn
    rw [← hn,UInt8.ofNat_toNat]
  cases h with
  | @one a ha =>
    simp only [UInt8.le_iff_toNat_le,UInt8.reduceToNat] at ha
    have hv : a.toNat.isValidChar := .inl (by omega)
    refine ⟨Char.ofNatAux a.toNat hv,?_⟩
    rw [utf8EncodeChar_ofNatAux,if_pos ha,UInt8.ofNat_toNat]
  | @two a b hlow hhigh hb =>
    simp only [UInt8.le_iff_toNat_le,UInt8.reduceToNat,tail_iff] at hlow hhigh hb
    have hv : (a.toNat % 32 * 64 + b.toNat % 64).isValidChar := .inl (by omega)
    refine ⟨Char.ofNatAux _ hv,?_⟩
    rw [utf8EncodeChar_ofNatAux,if_neg (by omega),if_pos (by omega)]
    simp only [List.cons.injEq,and_true]
    exact ⟨hoctet _ _ (by omega),hoctet _ _ (by omega)⟩
  | @three a b c hlow hhigh hfirst hsurrogate hb hc =>
    simp only [UInt8.le_iff_toNat_le,UInt8.reduceToNat,tail_iff,← UInt8.toNat_inj]
      at hlow hhigh hfirst hsurrogate hb hc
    have hv : (a.toNat % 16 * 4096 + b.toNat % 64 * 64 + c.toNat % 64).isValidChar := by
      unfold Nat.isValidChar
      omega
    refine ⟨Char.ofNatAux _ hv,?_⟩
    rw [utf8EncodeChar_ofNatAux,if_neg (by omega),if_neg (by omega),if_pos (by omega)]
    simp only [List.cons.injEq,and_true]
    exact ⟨hoctet _ _ (by omega),hoctet _ _ (by omega),hoctet _ _ (by omega)⟩
  | @four a b c d hlow hhigh hfirst hlast hb hc hd =>
    simp only [UInt8.le_iff_toNat_le,UInt8.reduceToNat,tail_iff,← UInt8.toNat_inj]
      at hlow hhigh hfirst hlast hb hc hd
    have hv : (a.toNat % 8 * 262144 + b.toNat % 64 * 4096 + c.toNat % 64 * 64 +
        d.toNat % 64).isValidChar := .inr (by omega)
    refine ⟨Char.ofNatAux _ hv,?_⟩
    rw [utf8EncodeChar_ofNatAux,if_neg (by omega),if_neg (by omega),if_neg (by omega)]
    simp only [List.cons.injEq,and_true]
    exact ⟨hoctet _ _ (by omega),hoctet _ _ (by omega),hoctet _ _ (by omega),
      hoctet _ _ (by omega)⟩

/-- The sequences are what the encoder yields. -/
theorem sequence_iff : Sequence octets ↔ ∃ c : Char, octets = String.utf8EncodeChar c := by
  constructor
  · exact Sequence.exists_utf8EncodeChar
  · intro h
    obtain ⟨c,rfl⟩ := h
    exact sequence_utf8EncodeChar c

/-- Well-formed octets are the encoding of a text, and only these are. -/
theorem wellFormed_iff :
    WellFormed octets ↔ ∃ text : List Char, octets = text.flatMap String.utf8EncodeChar := by
  constructor
  · intro h
    obtain ⟨points,hpoints,rfl⟩ := h
    induction points with
    | nil => exact ⟨[],rfl⟩
    | cons point points ih =>
      rw [List.forall_mem_cons] at hpoints
      obtain ⟨c,rfl⟩ := hpoints.1.exists_utf8EncodeChar
      obtain ⟨text,htext⟩ := ih hpoints.2
      exact ⟨c :: text,by rw [List.flatten_cons,htext,List.flatMap_cons]⟩
  · intro h
    obtain ⟨text,rfl⟩ := h
    refine ⟨text.map String.utf8EncodeChar,?_,List.flatMap_def⟩
    intro point hpoint
    obtain ⟨c,-,rfl⟩ := List.mem_map.mp hpoint
    exact sequence_utf8EncodeChar c

/-- Only one sequence has a zero octet. -/
theorem Sequence.eq_of_zero_mem (h : Sequence point) (hzero : 0 ∈ point) : point = [0] := by
  have htail : ¬ Tail 0 := fun htail => absurd htail.1 (by decide)
  cases h with
  | one => rw [List.mem_singleton.mp hzero]
  | two hlow _ hb =>
    simp only [List.mem_cons,List.not_mem_nil,or_false] at hzero
    rcases hzero with rfl | rfl
    · exact absurd hlow (by decide)
    · exact absurd hb htail
  | three hlow _ _ _ hb hc =>
    simp only [List.mem_cons,List.not_mem_nil,or_false] at hzero
    rcases hzero with rfl | rfl | rfl
    · exact absurd hlow (by decide)
    · exact absurd hb htail
    · exact absurd hc htail
  | four hlow _ _ _ hb hc hd =>
    simp only [List.mem_cons,List.not_mem_nil,or_false] at hzero
    rcases hzero with rfl | rfl | rfl | rfl
    · exact absurd hlow (by decide)
    · exact absurd hb htail
    · exact absurd hc htail
    · exact absurd hd htail

/-- Only the NUL has a zero octet. -/
theorem eq_nul_of_zero_mem {c : Char} (h : 0 ∈ String.utf8EncodeChar c) : c = Char.ofNat 0 := by
  have hsame : String.utf8EncodeChar c = String.utf8EncodeChar (Char.ofNat 0) :=
    (sequence_utf8EncodeChar c).eq_of_zero_mem h
  have hdecode := congrArg (fun octets => (octets.toByteArray ++ ByteArray.empty).utf8DecodeChar? 0)
    hsame
  simp only [ByteArray.utf8DecodeChar?_utf8EncodeChar_append,Option.some.injEq] at hdecode
  exact hdecode

/-- A text is decoded into the encodings of its characters. -/
theorem replaced_flatMap (replacement : UInt8) (text : List Char) :
    Replaced replacement (text.flatMap String.utf8EncodeChar)
      (text.map String.utf8EncodeChar) := by
  induction text with
  | nil => exact .nil
  | cons c text ih => exact .sequence (sequence_utf8EncodeChar c) ih

end Dmw.Utf8
