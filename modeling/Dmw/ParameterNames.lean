import Mathlib.Data.List.Basic
import Dmw.Parameters

/-!
# The grammar of parameter names

A parameter name is a non-empty sequence of tokens with single dots between
them. The scanner goes over a name by index, one step past its last octet, with
the start of the current token beside it. It accepts exactly the grammar and
reads no octet that is not there.
-/

namespace Dmw.ParameterNames

open Identity GraphNames Parameters

/-- The token loop, by index. There is no result if it reads past the end. -/
def scanTokens (name : ByteString) (index tokenStart : ℕ) : Option (Result Unit) :=
  if index ≤ name.length then do
    -- Short circuit: the end sentinel is no octet and is not read.
    let inToken ← if index ≠ name.length then name[index]?.map (· != dot) else some false
    if inToken then
      let octet ← name[index]?
      if index = tokenStart then
        if !isTokenStart octet then
          some (.error ⟨.invalidName, "Parameter name token must start with a letter or underscore"⟩)
        else scanTokens name (index + 1) tokenStart
      else if !isTokenChar octet then
        some (.error ⟨.invalidName, "Parameter name contains an invalid character"⟩)
      else scanTokens name (index + 1) tokenStart
    else if index = tokenStart then
      some (.error ⟨.invalidName, "Parameter name contains an empty token"⟩)
    else scanTokens name (index + 1) (index + 1)
  else some (.ok ())
termination_by name.length + 1 - index

/-- `validate_parameter_name`, by index. There is no result if it reads an octet
that is not there. -/
def scanName (name : ByteString) : Option (Result Unit) :=
  if name = [] then some (.error ⟨.invalidName, "Parameter name is empty"⟩)
  else do
    let front ← name[0]?
    let dotted ← if front = dot then some true else name[name.length - 1]?.map (· == dot)
    if dotted then
      some (.error ⟨.invalidName, "Parameter name must not start or end with '.'"⟩)
    else scanTokens name 0 0

/-- A letter. -/
def Letter (octet : UInt8) : Prop :=
  'a'.toNat ≤ octet.toNat ∧ octet.toNat ≤ 'z'.toNat ∨
    'A'.toNat ≤ octet.toNat ∧ octet.toNat ≤ 'Z'.toNat

/-- A digit. -/
def Digit (octet : UInt8) : Prop := '0'.toNat ≤ octet.toNat ∧ octet.toNat ≤ '9'.toNat

/-- An underscore. -/
def Underscore (octet : UInt8) : Prop := octet.toNat = '_'.toNat

/-- Letters, digits and underscores. -/
def Word (octets : ByteString) : Prop :=
  ∀ octet ∈ octets, Letter octet ∨ Digit octet ∨ Underscore octet

/-- A token starts with a letter or an underscore, letters, digits and
underscores follow. -/
def Token (token : ByteString) : Prop :=
  ∃ first rest, token = first :: rest ∧ (Letter first ∨ Underscore first) ∧ Word rest

/-- The grammar: tokens with single dots between them. -/
def Grammatical (name : ByteString) : Prop :=
  ∃ tokens : List ByteString, tokens ≠ [] ∧ (∀ token ∈ tokens, Token token) ∧
    name = [dot].intercalate tokens

/-- What may follow within a token: its rest, and further tokens. -/
def Continues (octets : ByteString) : Prop :=
  ∃ rest, ∃ tokens : List ByteString, Word rest ∧ (∀ token ∈ tokens, Token token) ∧
    octets = [dot].intercalate (rest :: tokens)

/-- The scanner knows the octets a token starts with. -/
theorem isTokenStart_iff {octet : UInt8} :
    isTokenStart octet = true ↔ Letter octet ∨ Underscore octet := by
  unfold isTokenStart Letter Underscore
  rw [decide_eq_true_eq]
  simp only [UInt8.le_iff_toNat_le,← UInt8.toNat_inj]
  have ha : 'a'.toNat = 97 := rfl
  have hz : 'z'.toNat = 122 := rfl
  have hA : 'A'.toNat = 65 := rfl
  have hZ : 'Z'.toNat = 90 := rfl
  have hu : '_'.toNat = 95 := rfl
  rw [ha,hz,hA,hZ,hu,or_assoc]
  rfl

/-- The scanner knows the digits. -/
theorem isDigit_iff {octet : UInt8} : isDigit octet = true ↔ Digit octet := by
  unfold isDigit Digit
  rw [decide_eq_true_eq]
  simp only [UInt8.le_iff_toNat_le]
  rfl

/-- The scanner knows the octets of a token. -/
theorem isTokenChar_iff {octet : UInt8} :
    isTokenChar octet = true ↔ Letter octet ∨ Digit octet ∨ Underscore octet := by
  unfold isTokenChar
  rw [Bool.or_eq_true,isTokenStart_iff,isDigit_iff]
  tauto

/-- A dot is in no token. -/
theorem not_word_dot : ¬ (Letter dot ∨ Digit dot ∨ Underscore dot) := by
  rw [← isTokenChar_iff]
  decide

/-- Nothing follows at the end of a token. -/
theorem continues_nil : Continues [] := ⟨[],[],by simp [Word],by simp,rfl⟩

/-- No name is empty. -/
theorem not_grammatical_nil : ¬ Grammatical [] := by
  rintro ⟨tokens, hsome, htokens, hname⟩
  cases tokens with
  | nil => exact hsome rfl
  | cons token rest =>
    obtain ⟨first, more, rfl, -⟩ := htokens token List.mem_cons_self
    cases rest <;> simp at hname

/-- A name is the first octet of a token and what follows. -/
theorem grammatical_cons {octet : UInt8} {rest : ByteString} :
    Grammatical (octet :: rest) ↔ (Letter octet ∨ Underscore octet) ∧ Continues rest := by
  have hglue : ∀ (first : UInt8) (more : ByteString) (tokens : List ByteString),
      [dot].intercalate ((first :: more) :: tokens) =
        first :: [dot].intercalate (more :: tokens) := by
    intro first more tokens
    cases tokens <;> simp
  constructor
  · rintro ⟨tokens, hsome, htokens, hname⟩
    cases tokens with
    | nil => exact absurd rfl hsome
    | cons token tokens =>
      obtain ⟨first, more, rfl, hfirst, hmore⟩ := htokens token List.mem_cons_self
      rw [hglue,List.cons.injEq] at hname
      obtain ⟨rfl, hrest⟩ := hname
      exact ⟨hfirst,more,tokens,hmore,fun t ht => htokens t (List.mem_cons_of_mem _ ht),hrest⟩
  · rintro ⟨hfirst, more, tokens, hmore, htokens, rfl⟩
    refine ⟨(octet :: more) :: tokens,by simp,?_,(hglue octet more tokens).symm⟩
    intro token ht
    rcases List.mem_cons.mp ht with rfl | ht
    · exact ⟨octet,more,rfl,hfirst,hmore⟩
    · exact htokens token ht

/-- After a dot another name follows. -/
theorem continues_dot {rest : ByteString} : Continues (dot :: rest) ↔ Grammatical rest := by
  constructor
  · rintro ⟨more, tokens, hmore, htokens, hoctets⟩
    cases more with
    | cons first more =>
      have hhead : dot = first := by
        cases tokens <;> simp at hoctets <;> exact hoctets.1
      exact absurd (hhead ▸ hmore first List.mem_cons_self) not_word_dot
    | nil =>
      cases tokens with
      | nil => simp at hoctets
      | cons token tokens =>
        rw [List.intercalate_cons_cons] at hoctets
        simp only [List.nil_append,List.singleton_append,List.cons.injEq,true_and] at hoctets
        exact ⟨token :: tokens,by simp,htokens,hoctets⟩
  · rintro ⟨tokens, hsome, htokens, rfl⟩
    refine ⟨[],tokens,by simp [Word],htokens,?_⟩
    cases tokens with
    | nil => exact absurd rfl hsome
    | cons token tokens =>
      rw [List.intercalate_cons_cons]
      rfl

/-- An octet of a token may be followed by what may follow the token's start. -/
theorem continues_cons {octet : UInt8} {rest : ByteString} (hdot : octet ≠ dot) :
    Continues (octet :: rest) ↔
      (Letter octet ∨ Digit octet ∨ Underscore octet) ∧ Continues rest := by
  have hglue : ∀ (more : ByteString) (tokens : List ByteString),
      [dot].intercalate ((octet :: more) :: tokens) =
        octet :: [dot].intercalate (more :: tokens) := by
    intro more tokens
    cases tokens <;> simp
  constructor
  · rintro ⟨more, tokens, hmore, htokens, hoctets⟩
    cases more with
    | nil =>
      cases tokens with
      | nil => simp at hoctets
      | cons token tokens =>
        rw [List.intercalate_cons_cons] at hoctets
        simp only [List.nil_append,List.singleton_append,List.cons.injEq] at hoctets
        exact absurd hoctets.1 hdot
    | cons first more =>
      have hhead : octet = first := by
        cases tokens <;> simp at hoctets <;> exact hoctets.1
      obtain rfl := hhead
      rw [hglue,List.cons.injEq] at hoctets
      exact ⟨hmore octet List.mem_cons_self,more,tokens,
        fun o ho => hmore o (List.mem_cons_of_mem _ ho),htokens,hoctets.2⟩
  · rintro ⟨hoctet, more, tokens, hmore, htokens, rfl⟩
    refine ⟨octet :: more,tokens,?_,htokens,(hglue more tokens).symm⟩
    intro o ho
    rcases List.mem_cons.mp ho with rfl | ho
    · exact hoctet
    · exact hmore o ho

/-- The walk accepts a name at the start of a token, and what may follow
within one. -/
theorem validateTokens_ok (index tokenStart : ℕ) (octets : ByteString)
    (hle : tokenStart ≤ index) :
    validateTokens index tokenStart octets = .ok () ↔
      if index = tokenStart then Grammatical octets else Continues octets := by
  induction octets generalizing index tokenStart with
  | nil =>
    unfold validateTokens
    by_cases hstart : index = tokenStart
    · simp [hstart,not_grammatical_nil]
    · simp [hstart,continues_nil]
  | cons octet rest ih =>
    unfold validateTokens
    have hnext : index + 1 ≠ tokenStart := by omega
    have hrest := ih (index + 1) tokenStart (by omega)
    rw [if_neg hnext] at hrest
    by_cases hdot : octet = dot
    · subst hdot
      have hnot : ¬ (Letter dot ∨ Underscore dot) := fun h => not_word_dot (by tauto)
      have hafter := ih (index + 1) (index + 1) le_rfl
      rw [if_pos rfl] at hafter
      by_cases hstart : index = tokenStart
      · simp [hstart,grammatical_cons,hnot]
      · simp only [ne_eq,not_true_eq_false,hstart,if_false,hafter,continues_dot]
    · by_cases hstart : index = tokenStart
      · simp only [ne_eq,hdot,not_false_eq_true,if_true,if_pos hstart,grammatical_cons]
        rw [← isTokenStart_iff]
        cases isTokenStart octet with
        | false => simp
        | true => simp [hrest]
      · simp only [ne_eq,hdot,not_false_eq_true,if_true,if_neg hstart,continues_cons hdot]
        rw [← isTokenChar_iff]
        cases isTokenChar octet with
        | false => simp
        | true => simp [hrest]

/-- What starts or ends with a dot is no name, and no name follows. -/
theorem getLast?_ne_dot {octets : ByteString} :
    (Grammatical octets → octets.getLast? ≠ some dot) ∧
      (Continues octets → octets.getLast? ≠ some dot) := by
  induction octets with
  | nil => simp
  | cons octet rest ih =>
    have hlast : (octet ≠ dot ∨ rest ≠ []) → rest.getLast? ≠ some dot →
        (octet :: rest).getLast? ≠ some dot := by
      intro hsome hrest
      cases rest with
      | nil => simpa using hsome
      | cons next rest => rwa [List.getLast?_cons_cons]
    constructor
    · intro h
      obtain ⟨hfirst, hrest⟩ := grammatical_cons.mp h
      have hdot : octet ≠ dot := by
        rintro rfl
        exact not_word_dot (by tauto)
      exact hlast (Or.inl hdot) (ih.2 hrest)
    · intro h
      by_cases hdot : octet = dot
      · subst hdot
        have hrest := continues_dot.mp h
        refine hlast (Or.inr ?_) (ih.1 hrest)
        rintro rfl
        exact not_grammatical_nil hrest
      · exact hlast (Or.inl hdot) (ih.2 ((continues_cons hdot).mp h).2)

/-- A name passes exactly if it has the grammar. -/
theorem validateParameterName_ok {name : ByteString} :
    validateParameterName name = .ok () ↔ Grammatical name := by
  have hwalk := validateTokens_ok 0 0 name (le_refl 0)
  rw [if_pos rfl] at hwalk
  unfold validateParameterName
  by_cases hempty : name = []
  · simp [hempty,not_grammatical_nil]
  · rw [if_neg hempty]
    by_cases hdots : name.head? = some dot ∨ name.getLast? = some dot
    · rw [if_pos hdots]
      have hnot : ¬ Grammatical name := by
        intro h
        rcases hdots with hfront | hback
        · obtain ⟨rest, rfl⟩ := List.head?_eq_some_iff.mp hfront
          exact not_word_dot (by have := (grammatical_cons.mp h).1; tauto)
        · exact getLast?_ne_dot.1 h hback
      simp [hnot]
    · rw [if_neg hdots]
      exact hwalk

/-- The loop reads within the name, and is the walk over what is left of it. -/
theorem scanTokens_eq {name : ByteString} {index : ℕ} (tokenStart : ℕ)
    (hindex : index ≤ name.length) :
    scanTokens name index tokenStart =
      some (validateTokens index tokenStart (name.drop index)) := by
  induction hleft : name.length - index generalizing index tokenStart with
  | zero =>
    have hend : index = name.length := by omega
    subst hend
    have hstop : ∀ start, scanTokens name (name.length + 1) start = some (.ok ()) := by
      intro start
      rw [scanTokens,if_neg (by omega)]
    rw [scanTokens,List.drop_length,validateTokens]
    by_cases hstart : name.length = tokenStart
    · simp [hstart]
    · simp [hstart,hstop]
  | succ left ih =>
    have hlt : index < name.length := by omega
    have hread : name[index]? = some name[index] := List.getElem?_eq_getElem hlt
    have hrest := fun start => ih start hlt (by omega)
    rw [scanTokens,if_pos hindex,List.drop_eq_getElem_cons hlt,validateTokens,hread,hrest,hrest]
    have hinside : index ≠ name.length := by omega
    simp only [ne_eq,hinside,not_false_eq_true,if_true,Option.map_some,Option.bind_eq_bind,
      Option.bind_some]
    generalize name[index] = octet
    by_cases hdot : octet = dot
    · by_cases hstart : index = tokenStart <;> simp [hdot,hstart]
    · by_cases hstart : index = tokenStart
      · cases isTokenStart octet <;> simp [hdot,hstart]
      · cases isTokenChar octet <;> simp [hdot,hstart]

/-- The scanner reads within the name, and decides what the walk decides. -/
theorem scanName_eq (name : ByteString) : scanName name = some (validateParameterName name) := by
  unfold scanName validateParameterName
  by_cases hempty : name = []
  · rw [if_pos hempty,if_pos hempty]
  · have hpos : 0 < name.length := List.length_pos_of_ne_nil hempty
    have hfront : name[0]? = name.head? := List.head?_eq_getElem?.symm
    have hback : name[name.length - 1]? = name.getLast? := List.getLast?_eq_getElem?.symm
    have hwalk := scanTokens_eq 0 (Nat.zero_le name.length)
    rw [if_neg hempty,if_neg hempty,hfront,hback,hwalk,List.head?_eq_some_head hempty,
      List.getLast?_eq_some_getLast hempty]
    by_cases hdot : name.head hempty = dot
    · simp [hdot]
    · by_cases hdot' : name.getLast hempty = dot <;> simp [hdot,hdot']

/-- For every string the scanner reads no octet that is not there, and it
accepts exactly the non-empty sequences of tokens with single dots between
them. -/
theorem names_exact (name : ByteString) :
    ∃ outcome, scanName name = some outcome ∧ (outcome = .ok () ↔ Grammatical name) :=
  ⟨validateParameterName name,scanName_eq name,validateParameterName_ok⟩

example : validateParameterName (text "nested.name") = .ok () := by decide

end Dmw.ParameterNames
