import Dmw.ParameterConstraints
import Dmw.ParameterNames
import Dmw.Separators
import Dmw.SortedSets

/-!
# Listing parameters

A listing selects stored names by prefixes of whole tokens and cuts the ones
with more tokens than the depth after as many. Tokens are counted and cut in two
loops over the same dots; both agree with the tokens of the name.
-/

namespace Dmw.ParameterListing

open GuardedRuns KeyedTable Identity GraphNames Parameters ParameterStore
open ParameterConstraints ParameterNames Separators SortedSets

/-- `kUnlimitedDepth`. -/
def unlimitedDepth : ℕ := 0

/-- Tokens are counted by the dots between them. -/
def countTokens (name : ByteString) : ℕ :=
  name.foldl (fun count character => if character = dot then count + 1 else count) 1

/-- The loop over the octets from an index, with the dots seen before it. -/
def truncateFrom (name : ByteString) (tokens seen index : ℕ) : ByteString → ByteString
  | [] => name
  | character :: rest =>
    if character = dot then
      if seen + 1 = tokens then name.take index
      else truncateFrom name tokens (seen + 1) (index + 1) rest
    else truncateFrom name tokens seen (index + 1) rest

/-- Cut a name after some tokens. -/
def truncateToDepth (name : ByteString) (tokens : ℕ) : ByteString :=
  truncateFrom name tokens 0 0 name

/-- Whether one prefix selects a name. -/
def selects (name start : ByteString) : Bool :=
  start = [] || name = start ||
    (start.length < name.length && name.take start.length = start &&
      name[start.length]? = some dot)

/-- Whether a name is listed at all. -/
def isListed (prefixes : List ByteString) (name : ByteString) : Bool :=
  prefixes = [] || prefixes.any (selects name)

/-- `ParameterListResult`. -/
structure ParameterListResult where
  /-- Names within the depth. -/
  names : List ByteString
  /-- Beginnings of the names beyond it. -/
  prefixes : List ByteString
  deriving DecidableEq

/-- What the loop over the store collects. -/
structure Collected where
  /-- `names`. -/
  names : SortedSet ByteString
  /-- `prefixes_out`. -/
  prefixesOut : SortedSet ByteString

/-- One round of the loop over the store. -/
def collect (prefixes : List ByteString) (depth : ℕ) (found : Collected) (name : ByteString) :
    Collected :=
  if isListed prefixes name = false then found
  else if depth = unlimitedDepth then { found with names := found.names.insert name }
  else if countTokens name ≤ depth then { found with names := found.names.insert name }
  else { found with prefixesOut := found.prefixesOut.insert (truncateToDepth name depth) }

variable {δ : Type}

/-- `list`. -/
def list (prefixes : List ByteString) (depth : ℕ) (s : ParameterStoreState δ) :
    Result ParameterListResult := do
  prefixes.forM fun start => if start ≠ [] then validateParameterName start else .ok ()
  let found := s.parameters.keys.foldl (collect prefixes depth) ⟨∅,∅⟩
  .ok ⟨found.names.elements,found.prefixesOut.elements⟩

/-- The tokens of a name. -/
def tokens (name : ByteString) : List ByteString := name.splitOn dot

/-- A name begins with another one and a dot. -/
def ProperDotPrefix (start name : ByteString) : Prop := ∃ rest, name = start ++ dot :: rest

/-- The names that a list of prefixes selects. -/
def Matches (prefixes : List ByteString) (name : ByteString) : Prop :=
  prefixes = [] ∨ ∃ start ∈ prefixes, start = [] ∨ start = name ∨ ProperDotPrefix start name

/-- The name is stored and selected. -/
def Selected (prefixes : List ByteString) (s : ParameterStoreState δ) (name : ByteString) : Prop :=
  name ∈ s.parameters ∧ Matches prefixes name

/-- What a listing of a store is. -/
structure Listed (prefixes : List ByteString) (depth : ℕ) (s : ParameterStoreState δ)
    (result : ParameterListResult) : Prop where
  /-- The names are in order, each once. -/
  names_sorted : result.names.Pairwise (· < ·)
  /-- So are the beginnings. -/
  prefixes_sorted : result.prefixes.Pairwise (· < ·)
  /-- The names are the selected ones within the depth, all of them without one. -/
  names_iff : ∀ name, name ∈ result.names ↔
    Selected prefixes s name ∧ (depth = 0 ∨ (tokens name).length ≤ depth)
  /-- The beginnings are the other selected names, cut after as many tokens. -/
  prefixes_iff : ∀ start, start ∈ result.prefixes ↔ ∃ name, Selected prefixes s name ∧
    depth ≠ 0 ∧ depth < (tokens name).length ∧ start = truncate dot depth name
  /-- A beginning is a valid name and that of a selected one. -/
  prefix_valid : ∀ start ∈ result.prefixes, validateParameterName start = .ok () ∧
    ∃ name, Selected prefixes s name ∧ ProperDotPrefix start name
  /-- A selected name is there itself, or a beginning of it is, not both. -/
  represented : ∀ name, Selected prefixes s name →
    Xor (name ∈ result.names) (∃ start ∈ result.prefixes, ProperDotPrefix start name)

/-- The count is that of the tokens. -/
theorem countTokens_eq (name : ByteString) : countTokens name = (tokens name).length := by
  have hcount : ∀ (octets : ByteString) (count : ℕ),
      octets.foldl (fun count character => if character = dot then count + 1 else count) count =
        count + octets.count dot := by
    intro octets
    induction octets with
    | nil => exact fun count => rfl
    | cons character rest ih =>
      intro count
      rw [List.foldl_cons,ih,List.count_cons]
      by_cases hdot : character = dot
      · simp only [hdot,if_true,beq_self_eq_true]
        omega
      · simp [hdot]
  unfold countTokens tokens
  rw [hcount,length_splitOn]
  omega

/-- The loop cuts what is left of the name after the tokens still missing. -/
theorem truncateFrom_eq {name start rest : ByteString} (seen missing : ℕ)
    (hname : name = start ++ rest) :
    truncateFrom name (seen + (missing + 1)) seen start.length rest =
      start ++ truncate dot (missing + 1) rest := by
  induction rest generalizing start seen missing with
  | nil => simpa [truncateFrom,truncate] using hname
  | cons character rest ih =>
    unfold truncateFrom truncate
    rw [List.splitOn_cons_eq_if_modifyHead]
    have hlonger : name = (start ++ [character]) ++ rest := by simpa using hname
    have hlength : (start ++ [character]).length = start.length + 1 := by simp
    by_cases hdot : character = dot
    · subst hdot
      simp only [if_true,beq_self_eq_true,List.take_succ_cons]
      cases missing with
      | zero => simp [hname]
      | succ missing =>
        rw [if_neg (by omega)]
        have hrest := ih (seen + 1) missing hlonger
        have hseen : seen + 1 + (missing + 1) = seen + (missing + 1 + 1) := by omega
        rw [hlength,hseen] at hrest
        rw [hrest,truncate]
        obtain ⟨first, parts, hparts⟩ :=
          List.exists_cons_of_ne_nil (List.splitOn_ne_nil dot rest)
        rw [hparts]
        simp
    · simp only [if_neg hdot,beq_iff_eq]
      have hrest := ih seen missing hlonger
      rw [hlength] at hrest
      rw [hrest,truncate]
      obtain ⟨first, parts, hparts⟩ := List.exists_cons_of_ne_nil (List.splitOn_ne_nil dot rest)
      rw [hparts,List.modifyHead_cons,List.take_succ_cons,List.take_succ_cons,
        intercalate_cons_head]
      simp

/-- The code cuts a name after whole tokens. -/
theorem truncateToDepth_eq (name : ByteString) {depth : ℕ} (hdepth : 0 < depth) :
    truncateToDepth name depth = truncate dot depth name := by
  obtain ⟨missing, rfl⟩ : ∃ missing, depth = missing + 1 := ⟨depth - 1,by omega⟩
  have hfrom := truncateFrom_eq 0 missing (List.nil_append name).symm
  rw [Nat.zero_add] at hfrom
  exact hfrom

/-- A prefix selects itself and what goes on after a dot. -/
theorem selects_iff {name start : ByteString} :
    selects name start = true ↔ start = [] ∨ start = name ∨ ProperDotPrefix start name := by
  have hproper : (start.length < name.length ∧ name.take start.length = start ∧
      name[start.length]? = some dot) ↔ ProperDotPrefix start name := by
    constructor
    · rintro ⟨hlt, htake, hdot⟩
      obtain ⟨hin, hat⟩ := List.getElem?_eq_some_iff.mp hdot
      refine ⟨name.drop (start.length + 1),?_⟩
      have hwhole := List.take_append_drop start.length name
      rw [htake,List.drop_eq_getElem_cons hin,hat] at hwhole
      exact hwhole.symm
    · rintro ⟨rest, rfl⟩
      simp
  unfold selects
  simp only [Bool.or_eq_true,Bool.and_eq_true,decide_eq_true_eq,and_assoc,or_assoc]
  rw [hproper,eq_comm (a := name)]

/-- The names that are listed. -/
theorem isListed_iff {prefixes : List ByteString} {name : ByteString} :
    isListed prefixes name = true ↔ Matches prefixes name := by
  unfold isListed Matches
  simp only [Bool.or_eq_true,decide_eq_true_eq,List.any_eq_true,selects_iff]

/-- What the loop has collected after some names. -/
theorem mem_collect {prefixes : List ByteString} {depth : ℕ} (stored : List ByteString)
    (found : Collected) :
    (∀ name, name ∈ (stored.foldl (collect prefixes depth) found).names ↔ name ∈ found.names ∨
        (name ∈ stored ∧ Matches prefixes name) ∧ (depth = 0 ∨ (tokens name).length ≤ depth)) ∧
      ∀ start, start ∈ (stored.foldl (collect prefixes depth) found).prefixesOut ↔
        start ∈ found.prefixesOut ∨ ∃ name, (name ∈ stored ∧ Matches prefixes name) ∧
          depth ≠ 0 ∧ depth < (tokens name).length ∧ start = truncate dot depth name := by
  induction stored generalizing found with
  | nil => simp
  | cons name stored ih =>
    obtain ⟨hnames, hcuts⟩ := ih (collect prefixes depth found name)
    have hone : (∀ other, other ∈ (collect prefixes depth found name).names ↔
          other ∈ found.names ∨ (other = name ∧ Matches prefixes name) ∧
            (depth = 0 ∨ (tokens name).length ≤ depth)) ∧
        ∀ start, start ∈ (collect prefixes depth found name).prefixesOut ↔
          start ∈ found.prefixesOut ∨ Matches prefixes name ∧ depth ≠ 0 ∧
            depth < (tokens name).length ∧ start = truncate dot depth name := by
      unfold collect
      rw [← isListed_iff,countTokens_eq]
      cases hlisted : isListed prefixes name with
      | false => simp
      | true =>
        by_cases hzero : depth = 0
        · simp [hzero,unlimitedDepth,mem_insert,or_comm]
        · rw [truncateToDepth_eq name (by omega)]
          by_cases hwithin : (tokens name).length ≤ depth
          · have hnot : ¬ depth < (tokens name).length := by omega
            simp [hzero,unlimitedDepth,hwithin,hnot,mem_insert,or_comm]
          · have hbeyond : depth < (tokens name).length := by omega
            simp [hzero,unlimitedDepth,hwithin,hbeyond,mem_insert,or_comm]
    rw [List.foldl_cons]
    constructor
    · intro other
      rw [hnames,hone.1,List.mem_cons]
      constructor
      · rintro ((h | ⟨⟨rfl, hmatch⟩, hdepth⟩) | ⟨⟨hmem, hmatch⟩, hdepth⟩)
        · exact Or.inl h
        · exact Or.inr ⟨⟨Or.inl rfl,hmatch⟩,hdepth⟩
        · exact Or.inr ⟨⟨Or.inr hmem,hmatch⟩,hdepth⟩
      · rintro (h | ⟨⟨rfl | hmem, hmatch⟩, hdepth⟩)
        · exact Or.inl (Or.inl h)
        · exact Or.inl (Or.inr ⟨⟨rfl,hmatch⟩,hdepth⟩)
        · exact Or.inr ⟨⟨hmem,hmatch⟩,hdepth⟩
    · intro start
      rw [hcuts,hone.2]
      constructor
      · rintro ((h | ⟨hmatch, hcut⟩) | ⟨other, ⟨hmem, hmatch⟩, hcut⟩)
        · exact Or.inl h
        · exact Or.inr ⟨name,⟨List.mem_cons_self,hmatch⟩,hcut⟩
        · exact Or.inr ⟨other,⟨List.mem_cons_of_mem _ hmem,hmatch⟩,hcut⟩
      · rintro (h | ⟨other, ⟨hmem, hmatch⟩, hcut⟩)
        · exact Or.inl (Or.inl h)
        · rcases List.mem_cons.mp hmem with rfl | hmem
          · exact Or.inl (Or.inr ⟨hmatch,hcut⟩)
          · exact Or.inr ⟨other,⟨hmem,hmatch⟩,hcut⟩

/-- A name has the grammar exactly if its tokens are ones. -/
theorem grammatical_iff {name : ByteString} :
    Grammatical name ↔ ∀ token ∈ tokens name, Token token := by
  constructor
  · rintro ⟨parts, hsome, hparts, rfl⟩
    have hdot : ∀ part ∈ parts, dot ∉ part := by
      intro part hpart hmem
      obtain ⟨first, rest, rfl, hfirst, hrest⟩ := hparts part hpart
      refine not_word_dot ?_
      rcases List.mem_cons.mp hmem with rfl | hmem
      · tauto
      · exact hrest dot hmem
    rw [tokens,List.splitOn_intercalate dot hdot hsome]
    exact hparts
  · intro htokens
    exact ⟨tokens name,List.splitOn_ne_nil _ _,htokens,(List.intercalate_splitOn dot).symm⟩

/-- A beginning of whole tokens of a valid name is a valid name. -/
theorem truncate_valid {name : ByteString} {depth : ℕ} (hdepth : 0 < depth)
    (hvalid : validateParameterName name = .ok ()) :
    validateParameterName (truncate dot depth name) = .ok () := by
  rw [validateParameterName_ok,grammatical_iff] at hvalid ⊢
  rw [tokens,splitOn_truncate dot hdepth]
  exact fun token htoken => hvalid token (List.mem_of_mem_take htoken)

/-- A longer name has more tokens. -/
theorem length_tokens_of_prefix {start name : ByteString} (h : ProperDotPrefix start name) :
    (tokens start).length < (tokens name).length := by
  obtain ⟨rest, rfl⟩ := h
  have hrest : 0 < (rest.splitOn dot).length :=
    List.length_pos_iff_ne_nil.mpr (List.splitOn_ne_nil _ _)
  unfold tokens
  rw [List.splitOn_append_cons_self,List.length_append]
  omega

variable [FloatingPoint δ]

/-- For every store that calls lead to, and every prefix list and depth that a
listing accepts, the listing is complete and sound. -/
theorem listing_exact {allowUndeclaredParameters : Bool} {overrides : List (Parameter δ)}
    {calls : List (StoreCall δ)} {s : ParameterStoreState δ} {prefixes : List ByteString}
    {depth : ℕ} {result : ParameterListResult}
    (hrun : machine.Run (.initial allowUndeclaredParameters overrides) calls s)
    (haccepted : list prefixes depth s = .ok result) : Listed prefixes depth s result := by
  obtain ⟨hnames, hcuts⟩ :=
    mem_collect s.parameters.keys ⟨∅,∅⟩
  have hresult : result =
      ⟨(s.parameters.keys.foldl (collect prefixes depth) ⟨∅,∅⟩).names.elements,
        (s.parameters.keys.foldl (collect prefixes depth) ⟨∅,∅⟩).prefixesOut.elements⟩ := by
    unfold list at haccepted
    cases hcheck : prefixes.forM fun start =>
        if start ≠ [] then validateParameterName start else .ok () with
    | error e =>
      rw [hcheck] at haccepted
      cases haccepted
    | ok u =>
      rw [hcheck] at haccepted
      exact (Except.ok.inj haccepted).symm
  have hempty : ∀ name : ByteString, name ∉ (∅ : SortedSet ByteString) := fun _ => List.not_mem_nil
  have hwell := wellStored_run hrun (wellStored_initial allowUndeclaredParameters overrides)
  have hnames_iff : ∀ name, name ∈ result.names ↔
      Selected prefixes s name ∧ (depth = 0 ∨ (tokens name).length ≤ depth) := by
    intro name
    have h := hnames name
    rw [or_iff_right (hempty name)] at h
    rw [hresult]
    exact h
  have hcuts_iff : ∀ start, start ∈ result.prefixes ↔ ∃ name, Selected prefixes s name ∧
      depth ≠ 0 ∧ depth < (tokens name).length ∧ start = truncate dot depth name := by
    intro start
    have h := hcuts start
    rw [or_iff_right (hempty start)] at h
    rw [hresult]
    exact h
  have hproper : ∀ name, depth ≠ 0 → depth < (tokens name).length →
      ProperDotPrefix (truncate dot depth name) name := fun name hzero hbeyond =>
    ⟨_,truncate_append (by omega) hbeyond⟩
  refine ⟨?_,?_,hnames_iff,hcuts_iff,?_,?_⟩
  · rw [hresult]
    exact SortedSet.increasing _
  · rw [hresult]
    exact SortedSet.increasing _
  · intro start hstart
    obtain ⟨name, hselected, hzero, hbeyond, rfl⟩ := (hcuts_iff start).mp hstart
    obtain ⟨stored, hstored⟩ := Option.isSome_iff_exists.mp (AList.lookup_isSome.mpr hselected.1)
    have hvalid := (hwell name stored hstored).1
    exact ⟨truncate_valid (by omega) hvalid,name,hselected,hproper name hzero hbeyond⟩
  · intro name hselected
    by_cases hwithin : depth = 0 ∨ (tokens name).length ≤ depth
    · -- Beginnings have as many tokens as the depth, so none is one of this name.
      refine Or.inl ⟨(hnames_iff name).mpr ⟨hselected,hwithin⟩,?_⟩
      rintro ⟨start, hstart, hbegins⟩
      obtain ⟨other, -, hzero, hbeyond, rfl⟩ := (hcuts_iff start).mp hstart
      have hmore := length_tokens_of_prefix hbegins
      have hlength : (tokens (truncate dot depth other)).length = depth := by
        rw [tokens,splitOn_truncate dot (by omega),List.length_take]
        unfold tokens at hbeyond
        omega
      omega
    · have hzero : depth ≠ 0 := fun h => hwithin (Or.inl h)
      have hbeyond : depth < (tokens name).length := by
        by_contra hle
        exact hwithin (Or.inr (by omega))
      refine Or.inr ⟨⟨_,(hcuts_iff _).mpr ⟨name,hselected,hzero,hbeyond,rfl⟩,
        hproper name hzero hbeyond⟩,?_⟩
      exact fun hname => hwithin ((hnames_iff name).mp hname).2

/-- Declare three integers. -/
def declareLevels : StoreCall Float :=
  .setAtomically [⟨text "a.b.c",.integer 1⟩,⟨text "a.b.d",.integer 2⟩,⟨text "a.e",.integer 3⟩]

/-- Two names share a beginning of two tokens, the third has no more. -/
theorem listing_exact_levels :
    Listed [] 2 (perform (.initial true []) declareLevels) ⟨[text "a.e"],[text "a.b"]⟩ := by
  have hrun : machine.Run (.initial true []) [declareLevels]
      (perform (.initial true []) declareLevels) := .snoc .nil trivial trivial
  exact listing_exact hrun (by rfl)

end Dmw.ParameterListing
