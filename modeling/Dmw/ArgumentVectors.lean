import Dmw.NameResolution
import Dmw.Parameters

/-!
# Parsing argument vectors

ROS arguments stand between `--ros-args` and `--`, everything else stays
unparsed. A vector that parses is a sequence of pieces, each of which is read
from its own tokens, and sequences of pieces can be put one after the other.
-/

namespace Dmw.ArgumentVectors

open GraphNames Identity
open NameResolution (RemapRule)
open Parameters (ParameterOverride)

/-- `Arguments`; a remapping that is not given is empty. -/
structure Arguments where
  /-- `remaps_`. -/
  remaps : List RemapRule
  /-- `parameter_overrides_`. -/
  parameterOverrides : List ParameterOverride
  /-- `unparsed_arguments_`. -/
  unparsedArguments : List ByteString
  /-- `node_name_remap_`. -/
  nodeNameRemap : ByteString
  /-- `namespace_remap_`. -/
  namespaceRemap : ByteString

/-- Arguments as they are constructed. -/
def Arguments.empty : Arguments := ⟨[],[],[],[],[]⟩

/-- The octet that ends an assignment operator. -/
def equals : UInt8 := 0x3D

/-- The parts of a value around its first `:=`. -/
def splitAssignment : ByteString → Option (ByteString × ByteString)
  | [] => none
  | octet :: rest =>
    if octet = NameResolution.colon ∧ rest.head? = some equals then some ([],rest.drop 1)
    else (splitAssignment rest).map fun parts => (octet :: parts.1,parts.2)

/-- `parse_assignment`. -/
def parseAssignment (value : ByteString) : Result (ByteString × ByteString) :=
  match splitAssignment value with
  | none => .error ⟨.invalidArgument,"ROS argument must use non-empty name:=value syntax"⟩
  | some (name,target) =>
    if name = [] ∨ target = [] then
      .error ⟨.invalidArgument,"ROS argument must use non-empty name:=value syntax"⟩
    else .ok (name,target)

/-- `--ros-args`. -/
def rosArguments : ByteString := text "--ros-args"

/-- `--`. -/
def terminator : ByteString := text "--"

/-- Options that set a parameter. -/
def isParameterOption (option : ByteString) : Bool :=
  decide (option = text "-p") || decide (option = text "--param")

/-- Options that take a value. -/
def isOption (option : ByteString) : Bool :=
  decide (option = text "-r") || decide (option = text "--remap") || isParameterOption option

/-- What an option and its assignment add to the arguments. -/
def Arguments.record (option name target : ByteString) (parsed : Arguments) : Arguments :=
  if isParameterOption option then
    {parsed with parameterOverrides := parsed.parameterOverrides ++ [⟨name,target⟩]}
  else if name = text "__node" then {parsed with nodeNameRemap := target}
  else if name = text "__ns" then {parsed with namespaceRemap := target}
  else {parsed with remaps := parsed.remaps ++ [⟨name,target⟩]}

/-- The loop of `parse_arguments`. -/
def parseFrom : List ByteString → Bool → Arguments → Result Arguments
  | [],inRosArguments,parsed =>
    if inRosArguments then .error ⟨.invalidArgument,"--ros-args must be terminated by --"⟩
    else .ok parsed
  | argument :: rest,inRosArguments,parsed =>
    if argument = rosArguments then
      if inRosArguments then .error ⟨.invalidArgument,"Nested --ros-args is not valid"⟩
      else parseFrom rest true parsed
    else if argument = terminator ∧ inRosArguments = true then parseFrom rest false parsed
    else if inRosArguments = false then
      parseFrom rest false
        {parsed with unparsedArguments := parsed.unparsedArguments ++ [argument]}
    else if isOption argument = false then
      .error ⟨.invalidArgument,"Unsupported ROS argument"⟩
    else
      match rest with
      | [] => .error ⟨.invalidArgument,"ROS argument option requires a value"⟩
      | value :: rest =>
        match parseAssignment value with
        | .error e => .error e
        | .ok (name,target) => parseFrom rest true (parsed.record argument name target)

/-- `parse_arguments`. -/
def parseArguments (arguments : List ByteString) : Result Arguments :=
  parseFrom arguments false .empty

/-! ## Pieces of a vector -/

/-- What tokens are read as. -/
inductive Piece
  /-- `--ros-args`. -/
  | opening
  /-- `--` after it. -/
  | closing
  /-- A token outside. -/
  | plain (token : ByteString)
  /-- An option with its value. -/
  | assignment (option value name target : ByteString)

/-- The tokens of a piece. -/
def Piece.tokens : Piece → List ByteString
  | .opening => [rosArguments]
  | .closing => [terminator]
  | .plain token => [token]
  | .assignment option value _ _ => [option,value]

/-- What a piece says by itself. -/
def Piece.arguments : Piece → Arguments
  | .plain token => {Arguments.empty with unparsedArguments := [token]}
  | .assignment option _ name target => Arguments.empty.record option name target
  | _ => .empty

/-- The pieces that a vector is read as, inside or outside of ROS arguments. -/
inductive Reads : Bool → List ByteString → List Piece → Prop
  | done : Reads false [] []
  | opening {rest : List ByteString} {pieces : List Piece} :
      Reads true rest pieces → Reads false (rosArguments :: rest) (.opening :: pieces)
  | closing {rest : List ByteString} {pieces : List Piece} :
      Reads false rest pieces → Reads true (terminator :: rest) (.closing :: pieces)
  | plain {token : ByteString} {rest : List ByteString} {pieces : List Piece} :
      token ≠ rosArguments → Reads false rest pieces →
        Reads false (token :: rest) (.plain token :: pieces)
  | assignment {option value name target : ByteString} {rest : List ByteString}
      {pieces : List Piece} :
      isOption option = true → parseAssignment value = .ok (name,target) →
        Reads true rest pieces →
          Reads true (option :: value :: rest) (.assignment option value name target :: pieces)

/-- Arguments after others: lists are appended, a later remapping wins. -/
def Arguments.followedBy (later earlier : Arguments) : Arguments where
  remaps := earlier.remaps ++ later.remaps
  parameterOverrides := earlier.parameterOverrides ++ later.parameterOverrides
  unparsedArguments := earlier.unparsedArguments ++ later.unparsedArguments
  nodeNameRemap := if later.nodeNameRemap = [] then earlier.nodeNameRemap
    else later.nodeNameRemap
  namespaceRemap := if later.namespaceRemap = [] then earlier.namespaceRemap
    else later.namespaceRemap

/-- What pieces say together. -/
def together : List Piece → Arguments
  | [] => .empty
  | piece :: rest => (together rest).followedBy piece.arguments

/-- Every token belongs to one piece, and the pieces say what was parsed. -/
def Accounted (tokens : List ByteString) (parsed : Arguments) : Prop :=
  ∃ pieces, Reads false tokens pieces ∧ pieces.flatMap Piece.tokens = tokens ∧
    parsed = together pieces

variable {tokens : List ByteString} {pieces : List Piece} {parsed : Arguments}

theorem followedBy_empty (parsed : Arguments) : Arguments.empty.followedBy parsed = parsed := by
  simp [Arguments.followedBy,Arguments.empty]

theorem empty_followedBy (parsed : Arguments) : parsed.followedBy .empty = parsed := by
  unfold Arguments.followedBy Arguments.empty
  cases parsed
  simp only [List.nil_append,Arguments.mk.injEq,true_and]
  constructor <;> split_ifs with h <;> simp [h]

theorem followedBy_assoc (first second third : Arguments) :
    third.followedBy (second.followedBy first) = (third.followedBy second).followedBy first := by
  unfold Arguments.followedBy
  simp only [List.append_assoc,Arguments.mk.injEq,true_and]
  constructor <;> split_ifs <;> simp_all

/-- An assignment has a name and a value. -/
theorem parseAssignment_ok {value name target : ByteString}
    (h : parseAssignment value = .ok (name,target)) : name ≠ [] ∧ target ≠ [] := by
  unfold parseAssignment at h
  cases hsplit : splitAssignment value with
  | none =>
    rw [hsplit] at h
    cases h
  | some parts =>
    rw [hsplit] at h
    by_cases hempty : parts.1 = [] ∨ parts.2 = []
    · simp only [if_pos hempty] at h
      cases h
    · simp only [if_neg hempty] at h
      cases h
      exact ⟨fun h => hempty (.inl h),fun h => hempty (.inr h)⟩

/-- Recording an assignment is saying it after what was said before. -/
theorem record_eq {option name target : ByteString} (htarget : target ≠ [])
    (parsed : Arguments) :
    parsed.record option name target =
      (Arguments.empty.record option name target).followedBy parsed := by
  unfold Arguments.record
  by_cases hparameter : isParameterOption option = true
  · rw [if_pos hparameter,if_pos hparameter]
    simp [Arguments.followedBy,Arguments.empty]
  rw [if_neg hparameter,if_neg hparameter]
  by_cases hnode : name = text "__node"
  · rw [if_pos hnode,if_pos hnode]
    simp [Arguments.followedBy,Arguments.empty,htarget]
  rw [if_neg hnode,if_neg hnode]
  by_cases hnamespace : name = text "__ns"
  · rw [if_pos hnamespace,if_pos hnamespace]
    simp [Arguments.followedBy,Arguments.empty,htarget]
  · rw [if_neg hnamespace,if_neg hnamespace]
    simp [Arguments.followedBy,Arguments.empty]

theorem together_append (pieces pieces' : List Piece) :
    together (pieces ++ pieces') = (together pieces').followedBy (together pieces) := by
  induction pieces with
  | nil => exact (empty_followedBy _).symm
  | cons piece rest ih =>
    change (together (rest ++ pieces')).followedBy piece.arguments = _
    rw [ih]
    exact (followedBy_assoc _ _ _).symm

theorem Reads.tokens_eq {inRosArguments : Bool} (h : Reads inRosArguments tokens pieces) :
    pieces.flatMap Piece.tokens = tokens := by
  induction h with
  | done => rfl
  | opening _ ih => exact congrArg (rosArguments :: ·) ih
  | closing _ ih => exact congrArg (terminator :: ·) ih
  | @plain token _ _ _ _ ih => exact congrArg (token :: ·) ih
  | @assignment option value _ _ _ _ _ _ _ ih => exact congrArg (fun rest => option :: value :: rest) ih

/-- Vectors that end outside can be put one after the other. -/
theorem Reads.append {inRosArguments : Bool} {tokens' : List ByteString} {pieces' : List Piece}
    (h : Reads inRosArguments tokens pieces) (h' : Reads false tokens' pieces') :
    Reads inRosArguments (tokens ++ tokens') (pieces ++ pieces') := by
  induction h with
  | done => exact h'
  | opening _ ih => exact .opening ih
  | closing _ ih => exact .closing ih
  | plain htoken _ ih => exact .plain htoken ih
  | assignment hoption hvalue _ ih => exact .assignment hoption hvalue ih

/-- What is read is parsed, and says what its pieces say. -/
theorem Reads.parses {inRosArguments : Bool} (h : Reads inRosArguments tokens pieces)
    (parsed : Arguments) :
    parseFrom tokens inRosArguments parsed = .ok ((together pieces).followedBy parsed) := by
  induction h generalizing parsed with
  | done => exact congrArg Except.ok (followedBy_empty parsed).symm
  | @opening rest pieces _ ih =>
    have hstep : parseFrom (rosArguments :: rest) false parsed = parseFrom rest true parsed := by
      rw [parseFrom.eq_def]
      exact if_pos rfl
    have hpiece : together (.opening :: pieces) = together pieces := empty_followedBy _
    rw [hstep,hpiece]
    exact ih parsed
  | @closing rest pieces _ ih =>
    have hstep : parseFrom (terminator :: rest) true parsed = parseFrom rest false parsed := by
      have hother : ¬ terminator = rosArguments := by decide
      rw [parseFrom.eq_def]
      exact (if_neg hother).trans (if_pos ⟨rfl,rfl⟩)
    have hpiece : together (.closing :: pieces) = together pieces := empty_followedBy _
    rw [hstep,hpiece]
    exact ih parsed
  | @plain token rest pieces htoken _ ih =>
    have hstep : parseFrom (token :: rest) false parsed = parseFrom rest false
        {parsed with unparsedArguments := parsed.unparsedArguments ++ [token]} := by
      have hinside : ¬ (token = terminator ∧ false = true) := fun h => Bool.noConfusion h.2
      rw [parseFrom.eq_def]
      exact (if_neg htoken).trans ((if_neg hinside).trans (if_pos rfl))
    have hrecord : {parsed with unparsedArguments := parsed.unparsedArguments ++ [token]} =
        (Piece.plain token).arguments.followedBy parsed := by
      simp [Piece.arguments,Arguments.followedBy,Arguments.empty]
    rw [hstep,ih,hrecord]
    exact congrArg Except.ok (followedBy_assoc _ _ _)
  | @assignment option value name target rest pieces hoption hvalue _ ih =>
    have hros : option ≠ rosArguments := by
      rintro rfl
      revert hoption
      decide
    have hterminator : ¬ (option = terminator ∧ true = true) := by
      rintro ⟨rfl,-⟩
      revert hoption
      decide
    have hstep : parseFrom (option :: value :: rest) true parsed =
        parseFrom rest true (parsed.record option name target) := by
      rw [parseFrom,if_neg hros,if_neg hterminator,if_neg Bool.noConfusion,
        if_neg (fun h => by rw [hoption] at h; cases h)]
      simp only [hvalue]
    rw [hstep,ih,record_eq (parseAssignment_ok hvalue).2]
    exact congrArg Except.ok (followedBy_assoc _ _ _)

/-- What is parsed is read as pieces. -/
theorem reads_of_parses {inRosArguments : Bool} {out : Arguments}
    (h : parseFrom tokens inRosArguments parsed = .ok out) :
    ∃ pieces, Reads inRosArguments tokens pieces := by
  induction tokens, inRosArguments, parsed using parseFrom.induct with
  | case1 => cases h
  | case2 inRosArguments parsed houtside =>
    cases inRosArguments with
    | true => exact absurd rfl houtside
    | false => exact ⟨[],.done⟩
  | case3 rest parsed =>
    rw [parseFrom.eq_def] at h
    exact absurd ((if_pos rfl).symm.trans h) nofun
  | case4 rest inRosArguments parsed houtside ih =>
    cases inRosArguments with
    | true => exact absurd rfl houtside
    | false =>
      rw [parseFrom.eq_def] at h
      obtain ⟨pieces,hpieces⟩ := ih ((if_pos rfl).symm.trans h)
      exact ⟨_,.opening hpieces⟩
  | case5 argument rest inRosArguments parsed hargument hclosing ih =>
    obtain ⟨rfl,rfl⟩ := hclosing
    rw [parseFrom.eq_def] at h
    obtain ⟨pieces,hpieces⟩ := ih ((if_pos ⟨rfl,rfl⟩).symm.trans ((if_neg hargument).symm.trans h))
    exact ⟨_,.closing hpieces⟩
  | case6 argument rest parsed hargument hopen ih =>
    rw [parseFrom.eq_def] at h
    simp only [if_neg hargument,if_neg hopen,if_true] at h
    obtain ⟨pieces,hpieces⟩ := ih h
    exact ⟨_,.plain hargument hpieces⟩
  | case7 argument rest inRosArguments parsed hargument hopen hinside hoption =>
    rw [parseFrom.eq_def] at h
    simp only [if_neg hargument,if_neg hopen,if_neg hinside,if_pos hoption] at h
    cases h
  | case8 argument inRosArguments parsed hargument hopen hinside hoption =>
    rw [parseFrom.eq_def] at h
    simp only [if_neg hargument,if_neg hopen,if_neg hinside,if_neg hoption] at h
    cases h
  | case9 argument inRosArguments parsed hargument hopen hinside hoption value rest e hvalue =>
    rw [parseFrom.eq_def] at h
    simp only [if_neg hargument,if_neg hopen,if_neg hinside,if_neg hoption,hvalue] at h
    cases h
  | case10 argument inRosArguments parsed hargument hopen hinside hoption value rest name target
      hvalue ih =>
    rw [parseFrom.eq_def] at h
    simp only [if_neg hargument,if_neg hopen,if_neg hinside,if_neg hoption,hvalue] at h
    obtain ⟨pieces,hpieces⟩ := ih h
    cases inRosArguments with
    | false => exact absurd rfl hinside
    | true => exact ⟨_,.assignment (Bool.not_eq_false _ ▸ hoption) hvalue hpieces⟩

/-- A vector parses exactly if it is read as pieces. -/
theorem parseArguments_ok :
    parseArguments tokens = .ok parsed ↔
      ∃ pieces, Reads false tokens pieces ∧ parsed = together pieces := by
  constructor
  · intro h
    obtain ⟨pieces,hpieces⟩ := reads_of_parses h
    have hparsed := hpieces.parses .empty
    rw [empty_followedBy] at hparsed
    exact ⟨pieces,hpieces,Except.ok.inj (h.symm.trans hparsed)⟩
  · rintro ⟨pieces,hpieces,rfl⟩
    have hparsed := hpieces.parses .empty
    rw [empty_followedBy] at hparsed
    exact hparsed

theorem accounted (h : parseArguments tokens = .ok parsed) : Accounted tokens parsed := by
  obtain ⟨pieces,hpieces,htogether⟩ := parseArguments_ok.mp h
  exact ⟨pieces,hpieces,hpieces.tokens_eq,htogether⟩

/-- A piece sets the remapping of this name. -/
def Piece.sets (remapping : ByteString) : Piece → Prop
  | .assignment option _ name _ => isParameterOption option = false ∧ name = remapping
  | _ => False

/-- A vector sets the remapping of this name. -/
def Sets (tokens : List ByteString) (remapping : ByteString) : Prop :=
  ∃ pieces, Reads false tokens pieces ∧ ∃ piece ∈ pieces, piece.sets remapping

theorem together_remaps_nil (pieces : List Piece) :
    ((together pieces).nodeNameRemap = [] ↔
        ∀ piece ∈ pieces, piece.arguments.nodeNameRemap = []) ∧
      ((together pieces).namespaceRemap = [] ↔
        ∀ piece ∈ pieces, piece.arguments.namespaceRemap = []) := by
  induction pieces with
  | nil => exact ⟨iff_of_true rfl nofun,iff_of_true rfl nofun⟩
  | cons piece rest ih =>
    have hchoice : ∀ later earlier : ByteString,
        (if later = [] then earlier else later) = [] ↔ earlier = [] ∧ later = [] := by
      intro later earlier
      split_ifs with hlater <;> simp [hlater]
    rw [List.forall_mem_cons,List.forall_mem_cons,← ih.1,← ih.2]
    exact ⟨hchoice _ _,hchoice _ _⟩

/-- The assignments of a reading have values. -/
theorem Reads.target_ne {inRosArguments : Bool} {option value name target : ByteString}
    (h : Reads inRosArguments tokens pieces) (hmem : .assignment option value name target ∈ pieces) :
    target ≠ [] := by
  induction h with
  | done => cases hmem
  | opening _ ih => exact ih ((List.mem_cons.mp hmem).resolve_left nofun)
  | closing _ ih => exact ih ((List.mem_cons.mp hmem).resolve_left nofun)
  | plain _ _ ih => exact ih ((List.mem_cons.mp hmem).resolve_left nofun)
  | assignment _ hvalue _ ih =>
    rcases List.mem_cons.mp hmem with heq | hrest
    · cases heq
      exact (parseAssignment_ok hvalue).2
    · exact ih hrest

/-- A piece says a remapping exactly if it sets it. -/
theorem Reads.arguments_remaps {inRosArguments : Bool} {piece : Piece}
    (h : Reads inRosArguments tokens pieces) (hmem : piece ∈ pieces) :
    (piece.arguments.nodeNameRemap = [] ↔ ¬ piece.sets (text "__node")) ∧
      (piece.arguments.namespaceRemap = [] ↔ ¬ piece.sets (text "__ns")) := by
  cases piece with
  | opening => exact ⟨iff_of_true rfl id,iff_of_true rfl id⟩
  | closing => exact ⟨iff_of_true rfl id,iff_of_true rfl id⟩
  | plain token => exact ⟨iff_of_true rfl id,iff_of_true rfl id⟩
  | assignment option value name target =>
    have htarget : target ≠ [] := h.target_ne hmem
    have hdistinct : text "__node" ≠ text "__ns" := by decide
    unfold Piece.arguments Piece.sets Arguments.record
    by_cases hparameter : isParameterOption option = true
    · simp [hparameter,Arguments.empty]
    · by_cases hnode : name = text "__node"
      · simp [hparameter,hnode,htarget,hdistinct,Arguments.empty]
      · by_cases hnamespace : name = text "__ns"
        · simp [hparameter,hnamespace,htarget,Ne.symm hdistinct,Arguments.empty]
        · simp [hparameter,hnode,hnamespace,Arguments.empty]

/-- A remapping is empty exactly if no piece sets it. -/
theorem sets_iff (h : parseArguments tokens = .ok parsed) :
    (Sets tokens (text "__node") ↔ parsed.nodeNameRemap ≠ []) ∧
      (Sets tokens (text "__ns") ↔ parsed.namespaceRemap ≠ []) := by
  have hread : ∀ pieces, Reads false tokens pieces → parsed = together pieces := by
    intro pieces hpieces
    have hparsed : parseArguments tokens = .ok (together pieces) :=
      parseArguments_ok.mpr ⟨pieces,hpieces,rfl⟩
    exact Except.ok.inj (h.symm.trans hparsed)
  obtain ⟨pieces,hpieces,-⟩ := parseArguments_ok.mp h
  constructor
  · constructor
    · rintro ⟨found,hfound,piece,hmem,hsets⟩ hempty
      rw [hread found hfound] at hempty
      exact (hfound.arguments_remaps hmem).1.mp ((together_remaps_nil found).1.mp hempty piece hmem)
        hsets
    · intro hne
      by_contra hnone
      refine hne ?_
      rw [hread pieces hpieces]
      refine (together_remaps_nil pieces).1.mpr fun piece hmem => ?_
      exact (hpieces.arguments_remaps hmem).1.mpr fun hsets =>
        hnone ⟨pieces,hpieces,piece,hmem,hsets⟩
  · constructor
    · rintro ⟨found,hfound,piece,hmem,hsets⟩ hempty
      rw [hread found hfound] at hempty
      exact (hfound.arguments_remaps hmem).2.mp ((together_remaps_nil found).2.mp hempty piece hmem)
        hsets
    · intro hne
      by_contra hnone
      refine hne ?_
      rw [hread pieces hpieces]
      refine (together_remaps_nil pieces).2.mpr fun piece hmem => ?_
      exact (hpieces.arguments_remaps hmem).2.mpr fun hsets =>
        hnone ⟨pieces,hpieces,piece,hmem,hsets⟩

/-- What two vectors say after each other. -/
structure Composed (second : List ByteString) (parsed parsed' out : Arguments) : Prop where
  unparsedArguments :
    out.unparsedArguments = parsed.unparsedArguments ++ parsed'.unparsedArguments
  remaps : out.remaps = parsed.remaps ++ parsed'.remaps
  parameterOverrides :
    out.parameterOverrides = parsed.parameterOverrides ++ parsed'.parameterOverrides
  /-- The second one sets the node name. -/
  nodeSet : Sets second (text "__node") → out.nodeNameRemap = parsed'.nodeNameRemap
  nodeKept : ¬ Sets second (text "__node") → out.nodeNameRemap = parsed.nodeNameRemap
  /-- The second one sets the namespace. -/
  namespaceSet : Sets second (text "__ns") → out.namespaceRemap = parsed'.namespaceRemap
  namespaceKept : ¬ Sets second (text "__ns") → out.namespaceRemap = parsed.namespaceRemap

/-- Parsing one vector after another one parses both, and what the second one
says comes after what the first one says; every token is accounted for. -/
theorem parse_composes {first second : List ByteString} {parsed parsed' : Arguments}
    (hfirst : parseArguments first = .ok parsed) (hsecond : parseArguments second = .ok parsed') :
    (∃ out, parseArguments (first ++ second) = .ok out ∧ Composed second parsed parsed' out) ∧
      Accounted first parsed ∧ Accounted second parsed' := by
  obtain ⟨pieces,hpieces,rfl⟩ := parseArguments_ok.mp hfirst
  obtain ⟨pieces',hpieces',rfl⟩ := parseArguments_ok.mp hsecond
  obtain ⟨hnode,hnamespace⟩ := sets_iff hsecond
  refine ⟨⟨(together pieces').followedBy (together pieces),?_,?_⟩,
    accounted hfirst,accounted hsecond⟩
  · rw [← together_append]
    exact parseArguments_ok.mpr ⟨pieces ++ pieces',hpieces.append hpieces',rfl⟩
  · exact ⟨rfl,rfl,rfl,fun h => if_neg (hnode.mp h),
      fun h => if_pos (not_not.mp fun hne => h (hnode.mpr hne)),
      fun h => if_neg (hnamespace.mp h),
      fun h => if_pos (not_not.mp fun hne => h (hnamespace.mpr hne))⟩

/-- `app --ros-args -p rate:=5 -- tail`. -/
def withParameter : List ByteString :=
  [text "app",rosArguments,text "-p",text "rate:=5",terminator,text "tail"]

/-- `--ros-args -r __node:=other --`. -/
def withNodeName : List ByteString := [rosArguments,text "-r",text "__node:=other",terminator]

theorem parse_composes_named :
    ∃ parsed parsed', parseArguments withParameter = .ok parsed ∧
      parseArguments withNodeName = .ok parsed' ∧
        ((∃ out, parseArguments (withParameter ++ withNodeName) = .ok out ∧
          Composed withNodeName parsed parsed' out) ∧
            Accounted withParameter parsed ∧ Accounted withNodeName parsed') := by
  have hfirst : Reads false withParameter [.plain (text "app"),.opening,
      .assignment (text "-p") (text "rate:=5") (text "rate") (text "5"),.closing,
      .plain (text "tail")] := by
    refine .plain (by decide) (.opening (.assignment (by decide) ?_ (.closing
      (.plain (by decide) .done))))
    rfl
  have hsecond : Reads false withNodeName [.opening,
      .assignment (text "-r") (text "__node:=other") (text "__node") (text "other"),.closing] := by
    refine .opening (.assignment (by decide) ?_ (.closing .done))
    rfl
  have hparsed := parseArguments_ok.mpr ⟨_,hfirst,rfl⟩
  have hparsed' := parseArguments_ok.mpr ⟨_,hsecond,rfl⟩
  exact ⟨_,_,hparsed,hparsed',parse_composes hparsed hparsed'⟩

end Dmw.ArgumentVectors
