import Mathlib.Data.String.Basic
import Dmw.DependencyOrders
import Dmw.KeyedTable
import Dmw.SortedSets

/-!
# Interface packages in the order of their dependencies

The generator of interface bindings reads the packages it is asked for and,
first, the packages whose types their messages use. A package is found in the
first prefix that has it, and its parsed files tell its messages, services and
actions. The visits of the generator are those of a depth-first search. Every
file is taken to parse, and what is written out for a package is left aside.
-/

namespace Dmw.InterfacePackages

open Relation DependencyOrders KeyedTable SortedSets

/-- `NamespacedType`, its first namespace apart. -/
structure NamespacedType where
  /-- `namespaces[0]`, the package. -/
  package : String
  /-- The other namespaces. -/
  groups : List String
  /-- The name in them. -/
  name : String

/-- `key`. -/
def key (namespaced : NamespacedType) : String :=
  String.intercalate "::" (namespaced.package :: namespaced.groups ++ [namespaced.name])

/-- The type of a member. -/
inductive MemberType
  /-- A basic or string type. -/
  | basic
  /-- A type of some package. -/
  | named (namespaced : NamespacedType)
  /-- `AbstractNestedType`: an array or a sequence. -/
  | nested (valueType : MemberType)

/-- The element of a type under all its arrays and sequences. -/
def MemberType.element : MemberType → MemberType
  | .nested valueType => valueType.element
  | element => element

/-- A parsed message. -/
structure Message where
  /-- Its type. -/
  namespacedType : NamespacedType
  /-- The types of its members. -/
  members : List MemberType

/-- A parsed service. -/
structure Service where
  /-- Its type. -/
  namespacedType : NamespacedType
  /-- `request_message`. -/
  request : Message
  /-- `response_message`. -/
  response : Message

/-- A parsed action. -/
structure Action where
  /-- Its type. -/
  namespacedType : NamespacedType
  /-- `goal`, `result`, `feedback` and `feedback_message`. -/
  messages : List Message
  /-- `send_goal_service`. -/
  sendGoal : Service
  /-- `get_result_service`. -/
  getResult : Service

/-- What stands at the top of a parsed file. -/
inductive Element
  /-- A message. -/
  | message (value : Message)
  /-- A service. -/
  | service (value : Service)
  /-- An action. -/
  | action (value : Action)
  /-- An include. -/
  | includes
  /-- Anything else, under the name of its class. -/
  | other (typeName : String)

/-- An installed file. -/
structure IdlFile where
  /-- The directory it is in, relative to its package. -/
  group : String
  /-- Its path. -/
  path : String
  /-- What `parse_idl_file` finds in it. -/
  elements : List Element

/-- The directory of a package. -/
structure Directory where
  /-- Its path. -/
  path : String
  /-- The sorted files that match `*/*.idl`. -/
  files : List IdlFile

/-- `Package`, without what only the emitted text needs. -/
structure Package where
  /-- The name of its directory. -/
  name : String
  /-- The messages, under their keys. -/
  messages : Table String Message
  /-- The services, under their keys. -/
  services : Table String Service
  /-- The actions. -/
  actions : List Action
  /-- The other packages it needs. -/
  dependencies : SortedSet String

/-- One member of `Package.message`. -/
def addMember (package : Package) (type : MemberType) : Package :=
  match type.element with
  | .named namespaced =>
    if namespaced.package ≠ package.name then
      { package with dependencies := package.dependencies.insert namespaced.package }
    else package
  | _ => package

/-- `Package.message`. -/
def addMessage (package : Package) (value : Message) : Package :=
  value.members.foldl addMember
    { package with messages := package.messages.insert (key value.namespacedType) value }

/-- `Package.service`. -/
def addService (package : Package) (value : Service) : Package :=
  addMessage (addMessage
    { package with services := package.services.insert (key value.namespacedType) value }
    value.request) value.response

/-- One action of a file. -/
def addAction (package : Package) (value : Action) : Package :=
  let package := { package with actions := package.actions ++ [value] }
  let package := value.messages.foldl addMessage package
  let package := addService (addService package value.sendGoal) value.getResult
  { package with dependencies := package.dependencies.insert "action_msgs" }

/-- One element of a file. -/
def addElement (path : String) (package : Package) : Element → Except String Package
  | .message value => .ok (addMessage package value)
  | .service value => .ok (addService package value)
  | .action value => .ok (addAction package value)
  | .includes => .ok package
  | .other typeName =>
    .error ("Unsupported top-level ROSIDL element " ++ typeName ++ " in " ++ path)

/-- One file of a package. -/
def addFile (package : Package) (file : IdlFile) : Except String Package :=
  if file.group ∈ ["msg","srv","action"] then file.elements.foldlM (addElement file.path) package
  else .ok package

/-- `read_package`. -/
def readPackage (name : String) (directory : Directory) : Except String Package :=
  if directory.files.isEmpty then .error ("No installed ROSIDL files in " ++ directory.path)
  else directory.files.foldlM addFile ⟨name,∅,∅,[],∅⟩

/-- The packages below the `share` directories of the prefixes, by the names of theirs. -/
abbrev Prefixes := List (Table String Directory)

/-- The search of a package through the prefixes, and its reading. -/
def load (prefixes : Prefixes) (name : String) : Except String Package :=
  match prefixes.findSome? (AList.lookup name) with
  | none => .error ("No installed ROSIDL package " ++ name ++ " in the supplied prefixes")
  | some directory => readPackage name directory

/-- Why the generator raises. -/
inductive Failure
  /-- A `ValueError`. -/
  | value (text : String)
  /-- Too many visits are open. -/
  | recursion

/-- The variables that `visit` shares. -/
structure Generation where
  /-- `loaded`. -/
  loaded : Table String Package
  /-- `visiting`. -/
  visiting : List String
  /-- `order`. -/
  order : List Package

/-- `visit`. -/
def visit (prefixes : Prefixes) : ℕ → Generation → String → Except Failure Generation
  | 0, _, _ => .error .recursion
  | depth + 1, s, name =>
    if name ∈ s.visiting then
      .error (.value ("Cyclic ROSIDL package dependency involving " ++ name))
    else if name ∈ s.loaded then .ok s
    else
      match load prefixes name with
      | .error text => .error (.value text)
      | .ok package =>
        match package.dependencies.elements.foldlM (visit prefixes depth)
          { s with visiting := name :: s.visiting } with
        | .error failure => .error failure
        | .ok s' =>
          .ok ⟨s'.loaded.insert name package,s'.visiting.erase name,s'.order ++ [package]⟩

/-- `generate`, until it has the order in which it emits the packages. -/
def generate (prefixes : Prefixes) (packages : List String) : Except Failure (List Package) :=
  (packages.foldlM (visit prefixes ((prefixes.flatMap AList.keys).length + 1)) ⟨∅,[],[]⟩).map
    Generation.order

/-! ## What a package needs -/

/-- The package of the element of a type is the package itself or one it depends on. -/
def Covers (package : Package) (type : MemberType) : Prop :=
  ∀ namespaced, type.element = .named namespaced →
    namespaced.package = package.name ∨ namespaced.package ∈ package.dependencies

/-- The packages that a package needs are among its dependencies. -/
structure Covered (package : Package) : Prop where
  /-- Those of the types of its messages. -/
  types : ∀ typeKey message, package.messages.lookup typeKey = some message →
    ∀ type ∈ message.members, Covers package type
  /-- That of the messages every action uses. -/
  actions : package.actions ≠ [] → "action_msgs" ∈ package.dependencies

/-- A package may come to depend on more packages, and does not otherwise change what is
covered. -/
structure Grows (package package' : Package) : Prop where
  /-- The name stays. -/
  name : package'.name = package.name
  /-- The actions stay. -/
  actions : package'.actions = package.actions
  /-- The dependencies stay. -/
  dependencies : ∀ name ∈ package.dependencies, name ∈ package'.dependencies

/-- A covered type stays covered. -/
theorem Covers.grows {package package' : Package} {type : MemberType} (h : Covers package type)
    (hgrows : Grows package package') : Covers package' type := by
  intro namespaced helement
  rw [hgrows.name]
  exact (h namespaced helement).imp_right (hgrows.dependencies _)

/-- Nothing changes. -/
theorem Grows.refl (package : Package) : Grows package package := ⟨rfl,rfl,fun _ h => h⟩

/-- One change after another. -/
theorem Grows.trans {p q r : Package} (h : Grows p q) (h' : Grows q r) : Grows p r :=
  ⟨h'.name.trans h.name,h'.actions.trans h.actions,
    fun name hname => h'.dependencies name (h.dependencies name hname)⟩

/-- A member is covered, and the messages stay. -/
theorem addMember_covers (package : Package) (type : MemberType) :
    Grows package (addMember package type) ∧ Covers (addMember package type) type ∧
      (addMember package type).messages = package.messages := by
  unfold addMember
  cases helement : type.element with
  | basic => exact ⟨.refl _,by simp [Covers,helement],rfl⟩
  | nested valueType => exact ⟨.refl _,by simp [Covers,helement],rfl⟩
  | named namespaced =>
    dsimp only
    by_cases hother : namespaced.package ≠ package.name
    · rw [if_pos hother]
      refine ⟨⟨rfl,rfl,fun name hname => mem_insert.mpr (.inr hname)⟩,?_,rfl⟩
      intro namespaced' helement'
      rw [helement] at helement'
      cases helement'
      exact .inr (mem_insert.mpr (.inl rfl))
    · rw [if_neg hother]
      refine ⟨.refl _,?_,rfl⟩
      intro namespaced' helement'
      rw [helement] at helement'
      cases helement'
      exact .inl (not_not.mp hother)

/-- All members are covered, and the messages stay. -/
theorem foldl_addMember_covers (members : List MemberType) (package : Package) :
    Grows package (members.foldl addMember package) ∧
      (∀ type ∈ members, Covers (members.foldl addMember package) type) ∧
      (members.foldl addMember package).messages = package.messages := by
  induction members generalizing package with
  | nil => exact ⟨.refl _,by simp,rfl⟩
  | cons type rest ih =>
    obtain ⟨hgrows, hcovers, hmessages⟩ := addMember_covers package type
    obtain ⟨hgrows', hcovers', hmessages'⟩ := ih (addMember package type)
    refine ⟨hgrows.trans hgrows',?_,hmessages'.trans hmessages⟩
    intro type' htype'
    rcases List.mem_cons.mp htype' with hsame | hrest
    · rw [hsame]
      exact hcovers.grows hgrows'
    · exact hcovers' type' hrest

/-- Only the types of the messages, as long as an action is being added. -/
def TypesCovered (package : Package) : Prop :=
  ∀ typeKey message, package.messages.lookup typeKey = some message →
    ∀ type ∈ message.members, Covers package type

/-- A package gets a message. -/
theorem addMessage_covered {package : Package} (h : TypesCovered package) (value : Message) :
    Grows package (addMessage package value) ∧ TypesCovered (addMessage package value) := by
  have hfold := foldl_addMember_covers value.members
    { package with messages := package.messages.insert (key value.namespacedType) value }
  have hstored : Grows package
      { package with messages := package.messages.insert (key value.namespacedType) value } :=
    ⟨rfl,rfl,fun _ hname => hname⟩
  have hgrows : Grows package (addMessage package value) := hstored.trans hfold.1
  refine ⟨hgrows,?_⟩
  intro typeKey message hlookup type htype
  unfold addMessage at hlookup
  rw [hfold.2.2] at hlookup
  by_cases hkey : typeKey = key value.namespacedType
  · rw [hkey,AList.lookup_insert] at hlookup
    cases hlookup
    exact hfold.2.1 type htype
  · rw [AList.lookup_insert_ne hkey] at hlookup
    exact (h typeKey message hlookup type htype).grows hgrows

/-- A package gets several messages. -/
theorem foldl_addMessage_covered {package : Package} (h : TypesCovered package)
    (values : List Message) :
    Grows package (values.foldl addMessage package) ∧
      TypesCovered (values.foldl addMessage package) := by
  induction values generalizing package with
  | nil => exact ⟨.refl _,h⟩
  | cons value rest ih =>
    obtain ⟨hgrows, hcovered⟩ := addMessage_covered h value
    obtain ⟨hgrows', hcovered'⟩ := ih hcovered
    exact ⟨hgrows.trans hgrows',hcovered'⟩

/-- A package gets a service. -/
theorem addService_covered {package : Package} (h : TypesCovered package) (value : Service) :
    Grows package (addService package value) ∧ TypesCovered (addService package value) := by
  have hmessages : addService package value = [value.request,value.response].foldl addMessage
      { package with services := package.services.insert (key value.namespacedType) value } := rfl
  rw [hmessages]
  have htypes : TypesCovered
      { package with services := package.services.insert (key value.namespacedType) value } :=
    fun typeKey message hlookup => h typeKey message hlookup
  have hfold := foldl_addMessage_covered htypes [value.request,value.response]
  have hstored : Grows package
      { package with services := package.services.insert (key value.namespacedType) value } :=
    ⟨rfl,rfl,fun _ hname => hname⟩
  exact ⟨hstored.trans hfold.1,hfold.2⟩

/-- A package gets an action. -/
theorem addAction_covered {package : Package} (h : Covered package) (value : Action) :
    (addAction package value).name = package.name ∧ Covered (addAction package value) := by
  have htypes : TypesCovered { package with actions := package.actions ++ [value] } :=
    fun typeKey message hlookup => h.types typeKey message hlookup
  have hmessages := foldl_addMessage_covered htypes value.messages
  have hsend := addService_covered hmessages.2 value.sendGoal
  have hget := addService_covered hsend.2 value.getResult
  have hgrows := (hmessages.1.trans hsend.1).trans hget.1
  refine ⟨hgrows.name,?_,fun _ => mem_insert.mpr (.inl rfl)⟩
  intro typeKey message hlookup type htype
  exact (hget.2 typeKey message hlookup type htype).grows
    ⟨rfl,rfl,fun name hname => mem_insert.mpr (.inr hname)⟩

/-- A package gets an element of a file. -/
theorem addElement_covered {path : String} {package package' : Package} {element : Element}
    (h : Covered package) (hadd : addElement path package element = .ok package') :
    package'.name = package.name ∧ Covered package' := by
  have hgrown : ∀ {q : Package}, Grows package q → TypesCovered q → Covered q := by
    intro q hgrows htypes
    refine ⟨htypes,fun hactions => hgrows.dependencies _ (h.actions ?_)⟩
    rw [← hgrows.actions]
    exact hactions
  cases element with
  | message value =>
    cases hadd
    obtain ⟨hgrows, htypes⟩ := addMessage_covered h.types value
    exact ⟨hgrows.name,hgrown hgrows htypes⟩
  | service value =>
    cases hadd
    obtain ⟨hgrows, htypes⟩ := addService_covered h.types value
    exact ⟨hgrows.name,hgrown hgrows htypes⟩
  | action value =>
    cases hadd
    exact addAction_covered h value
  | includes =>
    cases hadd
    exact ⟨rfl,h⟩
  | other typeName => cases hadd

/-- A fold keeps what its steps keep. -/
theorem foldlM_covered {β : Type} {f : Package → β → Except String Package}
    (hstep : ∀ p b p', Covered p → f p b = .ok p' → p'.name = p.name ∧ Covered p')
    (l : List β) {package package' : Package} (h : Covered package)
    (hfold : l.foldlM f package = .ok package') :
    package'.name = package.name ∧ Covered package' := by
  induction l generalizing package with
  | nil =>
    cases hfold
    exact ⟨rfl,h⟩
  | cons b rest ih =>
    rw [List.foldlM_cons] at hfold
    cases hfirst : f package b with
    | error text =>
      rw [hfirst] at hfold
      cases hfold
    | ok q =>
      rw [hfirst] at hfold
      obtain ⟨hname, hq⟩ := hstep package b q h hfirst
      obtain ⟨hname', hpackage'⟩ := ih hq hfold
      exact ⟨hname'.trans hname,hpackage'⟩

/-- A package that was loaded has the name it was asked under and depends on what it needs. -/
theorem load_covered {prefixes : Prefixes} {name : String} {package : Package}
    (hload : load prefixes name = .ok package) : package.name = name ∧ Covered package := by
  unfold load at hload
  cases hfind : prefixes.findSome? (AList.lookup name) with
  | none => simp [hfind] at hload
  | some directory =>
    simp only [hfind] at hload
    unfold readPackage at hload
    split at hload
    · cases hload
    · have hfile : ∀ (p : Package) (file : IdlFile) (p' : Package), Covered p →
          addFile p file = .ok p' → p'.name = p.name ∧ Covered p' := by
        intro p file p' hp hadd
        unfold addFile at hadd
        split at hadd
        · exact foldlM_covered (fun _ _ _ hq => addElement_covered hq) _ hp hadd
        · cases hadd
          exact ⟨rfl,hp⟩
      have hempty : Covered ⟨name,∅,∅,[],∅⟩ := by
        refine ⟨?_,fun hactions => absurd rfl hactions⟩
        intro typeKey message hlookup
        rw [AList.lookup_empty] at hlookup
        cases hlookup
      exact foldlM_covered hfile _ hempty hload

/-! ## The order of the packages -/

/-- What a package depends on, if it can be loaded. -/
def reads (prefixes : Prefixes) (name : String) : Except String (List String) :=
  (load prefixes name).map fun package => package.dependencies.elements

/-- A package uses another one. -/
def DependsOn (prefixes : Prefixes) (name other : String) : Prop :=
  ∃ package, load prefixes name = .ok package ∧ other ∈ package.dependencies

/-- That is the edge relation of the search. -/
theorem edge_reads (prefixes : Prefixes) : Edge (reads prefixes) = DependsOn prefixes := by
  funext name other
  unfold Edge DependsOn reads
  cases load prefixes name with
  | error text => simp [Except.map]
  | ok package =>
    simp only [Except.map,Except.ok.injEq,exists_eq_left']
    exact rfl

/-- What the generator raises when its search stops. -/
def reason : Stop String String → Failure
  | .cyclic name => .value ("Cyclic ROSIDL package dependency involving " ++ name)
  | .unreadable _ text => .value text
  | .exhausted => .recursion

/-- The search behind the variables of `visit`. -/
def Generation.search (s : Generation) : Search String := ⟨s.visiting,s.order.map Package.name⟩

/-- The loaded packages are the ordered ones. -/
structure Consistent (prefixes : Prefixes) (s : Generation) : Prop where
  /-- A package is loaded when it is ordered. -/
  loaded : ∀ name, name ∈ s.loaded ↔ name ∈ s.order.map Package.name
  /-- It is what its files tell. -/
  order : ∀ package ∈ s.order, load prefixes package.name = .ok package

/-- What `visit` comes to is what the search comes to. -/
inductive Simulates (prefixes : Prefixes) :
    Except Failure Generation → Except (Stop String String) (Search String) → Prop
  /-- Both stop. -/
  | error (stop : Stop String String) : Simulates prefixes (.error (reason stop)) (.error stop)
  /-- Both go on. -/
  | ok {s : Generation} (h : Consistent prefixes s) : Simulates prefixes (.ok s) (.ok s.search)

/-- Visits in turn, if each is simulated. -/
theorem foldlM_simulates {prefixes : Prefixes} {depth : ℕ}
    (hone : ∀ s name, Consistent prefixes s → Simulates prefixes (visit prefixes depth s name)
      (DependencyOrders.visit (reads prefixes) depth s.search name))
    (packages : List String) {s : Generation} (h : Consistent prefixes s) :
    Simulates prefixes (packages.foldlM (visit prefixes depth) s)
      (packages.foldlM (DependencyOrders.visit (reads prefixes) depth) s.search) := by
  induction packages generalizing s with
  | nil => exact .ok h
  | cons name rest ih =>
    have hfirst := hone s name h
    rw [List.foldlM_cons,List.foldlM_cons]
    generalize visit prefixes depth s name = x at hfirst ⊢
    generalize DependencyOrders.visit (reads prefixes) depth s.search name = y at hfirst ⊢
    cases hfirst with
    | error stop => exact .error stop
    | ok hconsistent => exact ih hconsistent

/-- `visit` is a depth-first search. -/
theorem visit_simulates {prefixes : Prefixes} (depth : ℕ) (s : Generation) (name : String)
    (h : Consistent prefixes s) : Simulates prefixes (visit prefixes depth s name)
      (DependencyOrders.visit (reads prefixes) depth s.search name) := by
  induction depth generalizing s name with
  | zero => exact .error .exhausted
  | succ depth ih =>
    unfold visit DependencyOrders.visit
    by_cases hopen : name ∈ s.visiting
    · rw [if_pos hopen,if_pos (show name ∈ s.search.visiting from hopen)]
      exact .error (.cyclic name)
    · rw [if_neg hopen,if_neg (show name ∉ s.search.visiting from hopen)]
      by_cases hloaded : name ∈ s.loaded
      · rw [if_pos hloaded,
          if_pos (show name ∈ s.search.order from (h.loaded name).mp hloaded)]
        exact .ok h
      · rw [if_neg hloaded,
          if_neg (show name ∉ s.search.order from fun hname => hloaded ((h.loaded name).mpr hname))]
        have hreads : reads prefixes name =
            (load prefixes name).map fun package => package.dependencies.elements := rfl
        cases hload : load prefixes name with
        | error text =>
          rw [hload] at hreads
          rw [hreads]
          exact .error (.unreadable name text)
        | ok package =>
          have hopened : Consistent prefixes { s with visiting := name :: s.visiting } :=
            ⟨h.loaded,h.order⟩
          have hfold := foldlM_simulates ih package.dependencies.elements hopened
          have hsearch : Generation.search { s with visiting := name :: s.visiting } =
              { s.search with visiting := name :: s.search.visiting } := rfl
          rw [hsearch] at hfold
          rw [hload] at hreads
          rw [hreads]
          dsimp only [Except.map]
          generalize package.dependencies.elements.foldlM (visit prefixes depth)
            { s with visiting := name :: s.visiting } = x at hfold ⊢
          generalize package.dependencies.elements.foldlM
            (DependencyOrders.visit (reads prefixes) depth)
            { s.search with visiting := name :: s.search.visiting } = y at hfold ⊢
          cases hfold with
          | error stop => exact .error stop
          | @ok s' hconsistent =>
            have hname : package.name = name := (load_covered hload).1
            have hnext : Generation.search ⟨s'.loaded.insert name package,s'.visiting.erase name,
                s'.order ++ [package]⟩ = ⟨s'.visiting.erase name,s'.search.order ++ [name]⟩ := by
              simp [Generation.search,hname]
            show Simulates prefixes (.ok _) (.ok ⟨s'.visiting.erase name,s'.search.order ++ [name]⟩)
            rw [← hnext]
            refine .ok ⟨?_,?_⟩
            · intro other
              have hbefore := hconsistent.loaded other
              simp only [AList.mem_insert,List.map_append,List.map_cons,List.map_nil,
                List.mem_append,List.mem_singleton,hname]
              grind
            · intro other hother
              rcases List.mem_append.mp hother with hother | hother
              · exact hconsistent.order other hother
              · rw [List.mem_singleton.mp hother,hname]
                exact hload

/-- What the generator emits: the packages it was asked for and the ones they use, each
behind what it uses. -/
structure Emitted (prefixes : Prefixes) (packages : List String) (order : List Package) :
    Prop where
  /-- No package is emitted twice. -/
  nodup : (order.map Package.name).Nodup
  /-- Exactly the packages are emitted that a requested one uses. -/
  exact : ∀ name, name ∈ order.map Package.name ↔
    ∃ requested ∈ packages, ReflTransGen (DependsOn prefixes) requested name
  /-- A package is what its files tell. -/
  loaded : ∀ package ∈ order, load prefixes package.name = .ok package
  /-- The types that a package uses are its own or those of packages before it. -/
  types : ∀ front package back, order = front ++ package :: back →
    ∀ typeKey message, package.messages.lookup typeKey = some message →
    ∀ type ∈ message.members, ∀ namespaced, type.element = .named namespaced →
      namespaced.package = package.name ∨ namespaced.package ∈ front.map Package.name
  /-- The messages that actions use are emitted before. -/
  actions : ∀ front package back, order = front ++ package :: back →
    package.actions ≠ [] → "action_msgs" ∈ front.map Package.name

/-- Why the generator may raise. -/
def Blamed (prefixes : Prefixes) (packages : List String) (failure : Failure) : Prop :=
  ∃ requested ∈ packages, ∃ name, ReflTransGen (DependsOn prefixes) requested name ∧
    (failure = .value ("Cyclic ROSIDL package dependency involving " ++ name) ∧
        TransGen (DependsOn prefixes) name name ∨
      ∃ text, failure = .value text ∧ load prefixes name = .error text)

variable (prefixes : Prefixes) (packages : List String)

/-- The search of the generator. -/
theorem generate_simulates : match generate prefixes packages,
      DependencyOrders.search (reads prefixes) ((prefixes.flatMap AList.keys).length + 1) packages with
    | .ok order, .ok names => order.map Package.name = names ∧
        ∀ package ∈ order, load prefixes package.name = .ok package
    | .error failure, .error stop => failure = reason stop
    | _, _ => False := by
  have hstart : Consistent prefixes ⟨∅,[],[]⟩ := by
    refine ⟨fun name => ?_,by simp⟩
    simp
  have hfold := foldlM_simulates
    (visit_simulates ((prefixes.flatMap AList.keys).length + 1)) packages hstart
  have hempty : Generation.search ⟨∅,[],[]⟩ = ⟨[],[]⟩ := rfl
  rw [hempty] at hfold
  unfold generate DependencyOrders.search
  generalize packages.foldlM (visit prefixes _) ⟨∅,[],[]⟩ = x at hfold ⊢
  generalize packages.foldlM (DependencyOrders.visit (reads prefixes) _) ⟨[],[]⟩ = y at hfold ⊢
  cases hfold with
  | error stop => exact rfl
  | ok hconsistent => exact ⟨rfl,hconsistent.order⟩

/-- A package that can be read is installed in some prefix. -/
theorem reads_installed (name : String) (next : List String)
    (hreads : reads prefixes name = .ok next) : name ∈ prefixes.flatMap AList.keys := by
  unfold reads load at hreads
  cases hfind : prefixes.findSome? (AList.lookup name) with
  | none =>
    rw [hfind] at hreads
    cases hreads
  | some directory =>
    obtain ⟨installed, hinstalled, hlookup⟩ := List.exists_of_findSome?_eq_some hfind
    refine List.mem_flatMap.mpr ⟨installed,hinstalled,AList.mem_keys.mp ?_⟩
    exact AList.lookup_isSome.mp (by rw [hlookup]; exact rfl)

/-- A package can be read if it can be loaded. -/
theorem reads_ok_iff (name : String) : (∃ next, reads prefixes name = .ok next) ↔
    ∃ package, load prefixes name = .ok package := by
  unfold reads
  cases load prefixes name with
  | error text => simp [Except.map]
  | ok package => simp [Except.map]

/-- What cannot be read cannot be loaded. -/
theorem load_of_reads_error {name text : String} (hfails : reads prefixes name = .error text) :
    load prefixes name = .error text := by
  unfold reads at hfails
  cases hload : load prefixes name with
  | error text' =>
    rw [hload] at hfails
    cases hfails
    exact rfl
  | ok package =>
    rw [hload] at hfails
    cases hfails

/-- The generator raises when its search stops, for what the search found. -/
theorem blamed_of_error {failure : Failure} (hgenerate : generate prefixes packages = .error failure) :
    Blamed prefixes packages failure := by
  have houtcome := search_outcome (reads_installed prefixes) (Nat.lt_succ_self _) packages
  have hsimulates := generate_simulates prefixes packages
  rw [hgenerate] at hsimulates
  cases hsearch : DependencyOrders.search (reads prefixes)
      ((prefixes.flatMap AList.keys).length + 1) packages with
  | ok names =>
    rw [hsearch] at hsimulates
    exact hsimulates.elim
  | error stop =>
    rw [hsearch] at hsimulates houtcome
    cases stop with
    | cyclic name =>
      obtain ⟨⟨requested, hrequested, hreaches⟩, hcycle⟩ := houtcome
      rw [edge_reads] at hreaches hcycle
      exact ⟨requested,hrequested,name,hreaches,.inl ⟨hsimulates,hcycle⟩⟩
    | unreadable name text =>
      obtain ⟨⟨requested, hrequested, hreaches⟩, hfails⟩ := houtcome
      rw [edge_reads] at hreaches
      exact ⟨requested,hrequested,name,hreaches,
        .inr ⟨text,hsimulates,load_of_reads_error prefixes hfails⟩⟩
    | exhausted => exact houtcome.elim

/-- The generator emits what its search lists. -/
theorem emitted_of_ok {order : List Package} (hgenerate : generate prefixes packages = .ok order) :
    Emitted prefixes packages order := by
  have houtcome := search_outcome (reads_installed prefixes) (Nat.lt_succ_self _) packages
  have hsimulates := generate_simulates prefixes packages
  rw [hgenerate] at hsimulates
  cases hsearch : DependencyOrders.search (reads prefixes)
      ((prefixes.flatMap AList.keys).length + 1) packages with
  | error stop =>
    rw [hsearch] at hsimulates
    exact hsimulates.elim
  | ok names =>
    rw [hsearch] at hsimulates houtcome
    obtain ⟨hnames, hloaded⟩ := hsimulates
    rw [← hnames] at houtcome
    have hbefore : ∀ front package back, order = front ++ package :: back →
        Covered package ∧ ∀ name ∈ package.dependencies, name ∈ front.map Package.name := by
      intro front package back hsplit
      have hload := hloaded package (by rw [hsplit]; simp)
      refine ⟨(load_covered hload).2,fun name hname => ?_⟩
      have hmapped : order.map Package.name =
          front.map Package.name ++ package.name :: back.map Package.name := by
        rw [hsplit,List.map_append,List.map_cons]
      refine houtcome.built.before hmapped ?_
      rw [edge_reads]
      exact ⟨package,hload,hname⟩
    refine ⟨houtcome.built.nodup,?_,hloaded,?_,?_⟩
    · intro name
      rw [houtcome.exact name,edge_reads]
    · intro front package back hsplit typeKey message hlookup type htype namespaced helement
      obtain ⟨hcovered, hdependencies⟩ := hbefore front package back hsplit
      exact (hcovered.types typeKey message hlookup type htype namespaced helement).imp_right
        (hdependencies _)
    · intro front package back hsplit hactions
      obtain ⟨hcovered, hdependencies⟩ := hbefore front package back hsplit
      exact hdependencies _ (hcovered.actions hactions)

/-- The generator returns when its search does. -/
theorem generate_ok_iff : (∃ order, generate prefixes packages = .ok order) ↔
    ∃ names, DependencyOrders.search (reads prefixes)
      ((prefixes.flatMap AList.keys).length + 1) packages = .ok names := by
  have hsimulates := generate_simulates prefixes packages
  constructor
  · intro ⟨order, hgenerate⟩
    cases hsearch : DependencyOrders.search (reads prefixes)
        ((prefixes.flatMap AList.keys).length + 1) packages with
    | ok names => exact ⟨names,rfl⟩
    | error stop =>
      rw [hgenerate,hsearch] at hsimulates
      exact hsimulates.elim
  · intro ⟨names, hsearch⟩
    cases hgenerate : generate prefixes packages with
    | ok order => exact ⟨order,rfl⟩
    | error failure =>
      rw [hgenerate,hsearch] at hsimulates
      exact hsimulates.elim

/-- The generator emits the packages it was asked for, with everything they use before them,
or raises for a package that it cannot load or that uses itself; and it raises only then. -/
theorem generate_ordered :
    (match generate prefixes packages with
      | .ok order => Emitted prefixes packages order
      | .error failure => Blamed prefixes packages failure) ∧
    ((∃ order, generate prefixes packages = .ok order) ↔
      ∀ requested ∈ packages, ∀ name, ReflTransGen (DependsOn prefixes) requested name →
        (∃ package, load prefixes name = .ok package) ∧
          ¬ TransGen (DependsOn prefixes) name name) := by
  constructor
  · cases hgenerate : generate prefixes packages with
    | error failure => exact blamed_of_error prefixes packages hgenerate
    | ok order => exact emitted_of_ok prefixes packages hgenerate
  · have hends := search_ok_iff (reads_installed prefixes) (Nat.lt_succ_self _) packages
    simp only [edge_reads,reads_ok_iff] at hends
    exact (generate_ok_iff prefixes packages).trans hends

end Dmw.InterfacePackages
