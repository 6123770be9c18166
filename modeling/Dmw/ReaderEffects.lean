import Dmw.ReaderConditions

/-!
# What a call does to readers and registrations

Every event of a call is one of a few changes of one reader and one
registration, each with what the call owns when it makes it. From these changes
follows what another call may rely on, and from that what every call knows of
the registration it works on.
-/

namespace Dmw.ReaderConditions

open GuardedRuns
open WaitSetAdd (RegistrationPhase)

/-- Other calls may find the registration. -/
def Stage.Known : Stage → Prop
  | .unissued | .claimed _ => False
  | _ => True

namespace System

/-- Some reader of an endpoint is closing. -/
def ClosingAny (e : EndpointId) (s : System) : Prop := ∃ k, (s.readers ⟨e,k⟩).closing = true

/-- Other calls may find the registration. -/
def Known (r : RegistrationId) (s : System) : Prop := (s.registrations r).stage.Known

/-- A call has locked the conditions of a registration that is known. -/
def Holds (t : CallId) (r : RegistrationId) (s : System) : Prop :=
  s.Known r ∧ (s.registrations r).conditionsMutex = some t

end System

section Known

variable {s : System} {t : CallId} {r : RegistrationId}

/-- A known registration is issued. -/
theorem System.Known.issued (hknown : s.Known r) : (s.registrations r).stage ≠ .unissued := by
  intro hstage
  rw [System.Known, hstage] at hknown
  exact hknown

/-- A known registration is not being claimed. -/
theorem System.Known.unclaimed (hknown : s.Known r) : (s.registrations r).stage ≠ .claimed t := by
  intro hstage
  rw [System.Known, hstage] at hknown
  exact hknown

/-- A registration that is being published is known. -/
theorem known_of_published (hstage : (s.registrations r).stage = .published t) : s.Known r := by
  rw [System.Known, hstage]
  exact trivial

/-- A settled registration is known. -/
theorem known_of_settled (hstage : (s.registrations r).stage = .settled) : s.Known r := by
  rw [System.Known, hstage]
  exact trivial

end Known

section Changes

variable (s : System) (t : CallId)

/-- A change of a reader by a call. -/
inductive ReaderChange (x : ReaderId) : ReaderWaitState → Prop
  | claim (hregistration : (s.readers x).registration = none) (hclaim : (s.readers x).claim = none) :
    ReaderChange x {s.readers x with claim := some t}
  | drop (hclaim : (s.readers x).claim = some t) : ReaderChange x {s.readers x with claim := none}
  | block (hfree : s.Free x) : ReaderChange x {s.readers x with callbackMutex := some t}
  | publish (r : RegistrationId) (hclaim : (s.readers x).claim = some t)
    (hstage : (s.registrations r).stage = .published t)
    (hendpoint : (s.registrations r).endpoint = x.endpoint) :
    ReaderChange x {s.readers x with
      claim := none
      registration := some r
      detachCallback := some r}
  | install (r : RegistrationId) (hpc : s.pc t = .installing r x.index)
    (hstage : (s.registrations r).stage = .published t)
    (hendpoint : (s.registrations r).endpoint = x.endpoint) :
    ReaderChange x {s.readers x with topologyCallback := some r}
  | clear (r : RegistrationId) (hregistration : (s.readers x).registration = some r)
    (hphase : (s.registrations r).phase ≠ .attached) :
    ReaderChange x {s.readers x with
      registration := none
      detachCallback := none
      topologyCallback := none}
  | close (hidle : s.pc t = .idle) : ReaderChange x {s.readers x with closing := true}
  | toggle (enabled : Bool) : ReaderChange x {s.readers x with blockingEnabled := enabled}

/-- A change of a registration by a call, those below `n` being issued after it. -/
inductive RegistrationChange (n : RegistrationId) (r : RegistrationId) : Registration → Prop
  | create (w : WaitSetId) (e : EndpointId) (hnew : (s.registrations r).stage = .unissued)
    (hissued : r < n) :
    RegistrationChange n r (.fresh w e (.claimed t))
  | condition (k : ℕ) (attached : Bool)
    (hown : (s.registrations r).stage = .claimed t ∨ s.Holds t r ∨
      s.Known r ∧ attached = false ∧ (s.registrations r).phase ≠ .attached) :
    RegistrationChange n r {s.registrations r with
      readerConditions := Function.update (s.registrations r).readerConditions k attached}
  | unattach (hstage : (s.registrations r).stage = .claimed t) :
    RegistrationChange n r {s.registrations r with readerConditions := fun _ => false}
  | publish (hstage : (s.registrations r).stage = .claimed t) :
    RegistrationChange n r {s.registrations r with stage := .published t}
  | settle (hstage : (s.registrations r).stage = .claimed t ∨
      (s.registrations r).stage = .published t) :
    RegistrationChange n r {s.registrations r with stage := .settled}
  | list (hpc : s.pc t = .listing r) (hstage : (s.registrations r).stage = .published t) :
    RegistrationChange n r {s.registrations r with
      listed := true
      stage := .settled}
  | detaching (hknown : s.Known r)
    (hclosing : (s.registrations r).stage = .settled ∨
      s.ClosingAny (s.registrations r).endpoint) :
    RegistrationChange n r {s.registrations r with phase := .detaching}
  | lock (hknown : s.Known r) (hfree : (s.registrations r).conditionsMutex = none) :
    RegistrationChange n r {s.registrations r with conditionsMutex := some t}
  | unlock (conditions : ℕ → Bool) (hholds : s.Holds t r) :
    RegistrationChange n r {s.registrations r with
      readerConditions := conditions
      conditionsMutex := none}
  | interest (mask : Mask) (hknown : s.Known r)
    (hfree : (s.registrations r).conditionsMutex = none) :
    RegistrationChange n r {s.registrations r with
      interest := mask
      conditionsMutex := some t}
  | erase (hknown : s.Known r) : RegistrationChange n r {s.registrations r with listed := false}
  | finish (stage : Stage) (hholds : s.Holds t r)
    (hphase : (s.registrations r).phase ≠ .attached)
    (hstage : stage = (s.registrations r).stage ∨
      (s.registrations r).stage = .published t ∧ stage = .settled) :
    RegistrationChange n r {s.registrations r with
      phase := .detached
      conditionsMutex := none
      stage := stage}

/-- What an event of a call does to readers, registrations and other calls. -/
structure Effect (s' : System) : Prop where
  /-- A reader is as before or was changed by the call. -/
  reader : ∀ x, s'.readers x = s.readers x ∨ ReaderChange s t x (s'.readers x)
  /-- A registration is as before or was changed by the call. -/
  registration : ∀ r, s'.registrations r = s.registrations r ∨
    RegistrationChange s t s'.nextRegistration r (s'.registrations r)
  /-- Issued registrations stay issued. -/
  nextRegistration : s.nextRegistration ≤ s'.nextRegistration
  /-- No other call moves. -/
  others : ∀ t', t' ≠ t → s'.pc t' = s.pc t'

end Changes

section Kept

variable {s s' : System} {t t' : CallId} {x : ReaderId} {r : RegistrationId}
variable {n : RegistrationId} {u : ReaderWaitState} {g : Registration}

/-- Markers of other calls stay. -/
theorem ReaderChange.claim_kept (h : ReaderChange s t x u) (hne : t' ≠ t)
    (hclaim : (s.readers x).claim = some t') : u.claim = some t' := by
  have hother : (s.readers x).claim ≠ some t := fun hmine =>
    hne (Option.some.inj (hclaim.symm.trans hmine))
  cases h with
  | claim _ hnone => exact absurd (hnone.symm.trans hclaim) (Option.some_ne_none t').symm
  | drop hmine => exact absurd hmine hother
  | publish _ hmine => exact absurd hmine hother
  | _ => exact hclaim

/-- A lock that is held beyond an event is held from then on. -/
theorem ReaderChange.callbackMutex_kept (h : ReaderChange s t x u)
    (howner : (s.readers x).callbackMutex = some t') : u.callbackMutex = some t' := by
  cases h with
  | block hfree => exact absurd (hfree.symm.trans howner) (Option.some_ne_none t').symm
  | _ => exact howner

/-- A closing reader stays so. -/
theorem ReaderChange.closing_kept (h : ReaderChange s t x u)
    (hclosing : (s.readers x).closing = true) : u.closing = true := by
  cases h with
  | close => rfl
  | _ => exact hclosing

/-- A call changes what it creates, what it claims and what is known. -/
theorem RegistrationChange.owner (h : RegistrationChange s t n r g) :
    (s.registrations r).stage = .unissued ∧ r < n ∨ (s.registrations r).stage = .claimed t ∨
      s.Known r := by
  cases h with
  | create _ _ hnew hissued => exact .inl ⟨hnew,hissued⟩
  | condition _ _ hown =>
    rcases hown with hmine | hholds | ⟨hknown,-⟩
    · exact .inr (.inl hmine)
    · exact .inr (.inr hholds.1)
    · exact .inr (.inr hknown)
  | unattach hmine => exact .inr (.inl hmine)
  | publish hmine => exact .inr (.inl hmine)
  | settle hmine => exact .inr (hmine.imp_right known_of_published)
  | list _ hmine => exact .inr (.inr (known_of_published hmine))
  | unlock _ hholds => exact .inr (.inr hholds.1)
  | finish _ hholds => exact .inr (.inr hholds.1)
  | detaching hknown => exact .inr (.inr hknown)
  | lock hknown => exact .inr (.inr hknown)
  | interest _ hknown => exact .inr (.inr hknown)
  | erase hknown => exact .inr (.inr hknown)

/-- What is changed is issued. -/
theorem RegistrationChange.issued (h : RegistrationChange s t n r g)
    (hstage : (s.registrations r).stage = .unissued) : r < n := by
  rcases h.owner with hnew | hmine | hknown
  · exact hnew.2
  · exact Stage.noConfusion (hstage.symm.trans hmine)
  · exact absurd hstage hknown.issued

/-- A registration that is being claimed is its call's own. -/
theorem RegistrationChange.claimed_kept (h : RegistrationChange s t n r g) (hne : t' ≠ t)
    (hstage : (s.registrations r).stage = .claimed t') : g = s.registrations r := by
  rcases h.owner with hnew | hmine | hknown
  · exact Stage.noConfusion (hstage.symm.trans hnew.1)
  · exact absurd (Stage.claimed.inj (hstage.symm.trans hmine)) hne
  · exact absurd hstage hknown.unclaimed

/-- A registration that is being published is settled by its own call only. -/
theorem RegistrationChange.published_kept (h : RegistrationChange s t n r g) (hne : t' ≠ t)
    (hstage : (s.registrations r).stage = .published t') : g.stage = .published t' := by
  have hother : (s.registrations r).stage ≠ .published t := fun hmine =>
    hne (Stage.published.inj (hstage.symm.trans hmine))
  have hunclaimed : (s.registrations r).stage ≠ .claimed t := fun hmine =>
    Stage.noConfusion (hstage.symm.trans hmine)
  cases h with
  | create _ _ hnew => exact Stage.noConfusion (hstage.symm.trans hnew)
  | publish hmine => exact absurd hmine hunclaimed
  | settle hmine => exact absurd hmine (not_or.mpr ⟨hunclaimed,hother⟩)
  | list _ hmine => exact absurd hmine hother
  | finish stage _ _ hsame => exact (hsame.resolve_right fun hmine => hother hmine.1).trans hstage
  | _ => exact hstage

/-- A settled registration stays so. -/
theorem RegistrationChange.settled_kept (h : RegistrationChange s t n r g)
    (hstage : (s.registrations r).stage = .settled) : g.stage = .settled := by
  cases h with
  | create _ _ hnew => exact Stage.noConfusion (hstage.symm.trans hnew)
  | publish hmine => exact Stage.noConfusion (hstage.symm.trans hmine)
  | settle => rfl
  | list => rfl
  | finish stage _ _ hsame => exact hsame.elim (fun hsame => hsame.trans hstage) And.right
  | _ => exact hstage

/-- A known registration stays so. -/
theorem RegistrationChange.known_kept (h : RegistrationChange s t n r g) (hknown : s.Known r) :
    g.stage.Known := by
  cases h with
  | create _ _ hnew => exact absurd hnew hknown.issued
  | publish => exact trivial
  | settle => exact trivial
  | list => exact trivial
  | finish stage _ _ hsame =>
    rcases hsame with hsame | ⟨-,hsettled⟩
    · exact hsame ▸ hknown
    · exact hsettled ▸ trivial
  | _ => exact hknown

/-- An issued registration keeps its endpoint. -/
theorem RegistrationChange.endpoint_kept (h : RegistrationChange s t n r g)
    (hissued : (s.registrations r).stage ≠ .unissued) :
    g.endpoint = (s.registrations r).endpoint := by
  cases h with
  | create _ _ hnew => exact absurd hnew hissued
  | _ => rfl

/-- A detached registration is never attached again. -/
theorem RegistrationChange.phase_kept (h : RegistrationChange s t n r g)
    (hissued : (s.registrations r).stage ≠ .unissued)
    (hphase : (s.registrations r).phase ≠ .attached) : g.phase ≠ .attached := by
  cases h with
  | create _ _ hnew => exact absurd hnew hissued
  | detaching => exact RegistrationPhase.noConfusion
  | finish => exact RegistrationPhase.noConfusion
  | _ => exact hphase

/-- The conditions that another call has locked stay locked, and nothing is attached. -/
theorem RegistrationChange.mutex_kept (h : RegistrationChange s t n r g) (hne : t' ≠ t)
    (hholds : s.Holds t' r) : g.conditionsMutex = some t' := by
  obtain ⟨hknown,howner⟩ := hholds
  have hother : (s.registrations r).conditionsMutex ≠ some t := fun hmine =>
    hne (Option.some.inj (howner.symm.trans hmine))
  have hlocked : (s.registrations r).conditionsMutex ≠ none := fun hfree =>
    Option.some_ne_none t' (howner.symm.trans hfree)
  cases h with
  | create _ _ hnew => exact absurd hnew hknown.issued
  | lock _ hfree => exact absurd hfree hlocked
  | unlock _ hmine => exact absurd hmine.2 hother
  | interest _ _ hfree => exact absurd hfree hlocked
  | finish _ hmine => exact absurd hmine.2 hother
  | _ => exact howner

/-- Where another call has locked the conditions, nothing is attached. -/
theorem RegistrationChange.unattached_kept {k : ℕ} (h : RegistrationChange s t n r g) (hne : t' ≠ t)
    (hholds : s.Holds t' r) (hunattached : (s.registrations r).readerConditions k = false) :
    g.readerConditions k = false := by
  obtain ⟨hknown,howner⟩ := hholds
  cases h with
  | create _ _ hnew => exact absurd hnew hknown.issued
  | condition j attached hown =>
    have hattached : attached = false := by
      rcases hown with hstage | hmine | ⟨-,hattached,-⟩
      · exact absurd hstage hknown.unclaimed
      · exact absurd (Option.some.inj (howner.symm.trans hmine.2)) hne
      · exact hattached
    simp only [Function.update_apply,hattached,hunattached,ite_self]
  | unattach => rfl
  | unlock _ hmine => exact absurd (Option.some.inj (howner.symm.trans hmine.2)) hne
  | _ => exact hunattached

/-- Only registrations whose add is over are stored. -/
theorem RegistrationChange.listed_settled (h : RegistrationChange s t n r g)
    (hsettled : (s.registrations r).listed = true → (s.registrations r).stage = .settled)
    (hlisted : g.listed = true) : g.stage = .settled := by
  have hsame (hlisted : (s.registrations r).listed = true) : g.stage = .settled :=
    h.settled_kept (hsettled hlisted)
  cases h with
  | create => exact Bool.noConfusion hlisted
  | list => rfl
  | erase => exact Bool.noConfusion hlisted
  | _ => exact hsame hlisted

/-- What is detached during its add has a closing reader. -/
theorem RegistrationChange.departing (h : RegistrationChange s t n r g)
    (hdeparting : (s.registrations r).stage ≠ .settled → (s.registrations r).phase ≠ .attached →
      s.ClosingAny (s.registrations r).endpoint)
    (hstage : g.stage ≠ .settled) (hphase : g.phase ≠ .attached) : s.ClosingAny g.endpoint := by
  have hunsettled : (s.registrations r).stage ≠ .settled := fun hsettled =>
    hstage (h.settled_kept hsettled)
  cases h with
  | create => exact absurd rfl hphase
  | detaching _ hclosing => exact hclosing.resolve_left hunsettled
  | finish _ _ hdetached => exact hdeparting hunsettled hdetached
  | _ => exact hdeparting hunsettled hphase

/-- A claimed reader is not registered. -/
theorem ReaderChange.claimed (h : ReaderChange s t x u)
    (hclaimed : (s.readers x).claim = some t' → (s.readers x).registration = none)
    (hclaim : u.claim = some t') : u.registration = none := by
  cases h with
  | claim hregistration => exact hregistration
  | drop => exact absurd hclaim (Option.some_ne_none t').symm
  | publish => exact absurd hclaim (Option.some_ne_none t').symm
  | clear => rfl
  | _ => exact hclaimed hclaim

/-- The detach callback is the one of the registration. -/
theorem ReaderChange.detachCallback (h : ReaderChange s t x u)
    (hcallback : (s.readers x).detachCallback = (s.readers x).registration) :
    u.detachCallback = u.registration := by
  cases h with
  | publish => rfl
  | clear => rfl
  | _ => exact hcallback

/-- A reader is registered under what it was or what is being published. -/
theorem ReaderChange.registered (h : ReaderChange s t x u) (hregistered : u.registration = some r) :
    (s.readers x).registration = some r ∨ (s.registrations r).stage = .published t ∧
      (s.registrations r).endpoint = x.endpoint := by
  cases h with
  | publish q _ hstage hendpoint =>
    obtain rfl := Option.some.inj hregistered
    exact .inr ⟨hstage,hendpoint⟩
  | clear => exact absurd hregistered (Option.some_ne_none r).symm
  | _ => exact .inl hregistered

/-- A topology callback is what it was or of what is being published. -/
theorem ReaderChange.topologyCallback (h : ReaderChange s t x u)
    (hcallback : u.topologyCallback = some r) :
    (s.readers x).topologyCallback = some r ∨ (s.registrations r).stage = .published t ∧
      (s.registrations r).endpoint = x.endpoint := by
  cases h with
  | install q _ hstage hendpoint =>
    obtain rfl := Option.some.inj hcallback
    exact .inr ⟨hstage,hendpoint⟩
  | clear => exact absurd hcallback (Option.some_ne_none r).symm
  | _ => exact .inl hcallback

/-- A registration that another call claims is as before. -/
theorem Effect.claimed_kept (h : Effect s t s') (hne : t' ≠ t)
    (hstage : (s.registrations r).stage = .claimed t') : s'.registrations r = s.registrations r :=
  (h.registration r).elim id fun hchange => hchange.claimed_kept hne hstage

/-- Another call goes on publishing its registration. -/
theorem Effect.published_kept (h : Effect s t s') (hne : t' ≠ t)
    (hstage : (s.registrations r).stage = .published t') :
    (s'.registrations r).stage = .published t' :=
  (h.registration r).elim (fun heq => heq ▸ hstage) fun hchange =>
    hchange.published_kept hne hstage

/-- A settled registration stays so. -/
theorem Effect.settled_kept (h : Effect s t s') (hstage : (s.registrations r).stage = .settled) :
    (s'.registrations r).stage = .settled :=
  (h.registration r).elim (fun heq => heq ▸ hstage) fun hchange => hchange.settled_kept hstage

/-- A known registration stays so. -/
theorem Effect.known_kept (h : Effect s t s') (hknown : s.Known r) : s'.Known r :=
  (h.registration r).elim (fun heq => by rw [System.Known, heq]; exact hknown) fun hchange =>
    hchange.known_kept hknown

/-- An issued registration keeps its endpoint. -/
theorem Effect.endpoint_kept (h : Effect s t s')
    (hissued : (s.registrations r).stage ≠ .unissued) :
    (s'.registrations r).endpoint = (s.registrations r).endpoint :=
  (h.registration r).elim (fun heq => by rw [heq]) fun hchange => hchange.endpoint_kept hissued

/-- A detached registration is never attached again. -/
theorem Effect.phase_kept (h : Effect s t s') (hissued : (s.registrations r).stage ≠ .unissued)
    (hphase : (s.registrations r).phase ≠ .attached) : (s'.registrations r).phase ≠ .attached :=
  (h.registration r).elim (fun heq => heq ▸ hphase) fun hchange => hchange.phase_kept hissued hphase

/-- Another call keeps the conditions locked. -/
theorem Effect.holds_kept (h : Effect s t s') (hne : t' ≠ t) (hholds : s.Holds t' r) :
    s'.Holds t' r :=
  ⟨h.known_kept hholds.1,(h.registration r).elim (fun heq => heq ▸ hholds.2) fun hchange =>
    hchange.mutex_kept hne hholds⟩

/-- What another call has locked and found unattached stays unattached. -/
theorem Effect.unattached_kept {k : ℕ} (h : Effect s t s') (hne : t' ≠ t) (hholds : s.Holds t' r)
    (hunattached : (s.registrations r).readerConditions k = false) :
    (s'.registrations r).readerConditions k = false :=
  (h.registration r).elim (fun heq => heq ▸ hunattached) fun hchange =>
    hchange.unattached_kept hne hholds hunattached

/-- Markers of other calls stay. -/
theorem Effect.claim_kept (h : Effect s t s') (hne : t' ≠ t)
    (hclaim : (s.readers x).claim = some t') : (s'.readers x).claim = some t' :=
  (h.reader x).elim (fun heq => heq ▸ hclaim) fun hchange => hchange.claim_kept hne hclaim

/-- A lock that is held beyond an event is held from then on. -/
theorem Effect.callbackMutex_kept (h : Effect s t s')
    (howner : (s.readers x).callbackMutex = some t') :
    (s'.readers x).callbackMutex = some t' :=
  (h.reader x).elim (fun heq => heq ▸ howner) fun hchange => hchange.callbackMutex_kept howner

/-- A closing reader stays so. -/
theorem Effect.closing_kept (h : Effect s t s') (hclosing : (s.readers x).closing = true) :
    (s'.readers x).closing = true :=
  (h.reader x).elim (fun heq => heq ▸ hclosing) fun hchange => hchange.closing_kept hclosing

/-- An endpoint with a closing reader keeps one. -/
theorem Effect.closingAny_kept {e : EndpointId} (h : Effect s t s') (hclosing : s.ClosingAny e) :
    s'.ClosingAny e := by
  obtain ⟨k,hk⟩ := hclosing
  exact ⟨k,h.closing_kept hk⟩

end Kept

section Sound

variable (endpoints : EndpointId → Endpoint)

namespace System

/-- Why a call may detach a registration. -/
def Entitled (t : CallId) (r : RegistrationId) (s : System) : Caller → Prop
  | .remove => (s.registrations r).stage = .settled
  | .close => s.Known r ∧ s.ClosingAny (s.registrations r).endpoint
  | .rollback =>
    (s.registrations r).stage = .published t ∧ s.ClosingAny (s.registrations r).endpoint
  | .add => (s.registrations r).stage = .published t

/-- The markers of the readers of a registration from `k` up to `n` are a call's own. -/
def Claims (t : CallId) (r : RegistrationId) (k n : ℕ) (s : System) : Prop :=
  ∀ i, k ≤ i → i < n → (s.readers (s.reader r i)).claim = some t

/-- Nothing is attached for the readers of a registration from `k` on. -/
def Unattached (r : RegistrationId) (k : ℕ) (s : System) : Prop :=
  ∀ i, k ≤ i → (s.registrations r).readerConditions i = false

/-- What a call knows at each of its steps. -/
def Sound (t : CallId) (s : System) : Pc → Prop
  | .idle | .copying _ => True
  | .claiming r k =>
    (s.registrations r).stage = .claimed t ∧ s.Claims t r 0 k ∧ s.Unattached r 0
  | .rejecting r k j =>
    (s.registrations r).stage = .claimed t ∧
      (s.readers (s.reader r k)).callbackMutex = some t ∧ j ≤ k ∧ s.Claims t r j k
  | .clearing r k =>
    (s.registrations r).stage = .claimed t ∧ s.Claims t r k (s.size endpoints r)
  | .attaching r k | .attachingNative r k =>
    (s.registrations r).stage = .claimed t ∧ s.Claims t r 0 (s.size endpoints r) ∧
      s.Unattached r k
  | .unattaching r =>
    (s.registrations r).stage = .claimed t ∧ s.Claims t r 0 (s.size endpoints r)
  | .publishing r k closed =>
    (s.registrations r).stage = .published t ∧ s.Claims t r k (s.size endpoints r) ∧
      (closed = true → s.ClosingAny (s.registrations r).endpoint)
  | .checking r | .installing r _ | .listing r => (s.registrations r).stage = .published t
  | .detaching r caller => s.Entitled t r caller ∧ caller ≠ .add
  | .locking r caller => s.Entitled t r caller ∧ (s.registrations r).phase ≠ .attached
  | .releasing r _ caller | .clearingReader r _ caller =>
    s.Entitled t r caller ∧ (s.registrations r).phase ≠ .attached ∧
      (caller ≠ .add → (s.registrations r).conditionsMutex = some t)
  | .erasing r caller | .finishing r caller =>
    s.Entitled t r caller ∧ (s.registrations r).phase ≠ .attached ∧ s.Holds t r
  | .waiting x => (s.readers x).closing = true
  | .calling r _ | .interesting r _ => s.Known r
  | .deciding r _ _ | .poisoning r => s.Holds t r
  | .rechecking r k _ | .fixing r k _ =>
    s.Holds t r ∧ (s.registrations r).readerConditions k = false

end System

/-- What holds of readers, registrations and calls in every state. -/
structure Structured (s : System) : Prop where
  /-- Registrations from the next one on are not issued. -/
  unissued : ∀ r, s.nextRegistration ≤ r → (s.registrations r).stage = .unissued
  /-- A stored registration is not being added. -/
  listed : ∀ r, (s.registrations r).listed = true → (s.registrations r).stage = .settled
  /-- A claimed reader is not registered. -/
  claimed : ∀ x t, (s.readers x).claim = some t → (s.readers x).registration = none
  /-- The detach callback is the one of the registration. -/
  detachCallback : ∀ x, (s.readers x).detachCallback = (s.readers x).registration
  /-- A reader is registered under a registration of its endpoint. -/
  registered : ∀ x r, (s.readers x).registration = some r →
    s.Known r ∧ (s.registrations r).endpoint = x.endpoint
  /-- A topology callback is of a registration of the endpoint. -/
  topologyCallback : ∀ x r, (s.readers x).topologyCallback = some r →
    s.Known r ∧ (s.registrations r).endpoint = x.endpoint
  /-- A registration that is detached during its add has a closing reader. -/
  departing : ∀ r, (s.registrations r).stage ≠ .settled →
    (s.registrations r).phase ≠ .attached → s.ClosingAny (s.registrations r).endpoint
  /-- Every call knows what its step needs. -/
  calls : ∀ t, s.Sound endpoints t (s.pc t)

section Stable

variable {endpoints} {s s' : System} {t t' : CallId} {r : RegistrationId}

/-- A call detaches known registrations only. -/
theorem System.Entitled.known {caller : Caller} (h : s.Entitled t r caller) : s.Known r := by
  cases caller with
  | remove => exact known_of_settled h
  | close => exact h.1
  | rollback => exact known_of_published h.1
  | add => exact known_of_published h

/-- Other calls leave the reason to detach a registration. -/
theorem System.Entitled.kept {caller : Caller} (h : Effect s t s') (hne : t' ≠ t)
    (hentitled : s.Entitled t' r caller) : s'.Entitled t' r caller := by
  have hendpoint := h.endpoint_kept hentitled.known.issued
  cases caller with
  | remove => exact h.settled_kept hentitled
  | close => exact ⟨h.known_kept hentitled.1,hendpoint ▸ h.closingAny_kept hentitled.2⟩
  | rollback => exact ⟨h.published_kept hne hentitled.1,hendpoint ▸ h.closingAny_kept hentitled.2⟩
  | add => exact h.published_kept hne hentitled

/-- Other calls leave the markers of the readers of an issued registration. -/
theorem System.Claims.kept {k n : ℕ} (h : Effect s t s') (hne : t' ≠ t)
    (hissued : (s.registrations r).stage ≠ .unissued) (hclaims : s.Claims t' r k n) :
    s'.Claims t' r k n := by
  intro i hk hn
  have hreader : s'.reader r i = s.reader r i := by
    rw [System.reader, System.reader, h.endpoint_kept hissued]
  rw [hreader]
  exact h.claim_kept hne (hclaims i hk hn)

/-- An issued registration keeps its number of readers. -/
theorem Effect.size_kept (h : Effect s t s') (hissued : (s.registrations r).stage ≠ .unissued) :
    s'.size endpoints r = s.size endpoints r := by
  rw [System.size, System.size, h.endpoint_kept hissued]

/-- An issued registration keeps its readers. -/
theorem Effect.reader_kept (h : Effect s t s') (hissued : (s.registrations r).stage ≠ .unissued)
    (k : ℕ) : s'.reader r k = s.reader r k := by
  rw [System.reader, System.reader, h.endpoint_kept hissued]

/-- Other calls leave what a call knows. -/
theorem System.Sound.kept {p : Pc} (h : Effect s t s') (hne : t' ≠ t)
    (hsound : s.Sound endpoints t' p) : s'.Sound endpoints t' p := by
  have hclaimed : ∀ {r}, (s.registrations r).stage = .claimed t' →
      (s.registrations r).stage ≠ .unissued := fun hstage hnew =>
    Stage.noConfusion (hstage.symm.trans hnew)
  cases p with
  | idle => exact trivial
  | copying x => exact trivial
  | claiming r k =>
    obtain ⟨hstage,hclaims,hunattached⟩ := hsound
    refine ⟨(h.claimed_kept hne hstage) ▸ hstage,hclaims.kept h hne (hclaimed hstage),?_⟩
    rw [System.Unattached, h.claimed_kept hne hstage]
    exact hunattached
  | rejecting r k j =>
    obtain ⟨hstage,howner,hle,hclaims⟩ := hsound
    refine ⟨(h.claimed_kept hne hstage) ▸ hstage,?_,hle,hclaims.kept h hne (hclaimed hstage)⟩
    rw [h.reader_kept (hclaimed hstage)]
    exact h.callbackMutex_kept howner
  | clearing r k =>
    obtain ⟨hstage,hclaims⟩ := hsound
    refine ⟨(h.claimed_kept hne hstage) ▸ hstage,?_⟩
    rw [h.size_kept (hclaimed hstage)]
    exact hclaims.kept h hne (hclaimed hstage)
  | attaching r k | attachingNative r k =>
    obtain ⟨hstage,hclaims,hunattached⟩ := hsound
    refine ⟨(h.claimed_kept hne hstage) ▸ hstage,?_,?_⟩
    · rw [h.size_kept (hclaimed hstage)]
      exact hclaims.kept h hne (hclaimed hstage)
    · rw [System.Unattached, h.claimed_kept hne hstage]
      exact hunattached
  | unattaching r =>
    obtain ⟨hstage,hclaims⟩ := hsound
    refine ⟨(h.claimed_kept hne hstage) ▸ hstage,?_⟩
    rw [h.size_kept (hclaimed hstage)]
    exact hclaims.kept h hne (hclaimed hstage)
  | publishing r k closed =>
    obtain ⟨hstage,hclaims,hclosed⟩ := hsound
    have hissued := (known_of_published hstage).issued
    refine ⟨h.published_kept hne hstage,?_,fun hc => ?_⟩
    · rw [h.size_kept hissued]
      exact hclaims.kept h hne hissued
    · rw [h.endpoint_kept hissued]
      exact h.closingAny_kept (hclosed hc)
  | checking r => exact h.published_kept hne hsound
  | installing r k => exact h.published_kept hne hsound
  | listing r => exact h.published_kept hne hsound
  | detaching r caller => exact ⟨hsound.1.kept h hne,hsound.2⟩
  | locking r caller =>
    exact ⟨hsound.1.kept h hne,h.phase_kept hsound.1.known.issued hsound.2⟩
  | releasing r k caller | clearingReader r k caller =>
    obtain ⟨hentitled,hphase,howner⟩ := hsound
    exact ⟨hentitled.kept h hne,h.phase_kept hentitled.known.issued hphase,fun hcaller =>
      (h.holds_kept hne ⟨hentitled.known,howner hcaller⟩).2⟩
  | erasing r caller | finishing r caller =>
    obtain ⟨hentitled,hphase,hholds⟩ := hsound
    exact ⟨hentitled.kept h hne,h.phase_kept hentitled.known.issued hphase,h.holds_kept hne hholds⟩
  | waiting x => exact h.closing_kept hsound
  | calling r k => exact h.known_kept hsound
  | interesting r mask => exact h.known_kept hsound
  | deciding r k all => exact h.holds_kept hne hsound
  | rechecking r k all | fixing r k all =>
    exact ⟨h.holds_kept hne hsound.1,h.unattached_kept hne hsound.1 hsound.2⟩
  | poisoning r => exact h.holds_kept hne hsound

end Stable

end Sound

end Dmw.ReaderConditions
