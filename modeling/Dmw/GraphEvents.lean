import Mathlib.Data.List.Chain
import Dmw.ViewReadings

/-!
# Graph events and snapshots

A graph event is a cursor into the revisions. It is ready while the graph is
ahead of the cursor, and a successful take moves the cursor there and reports
the interval. Both first fold in the metadata that is waiting to be read. A
snapshot is assembled from a copy of the graph, while the graph may go on
changing.
-/

namespace Dmw.GraphEvents

open GuardedRuns Identity GraphNames DiscoveryGraph GraphCandidates GraphSnapshot GraphRevision
open ViewReadings

/-- Interval reported by one take. -/
structure GraphChangeInfo where
  /-- Revision of the cursor before. -/
  previousRevision : ℕ
  /-- Revision of the cursor after. -/
  currentRevision : ℕ
  deriving DecidableEq

/-- A level-triggered revision cursor. -/
structure GraphEventState where
  /-- The event is being destroyed. -/
  closing : Bool
  /-- Last revision that was reported. -/
  cursor : ℕ
  deriving DecidableEq

/-- A new event. Earlier history is never replayed. -/
def initialized (g : Graph) : GraphEventState := ⟨false, g.revision⟩

/-- Fold the unread snapshots of other participants into the graph. -/
def ingestPending (samples : List RemoteParticipantNodes) (g : Graph) : Graph :=
  samples.foldl (fun g sample => applyRemoteNodes sample.guidPrefix sample.nodes g) g

/-- Whether the event is ready, with the graph the question leaves behind. -/
def logicallyReady (event : GraphEventState) (contextShutdown : Bool)
    (samples : List RemoteParticipantNodes) (g : Graph) : Bool × Graph :=
  if event.closing ∨ contextShutdown then (false, g)
  else
    let g' := ingestPending samples g
    if g'.health ≠ .healthy then (true, g') else (g'.revision > event.cursor, g')

/-- Report what happened since the cursor, if anything did. -/
def take (event : GraphEventState) (contextShutdown : Bool)
    (samples : List RemoteParticipantNodes) (g : Graph) :
    Result (Option GraphChangeInfo) × GraphEventState × Graph :=
  if event.closing then (.error ⟨.parentDestroyed, "GraphEvent is closing"⟩, event, g)
  else if contextShutdown then (.error ⟨.contextShutdown, "Context is shut down"⟩, event, g)
  else
    let g' := ingestPending samples g
    if g'.health ≠ .healthy then
      (.error ⟨.ddsError, "Discovery graph is unavailable"⟩, event, g')
    else if g'.revision = event.cursor then (.ok none, event, g')
    else (.ok (some ⟨event.cursor, g'.revision⟩), { event with cursor := g'.revision }, g')

/-- Calls that assemble a snapshot are numbered. -/
abbrev CallId := ℕ

/-- The graph of a context with one of its events and the calls that assemble
snapshots. -/
structure System where
  /-- The graph. -/
  graph : Graph
  /-- The context is shut down. -/
  contextShutdown : Bool
  /-- The event, once created. -/
  event : Option GraphEventState
  /-- Intervals the event reported, oldest first. -/
  taken : List GraphChangeInfo
  /-- Views that are being read. -/
  readings : CallId → Option Reading
  /-- Snapshots that were assembled, oldest first. -/
  snapshots : List Snapshot

/-- A context that has heard of nothing. -/
def System.initial : System := ⟨.initial, false, none, [], fun _ => none, []⟩

/-- Steps of the context. -/
inductive Step
  /-- A call on the graph. -/
  | call (call : GraphCall)
  /-- The event is created. -/
  | createEvent
  /-- The event is asked whether it is ready. -/
  | poll (samples : List RemoteParticipantNodes)
  /-- The event is taken. -/
  | take (samples : List RemoteParticipantNodes)
  /-- The event is closed. -/
  | close
  /-- The context is shut down. -/
  | shutdown
  /-- A view is copied for a snapshot. -/
  | copyView (c : CallId)
  /-- The pointer of its next endpoint is followed. -/
  | readParticipant (c : CallId)
  /-- The snapshot is assembled. -/
  | assemble (c : CallId)

/-- The interval of a successful take. -/
def reported : Result (Option GraphChangeInfo) → List GraphChangeInfo
  | .ok (some change) => [change]
  | _ => []

/-- Effect of one step on the event of a system. -/
def onEvent (s : System) (event : GraphEventState) : Step → System
  | .poll samples => { s with graph := (logicallyReady event s.contextShutdown samples s.graph).2 }
  | .take samples =>
    let result := take event s.contextShutdown samples s.graph
    { s with
      graph := result.2.2
      event := some result.2.1
      taken := s.taken ++ reported result.1 }
  | .close => { s with event := some { event with closing := true } }
  | _ => s

/-- Effect of one step. -/
def next (mode : RuntimeMode) (s : System) (step : Step) : System :=
  match step, s.event with
  | .call call, _ => { s with graph := perform s.graph call }
  | .createEvent, _ => { s with event := some (initialized s.graph) }
  | .shutdown, _ => { s with contextShutdown := true }
  | .copyView c, _ =>
    { s with readings := Function.update s.readings c (some (Reading.start s.graph)) }
  | .readParticipant c, _ =>
    { s with readings := Function.update s.readings c ((s.readings c).map (Reading.next s.graph)) }
  | .assemble c, _ =>
    { s with
      readings := Function.update s.readings c none
      snapshots := s.snapshots ++
        ((s.readings c).map fun r => assembleSnapshot mode r.followed).toList }
  | step, some event => onEvent s event step
  | _, none => s

/-- An event is created once, on a running context, and used after that; a call
reads the view it copied to its end. -/
def enabled (s : System) : Step → Prop
  | .call _ => True
  | .createEvent => s.event = none ∧ s.contextShutdown = false
  | .shutdown => True
  | .copyView c => (s.readings c).isNone
  | .readParticipant c => (s.readings c).any fun r => !r.unread.isEmpty
  | .assemble c => (s.readings c).any fun r => r.unread.isEmpty
  | _ => s.event.isSome

instance (s : System) (step : Step) : Decidable (enabled s step) :=
  match step with
  | .call _ => .isTrue trivial
  | .createEvent => inferInstanceAs (Decidable (s.event = none ∧ s.contextShutdown = false))
  | .poll _ => inferInstanceAs (Decidable (s.event.isSome = true))
  | .take _ => inferInstanceAs (Decidable (s.event.isSome = true))
  | .close => inferInstanceAs (Decidable (s.event.isSome = true))
  | .shutdown => .isTrue trivial
  | .copyView c => inferInstanceAs (Decidable ((s.readings c).isNone = true))
  | .readParticipant c =>
    inferInstanceAs (Decidable ((s.readings c).any (fun r => !r.unread.isEmpty) = true))
  | .assemble c =>
    inferInstanceAs (Decidable ((s.readings c).any (fun r => r.unread.isEmpty) = true))

/-- The context as a machine. -/
def machine (mode : RuntimeMode) : Machine System Step where
  enabled := enabled
  next := next mode
  decidableEnabled := inferInstance

/-- Nobody leaves while a call has still to look behind the pointer to him, of
an endpoint that it would show. -/
def KeepsAwaited (mode : RuntimeMode) (s : System) : Step → Prop
  | .call call => ∀ c r, s.readings c = some r → ∀ e ∈ r.unread, Shows mode r.view e →
    ¬ Leaves s.graph e.participant call
  | _ => True

/-- Folding metadata in is a sequence of calls. -/
theorem ingestPending_calls (samples : List RemoteParticipantNodes) (g : Graph) :
    ∃ calls, DiscoveryGraph.machine.Run g calls (ingestPending samples g) := by
  induction samples generalizing g with
  | nil => exact ⟨[], .nil⟩
  | cons sample samples ih =>
    obtain ⟨calls, hrest⟩ := ih (applyRemoteNodes sample.guidPrefix sample.nodes g)
    have hfirst : DiscoveryGraph.machine.Run g
        ([] ++ [.applyRemoteNodes sample.guidPrefix sample.nodes])
        (applyRemoteNodes sample.guidPrefix sample.nodes g) := .snoc .nil trivial trivial
    exact ⟨_, hfirst.append hrest⟩

/-- A question leaves the graph as it is or with the metadata folded in. -/
theorem logicallyReady_graph (event : GraphEventState) (contextShutdown : Bool)
    (samples : List RemoteParticipantNodes) (g : Graph) :
    ∃ samples', (logicallyReady event contextShutdown samples g).2 = ingestPending samples' g := by
  unfold logicallyReady
  split
  · exact ⟨[], rfl⟩
  · dsimp only
    split <;> exact ⟨samples, rfl⟩

/-- What a take can do: it leaves the cursor alone, or moves it forward to the
revision of the graph it leaves behind and reports the interval. -/
theorem take_cases (event : GraphEventState) (contextShutdown : Bool)
    (samples : List RemoteParticipantNodes) (g : Graph) :
    (∃ samples', (take event contextShutdown samples g).2.2 = ingestPending samples' g) ∧
      ((take event contextShutdown samples g).2.1 = event ∧
          reported (take event contextShutdown samples g).1 = [] ∨
        (take event contextShutdown samples g).2.2.health = .healthy ∧
          (take event contextShutdown samples g).2.2.revision ≠ event.cursor ∧
          (take event contextShutdown samples g).2.1 =
            { event with cursor := (take event contextShutdown samples g).2.2.revision } ∧
          reported (take event contextShutdown samples g).1 =
            [⟨event.cursor, (take event contextShutdown samples g).2.2.revision⟩]) := by
  unfold take
  split
  · exact ⟨⟨[], rfl⟩, Or.inl ⟨rfl, rfl⟩⟩
  · split
    · exact ⟨⟨[], rfl⟩, Or.inl ⟨rfl, rfl⟩⟩
    · dsimp only
      split
      · exact ⟨⟨samples, rfl⟩, Or.inl ⟨rfl, rfl⟩⟩
      · next hhealthy =>
        split
        · exact ⟨⟨samples, rfl⟩, Or.inl ⟨rfl, rfl⟩⟩
        · next hahead =>
          refine ⟨⟨samples, rfl⟩, Or.inr ⟨?_, hahead, rfl, rfl⟩⟩
          simpa using hhealthy

/-- Steps of the context act on the graph through a call or fold metadata in. -/
theorem graph_next (mode : RuntimeMode) (s : System) (step : Step) :
    (∃ call, step = .call call ∧ (next mode s step).graph = perform s.graph call) ∨
      ∃ samples, (next mode s step).graph = ingestPending samples s.graph := by
  have hstay : ∃ samples, s.graph = ingestPending samples s.graph := ⟨[], rfl⟩
  cases step with
  | call call => exact Or.inl ⟨call, rfl, rfl⟩
  | poll samples =>
    refine Or.inr ?_
    rcases hevent : s.event with - | event
    · simpa [next, hevent] using hstay
    · simpa [next, hevent, onEvent] using logicallyReady_graph event s.contextShutdown samples s.graph
  | take samples =>
    refine Or.inr ?_
    rcases hevent : s.event with - | event
    · simpa [next, hevent] using hstay
    · simpa [next, hevent, onEvent] using (take_cases event s.contextShutdown samples s.graph).1
  | close =>
    refine Or.inr ?_
    rcases hevent : s.event with - | event
    · simpa [next, hevent] using hstay
    · simpa [next, hevent, onEvent] using hstay
  | _ => exact Or.inr (by simpa [next] using hstay)

/-- So they are calls of the graph. -/
theorem calls_next (mode : RuntimeMode) (s : System) (step : Step) :
    ∃ calls, DiscoveryGraph.machine.Run s.graph calls (next mode s step).graph := by
  rcases graph_next mode s step with ⟨call, -, heq⟩ | ⟨samples, heq⟩
  · refine ⟨[] ++ [call], ?_⟩
    rw [heq]
    exact .snoc .nil trivial trivial
  · rw [heq]
    exact ingestPending_calls samples s.graph

/-- Runs of the context are runs of its graph. -/
theorem graph_run {mode : RuntimeMode} {ok : System → Step → Prop} {s s' : System}
    {steps : List Step} (hrun : (machine mode).RunWhen ok s steps s') :
    ∃ calls, DiscoveryGraph.machine.Run s.graph calls s'.graph := by
  induction hrun with
  | nil => exact ⟨[], .nil⟩
  | @snoc steps s step _ _ _ ih =>
    obtain ⟨calls, hcalls⟩ := ih
    obtain ⟨calls', hcalls'⟩ := calls_next mode s step
    exact ⟨_, hcalls.append hcalls'⟩

/-- Intervals grow, and each starts where the one before ended. -/
def Contiguous (taken : List GraphChangeInfo) : Prop :=
  (∀ change ∈ taken, change.previousRevision < change.currentRevision) ∧
    taken.IsChain fun earlier later => earlier.currentRevision = later.previousRevision

/-- The cursor never runs ahead of the graph, and it stands where the last
reported interval ended. -/
structure CursorTracks (s : System) : Prop where
  /-- Nothing is reported before the event exists. -/
  fresh : s.event = none → s.taken = []
  /-- The graph is at the cursor or ahead of it. -/
  behind : ∀ event ∈ s.event, event.cursor ≤ s.graph.revision
  /-- The last interval ended at the cursor. -/
  last : ∀ event ∈ s.event, ∀ change ∈ s.taken.getLast?, change.currentRevision = event.cursor
  /-- The intervals join up. -/
  contiguous : Contiguous s.taken

/-- Nothing was reported yet. -/
theorem CursorTracks.initial : CursorTracks .initial where
  fresh _ := rfl
  behind _ h := by cases h
  last _ h := by cases h
  contiguous := ⟨by simp [System.initial], by simp [System.initial]⟩

/-- The graph may only move on, and the flags are not tracked. -/
theorem CursorTracks.advance {s s' : System} (h : CursorTracks s)
    (hgraph : s.graph.revision ≤ s'.graph.revision)
    (hcursor : s'.event.map (·.cursor) = s.event.map (·.cursor)) (htaken : s'.taken = s.taken) :
    CursorTracks s' := by
  have hback : ∀ event' ∈ s'.event, ∃ event ∈ s.event, event.cursor = event'.cursor := by
    intro event' hevent'
    rw [Option.mem_def] at hevent'
    rw [hevent', Option.map_some] at hcursor
    exact Option.map_eq_some_iff.mp hcursor.symm
  constructor
  · intro hnone
    rw [hnone, Option.map_none] at hcursor
    rw [htaken]
    exact h.fresh (Option.map_eq_none_iff.mp hcursor.symm)
  · intro event' hevent'
    obtain ⟨event, hevent, hsame⟩ := hback event' hevent'
    exact hsame ▸ (h.behind event hevent).trans hgraph
  · intro event' hevent' change hchange
    obtain ⟨event, hevent, hsame⟩ := hback event' hevent'
    rw [htaken] at hchange
    exact hsame ▸ h.last event hevent change hchange
  · exact htaken ▸ h.contiguous

/-- A successful take appends one more interval. -/
theorem CursorTracks.take {s : System} (h : CursorTracks s) {event : GraphEventState}
    (hevent : s.event = some event) (samples : List RemoteParticipantNodes) :
    CursorTracks (onEvent s event (.take samples)) := by
  obtain ⟨⟨samples', hfolds⟩, hcases⟩ := take_cases event s.contextShutdown samples s.graph
  obtain ⟨calls, hrun⟩ := ingestPending_calls samples' s.graph
  rw [← hfolds] at hrun
  have hmoves := revision_le_run hrun
  rcases hcases with ⟨hstay, hnone⟩ | ⟨-, hahead, hmoved, hreport⟩
  · refine h.advance hmoves ?_ ?_
    · simp only [onEvent, hstay, hevent]
    · simp only [onEvent, hnone, List.append_nil]
  · have hlast : ∀ event' ∈ (onEvent s event (.take samples)).event, event'.cursor =
        (GraphEvents.take event s.contextShutdown samples s.graph).2.2.revision := by
      intro event' hevent'
      simp only [onEvent, hmoved, Option.mem_some_iff] at hevent'
      exact hevent' ▸ rfl
    refine ⟨fun hnone => ?_, fun event' hevent' => (hlast event' hevent').le,
      fun event' hevent' change hchange => ?_, ?_, ?_⟩
    · cases hnone
    · simp only [onEvent, hreport, List.getLast?_append, List.getLast?_singleton, Option.some_or,
        Option.mem_some_iff] at hchange
      rw [hlast event' hevent', ← hchange]
    · intro change hchange
      simp only [onEvent, hreport] at hchange
      rcases List.mem_append.mp hchange with hold | hnew
      · exact h.contiguous.1 change hold
      · rw [List.mem_singleton.mp hnew]
        exact lt_of_le_of_ne ((h.behind event hevent).trans hmoves) (Ne.symm hahead)
    · simp only [onEvent, hreport]
      refine List.isChain_append.mpr ⟨h.contiguous.2, .singleton _, ?_⟩
      intro earlier hearlier later hlater
      cases hlater
      exact h.last event hevent earlier hearlier

/-- Every step tracks the cursor. -/
theorem CursorTracks.next {mode : RuntimeMode} {s : System} (h : CursorTracks s) {step : Step}
    (henabled : enabled s step) : CursorTracks (next mode s step) := by
  obtain ⟨calls, hrun⟩ := calls_next mode s step
  have hmoves := revision_le_run hrun
  cases step with
  | createEvent =>
    have hempty : s.taken = [] := h.fresh henabled.1
    refine ⟨fun hnone => ?_, ?_, ?_, h.contiguous⟩
    · cases hnone
    · rintro event ⟨⟩
      exact le_rfl
    · intro event _ change hchange
      simp [GraphEvents.next, hempty] at hchange
  | poll samples =>
    obtain ⟨event, hevent⟩ := Option.isSome_iff_exists.mp henabled
    refine h.advance hmoves ?_ ?_ <;> simp [GraphEvents.next, hevent, onEvent]
  | close =>
    obtain ⟨event, hevent⟩ := Option.isSome_iff_exists.mp henabled
    refine h.advance hmoves ?_ ?_ <;> simp [GraphEvents.next, hevent, onEvent]
  | take samples =>
    obtain ⟨event, hevent⟩ := Option.isSome_iff_exists.mp henabled
    have hstep : GraphEvents.next mode s (.take samples) = onEvent s event (.take samples) := by
      simp [GraphEvents.next, hevent]
    rw [hstep]
    exact h.take hevent samples
  | _ => exact h.advance hmoves rfl rfl

/-- Every reachable context has a linked graph. -/
theorem linked_reachable {mode : RuntimeMode} {ok : System → Step → Prop} {s : System}
    {steps : List Step} (hrun : (machine mode).RunWhen ok .initial steps s) :
    Linked s.graph.toTables := by
  obtain ⟨calls, hcalls⟩ := graph_run hrun
  exact linked_run hcalls

/-- Folding metadata in changes no participant. -/
theorem ingestPending_participants (samples : List RemoteParticipantNodes) (g : Graph) :
    (ingestPending samples g).participants = g.participants := by
  induction samples generalizing g with
  | nil => rfl
  | cons sample samples ih =>
    refine (ih (applyRemoteNodes sample.guidPrefix sample.nodes g)).trans ?_
    change (perform g (.applyRemoteNodes sample.guidPrefix sample.nodes)).participants = _
    rcases perform_tables g (.applyRemoteNodes sample.guidPrefix sample.nodes) with hsame | heffect
    · rw [hsame]
    · rw [heffect]
      exact (remoteNodesChange_frame sample.guidPrefix sample.nodes g.toTables).2.1

/-- A step that keeps the awaited participants keeps every reading steady. -/
theorem steady_next {mode : RuntimeMode} {s : System} {step : Step} {past : Graph} {c : CallId}
    {r : Reading} (hlinked : Linked past.toTables) (hreading : s.readings c = some r)
    (hsteady : r.Steady mode past s.graph) (hkeeps : KeepsAwaited mode s step) :
    r.Steady mode past (next mode s step).graph := by
  refine hsteady.later fun e he hshows => ?_
  rcases graph_next mode s step with ⟨call, rfl, heq⟩ | ⟨samples, heq⟩
  · rw [heq]
    refine perform_participant ?_ (hkeeps c r hreading e he hshows)
    obtain ⟨done, hsplit, -⟩ := hsteady.read
    have hpast : e ∈ past.endpoints.records := hsplit ▸ List.mem_append_right _ he
    rw [hsteady.unread e he hshows]
    exact (hlinked e hpast).2
  · rw [heq, ingestPending_participants]

/-- The view of every reading and every snapshot is one of the graph at some
point of the run. -/
structure Traced (mode : RuntimeMode) (steps : List Step) (s : System) : Prop where
  /-- Readings are steady since. -/
  readings : ∀ c r, s.readings c = some r → ∃ before past, before <+: steps ∧
    (machine mode).Run .initial before past ∧ r.Steady mode past.graph s.graph
  /-- Snapshots show that graph. -/
  snapshots : ∀ a ∈ s.snapshots, ∃ before past, before <+: steps ∧
    (machine mode).Run .initial before past ∧
      a = assembleSnapshot mode (atomicView past.graph)

/-- The readings that a step leaves alone stay traced. -/
theorem Traced.kept {mode : RuntimeMode} {steps : List Step} {s : System} {step : Step}
    (h : Traced mode steps s) (hkeeps : KeepsAwaited mode s step) {c : CallId} {r : Reading}
    (hreading : s.readings c = some r) : ∃ before past, before <+: steps ++ [step] ∧
      (machine mode).Run .initial before past ∧
        r.Steady mode past.graph (GraphEvents.next mode s step).graph := by
  obtain ⟨before, past, hbegins, hrun, hsteady⟩ := h.readings c r hreading
  exact ⟨before, past, hbegins.trans (List.prefix_append _ _), hrun,
    steady_next (linked_reachable hrun) hreading hsteady hkeeps⟩

/-- Nothing is read or assembled. -/
theorem Traced.beside {mode : RuntimeMode} {steps : List Step} {s : System} {step : Step}
    (h : Traced mode steps s) (hkeeps : KeepsAwaited mode s step)
    (hreadings : (GraphEvents.next mode s step).readings = s.readings)
    (hsnapshots : (GraphEvents.next mode s step).snapshots = s.snapshots) :
    Traced mode (steps ++ [step]) (GraphEvents.next mode s step) where
  readings := by
    rw [hreadings]
    exact fun c r hreading => h.kept hkeeps hreading
  snapshots := by
    rw [hsnapshots]
    intro a ha
    obtain ⟨before, past, hbegins, hrun, heq⟩ := h.snapshots a ha
    exact ⟨before, past, hbegins.trans (List.prefix_append _ _), hrun, heq⟩

/-- Every step that keeps the awaited participants keeps readings and snapshots
traced. -/
theorem Traced.next {mode : RuntimeMode} {steps : List Step} {s : System} {step : Step}
    (h : Traced mode steps s) (hrun : (machine mode).Run .initial steps s)
    (henabled : enabled s step) (hkeeps : KeepsAwaited mode s step) :
    Traced mode (steps ++ [step]) (GraphEvents.next mode s step) := by
  have hold : ∀ a ∈ s.snapshots, ∃ before past, before <+: steps ++ [step] ∧
      (machine mode).Run .initial before past ∧
        a = assembleSnapshot mode (atomicView past.graph) := by
    intro a ha
    obtain ⟨before, past, hbegins, hpast, heq⟩ := h.snapshots a ha
    exact ⟨before, past, hbegins.trans (List.prefix_append _ _), hpast, heq⟩
  cases step with
  | copyView c =>
    refine ⟨fun c' r hreading => ?_, hold⟩
    have hfound : Function.update s.readings c (some (Reading.start s.graph)) c' = some r := hreading
    by_cases hc : c' = c
    · rw [hc, Function.update_self] at hfound
      obtain rfl := Option.some.inj hfound
      exact ⟨steps, s, List.prefix_append _ _, hrun, steady_start mode s.graph⟩
    · rw [Function.update_of_ne hc] at hfound
      exact h.kept hkeeps hfound
  | readParticipant c =>
    refine ⟨fun c' r hreading => ?_, hold⟩
    have hfound : Function.update s.readings c ((s.readings c).map (Reading.next s.graph)) c' =
        some r := hreading
    by_cases hc : c' = c
    · rw [hc, Function.update_self] at hfound
      obtain ⟨r', hr', rfl⟩ := Option.map_eq_some_iff.mp hfound
      obtain ⟨before, past, hbegins, hpast, hsteady⟩ := h.readings c r' hr'
      exact ⟨before, past, hbegins.trans (List.prefix_append _ _), hpast, hsteady.next⟩
    · rw [Function.update_of_ne hc] at hfound
      exact h.kept hkeeps hfound
  | assemble c =>
    refine ⟨fun c' r hreading => ?_, fun a ha => ?_⟩
    · have hfound : Function.update s.readings c none c' = some r := hreading
      by_cases hc : c' = c
      · rw [hc, Function.update_self] at hfound
        cases hfound
      · rw [Function.update_of_ne hc] at hfound
        exact h.kept hkeeps hfound
    · rcases List.mem_append.mp ha with hbefore | hlast
      · exact hold a hbefore
      · obtain ⟨r, hr, rfl⟩ := Option.map_eq_some_iff.mp (Option.mem_toList.mp hlast)
        obtain ⟨before, past, hbegins, hpast, hsteady⟩ := h.readings c r hr
        have hend : r.unread = [] := by
          have htest : (s.readings c).any (fun r => r.unread.isEmpty) = true := henabled
          rw [hr] at htest
          exact List.isEmpty_iff.mp htest
        exact ⟨before, past, hbegins.trans (List.prefix_append _ _), hpast, hsteady.assembled hend⟩
  | poll samples =>
    obtain ⟨event, hevent⟩ := Option.isSome_iff_exists.mp henabled
    refine h.beside hkeeps ?_ ?_ <;> simp [GraphEvents.next, hevent, onEvent]
  | take samples =>
    obtain ⟨event, hevent⟩ := Option.isSome_iff_exists.mp henabled
    refine h.beside hkeeps ?_ ?_ <;> simp [GraphEvents.next, hevent, onEvent]
  | close =>
    obtain ⟨event, hevent⟩ := Option.isSome_iff_exists.mp henabled
    refine h.beside hkeeps ?_ ?_ <;> simp [GraphEvents.next, hevent, onEvent]
  | _ => exact h.beside hkeeps rfl rfl

/-- A run with a condition is a run. -/
theorem unconditioned {mode : RuntimeMode} {ok : System → Step → Prop} {s s' : System}
    {steps : List Step} (hrun : (machine mode).RunWhen ok s steps s') :
    (machine mode).Run s steps s' := Machine.run_of_exec hrun.exec_eq

/-- Runs that keep the awaited participants are traced. -/
theorem traced_run {mode : RuntimeMode} {steps : List Step} {s : System}
    (hrun : (machine mode).RunWhen (KeepsAwaited mode) .initial steps s) : Traced mode steps s := by
  induction hrun with
  | nil => exact ⟨nofun, nofun⟩
  | snoc hprev henabled hkeeps ih => exact ih.next (unconditioned hprev) henabled hkeeps

/-- A graph that is healthy after some calls was healthy before. -/
theorem healthy_before {g g' : Graph} {calls : List GraphCall}
    (hrun : DiscoveryGraph.machine.Run g calls g') (hhealthy : g'.health = .healthy) :
    g.health = .healthy := by
  induction hrun with
  | nil => exact hhealthy
  | snoc _ _ _ ih => exact ih (perform_healthy hhealthy).1

/-- From one point of a run to a later one. -/
theorem run_between {mode : RuntimeMode} {before after : List Step} {s s' : System}
    (hbegins : before <+: after) (hrun : (machine mode).Run .initial before s)
    (hrun' : (machine mode).Run .initial after s') : ∃ steps, (machine mode).Run s steps s' := by
  obtain ⟨steps, rfl⟩ := hbegins
  have hexec := hrun'.exec_eq
  rw [Machine.exec_append, hrun.exec_eq] at hexec
  exact ⟨steps, Machine.run_of_exec hexec⟩

/-- Two points of a run with one revision have one public snapshot, if the graph
stays healthy. -/
theorem snapshot_between {mode : RuntimeMode} {before after : List Step} {s s' : System}
    (hbegins : before <+: after) (hrun : (machine mode).Run .initial before s)
    (hrun' : (machine mode).Run .initial after s') (hhealthy : s'.graph.health = .healthy)
    (hrevision : s.graph.revision = s'.graph.revision) :
    assembleSnapshot mode (atomicView s.graph) = assembleSnapshot mode (atomicView s'.graph) := by
  obtain ⟨steps, hbetween⟩ := run_between hbegins hrun hrun'
  obtain ⟨calls, hcalls⟩ := graph_run hbetween
  exact snapshot_of_samePublic mode hrevision
    ((revision_run (linked_reachable hrun) hcalls hhealthy).2 hrevision)

/-- In whatever order. -/
theorem snapshot_of_revision {mode : RuntimeMode} {one other steps : List Step} {s s' final : System}
    (hone : one <+: steps) (hother : other <+: steps)
    (hrun : (machine mode).Run .initial one s) (hrun' : (machine mode).Run .initial other s')
    (hfinal : (machine mode).Run .initial steps final) (hhealthy : final.graph.health = .healthy)
    (hrevision : s.graph.revision = s'.graph.revision) :
    assembleSnapshot mode (atomicView s.graph) = assembleSnapshot mode (atomicView s'.graph) := by
  have hbefore : ∀ {before s}, before <+: steps → (machine mode).Run .initial before s →
      s.graph.health = .healthy := by
    intro before s hbegins hrun
    obtain ⟨rest, hbetween⟩ := run_between hbegins hrun hfinal
    obtain ⟨calls, hcalls⟩ := graph_run hbetween
    exact healthy_before hcalls hhealthy
  rcases List.prefix_or_prefix_of_prefix hone hother with hbegins | hbegins
  · exact snapshot_between hbegins hrun hrun' (hbefore hother hrun') hrevision
  · exact (snapshot_between hbegins hrun' hrun (hbefore hone hrun) hrevision.symm).symm

/-- A question whose answer is no was asked about a healthy graph that is not
ahead of the cursor. -/
theorem not_ready {event : GraphEventState} {samples : List RemoteParticipantNodes} {g : Graph}
    (hopen : event.closing = false) (hready : (logicallyReady event false samples g).1 = false) :
    (ingestPending samples g).health = .healthy ∧
      (ingestPending samples g).revision ≤ event.cursor := by
  unfold logicallyReady at hready
  rw [if_neg (by simp [hopen])] at hready
  dsimp only at hready
  split at hready
  · cases hready
  · next hhealthy => exact ⟨by simpa using hhealthy, by simpa using hready⟩

/-- What a revision stands for, between a point of a run and a later one. -/
structure RevisionNames (mode : RuntimeMode) (s s' : System) : Prop where
  /-- Equal revisions mean equal public graphs. -/
  graphs : s.graph.revision = s'.graph.revision →
    assembleSnapshot mode (atomicView s.graph) = assembleSnapshot mode (atomicView s'.graph)
  /-- A snapshot shows what the graph was at its revision. -/
  shown : ∀ a ∈ s'.snapshots, a.revision = s.graph.revision →
    a = assembleSnapshot mode (atomicView s.graph)
  /-- Equal revisions mean equal snapshots. -/
  snapshots : ∀ a ∈ s'.snapshots, ∀ b ∈ s'.snapshots, a.revision = b.revision → a = b
  /-- An open event is ready whenever the graph differs from what it was at the
  cursor, before or after the waiting metadata is folded in. -/
  ready : ∀ event ∈ s'.event, event.closing = false → s'.contextShutdown = false →
    event.cursor = s.graph.revision → ∀ samples,
      (assembleSnapshot mode (atomicView s.graph) ≠ assembleSnapshot mode (atomicView s'.graph) ∨
        assembleSnapshot mode (atomicView s.graph) ≠
          assembleSnapshot mode (atomicView (ingestPending samples s'.graph))) →
      (logicallyReady event s'.contextShutdown samples s'.graph).1 = true
  /-- The intervals that are reported grow and join up. -/
  contiguous : Contiguous s'.taken

/-- A revision names one public graph, on a graph that stays healthy and while no
participant leaves behind whose record a snapshot has still to look at. -/
theorem equal_revision_equal_graph (mode : RuntimeMode) (steps steps' : List Step)
    (s s' : System) (hrun : (machine mode).RunWhen (KeepsAwaited mode) .initial steps s)
    (hrest : (machine mode).RunWhen (KeepsAwaited mode) s steps' s')
    (hhealthy : s'.graph.health = .healthy) : RevisionNames mode s s' := by
  have hlinked := linked_reachable hrun
  have hall := unconditioned (hrun.append hrest)
  have htraced := traced_run (hrun.append hrest)
  obtain ⟨calls, hcalls⟩ := graph_run hrest
  have hsame : s.graph.revision = s'.graph.revision →
      assembleSnapshot mode (atomicView s.graph) = assembleSnapshot mode (atomicView s'.graph) :=
    fun hrevision => snapshot_of_samePublic mode hrevision
      ((revision_run hlinked hcalls hhealthy).2 hrevision)
  refine ⟨hsame, fun a ha hrevision => ?_, fun a ha b hb hrevision => ?_,
    fun event _ hopen hrunning hcursor samples hdiffers => ?_, ?_⟩
  · obtain ⟨before, past, hbegins, hpast, rfl⟩ := htraced.snapshots a ha
    exact snapshot_of_revision hbegins (List.prefix_append _ _) hpast (unconditioned hrun) hall
      hhealthy hrevision
  · obtain ⟨before, past, hbegins, hpast, rfl⟩ := htraced.snapshots a ha
    obtain ⟨before', past', hbegins', hpast', rfl⟩ := htraced.snapshots b hb
    exact snapshot_of_revision hbegins hbegins' hpast hpast' hall hhealthy hrevision
  · rw [hrunning]
    cases hready : (logicallyReady event false samples s'.graph).1 with
    | true => rfl
    | false =>
      obtain ⟨hfolded, hbehind⟩ := not_ready hopen hready
      obtain ⟨folds, hfolds⟩ := ingestPending_calls samples s'.graph
      -- Nothing moved since the cursor was set, so nothing public did.
      have hlow := revision_le_run hcalls
      have hhigh := revision_le_run hfolds
      have hafter : s.graph.revision = (ingestPending samples s'.graph).revision := by omega
      have hfoldedSame := (revision_run hlinked (hcalls.append hfolds) hfolded).2 hafter
      rcases hdiffers with hdiffers | hdiffers
      · exact absurd (hsame (by omega)) hdiffers
      · exact absurd (snapshot_of_samePublic mode hafter hfoldedSame) hdiffers
  · have htracks := (hrun.append hrest).invariant CursorTracks .initial
      fun s step hinv henabled _ => hinv.next henabled
    exact htracks.contiguous

/-- A sample GUID. -/
def sampleGuid (participant entity : UInt8) : Guid :=
  ⟨Vector.replicate 12 participant, Vector.replicate 4 entity⟩

/-- A remote publisher. -/
def samplePublisher : Announcement := ⟨.writer, text "rt/chatter", text "String", {}⟩

/-- An event is created, two changes are taken one after the other, and two
snapshots are assembled around the release of a node that keeps an endpoint. -/
def observed : List Step :=
  [.createEvent, .call (.addLocalNode (text "talker") (text "/")), .take [],
    .call (.addLocalEndpoint (sampleGuid 1 1) samplePublisher 1),
    .call (.applyEndpoint (sampleGuid 2 1) samplePublisher .added),
    .copyView 0, .call (.releaseLocalNode 1), .copyView 1, .readParticipant 1, .assemble 1,
    .readParticipant 0, .assemble 0,
    .take [⟨Vector.replicate 12 2, [⟨text "/", text "far", [], []⟩]⟩]]

/-- A test for runs in which no participant is announced or removed. -/
def nobodyLeaves (_ : System) : Step → Bool
  | .call (.applyParticipant _ _) => false
  | _ => true

/-- A run without participants keeps every awaited record. -/
theorem keepsAwaited_of_nobodyLeaves (s : System) (step : Step)
    (htest : nobodyLeaves s step = true) : KeepsAwaited .ros2 s step := by
  cases step with
  | call call =>
    rintro c r hreading e he hshows ⟨rfl, -⟩
    cases htest
  | _ => trivial

/-- The law over a run whose event was created first. -/
theorem equal_revision_equal_graph_observed :
    ∃ s', (machine .ros2).exec .initial observed = some s' ∧ s'.taken = [⟨0, 1⟩, ⟨1, 4⟩] ∧
      s'.snapshots.map (fun a => (a.revision,a.topicEndpoints.length)) = [(3, 2),(3, 2)] ∧
      RevisionNames .ros2 .initial s' := by
  have hend : ((machine .ros2).exec .initial observed).map (fun s' =>
      decide (s'.taken = [⟨0, 1⟩, ⟨1, 4⟩] ∧
        s'.snapshots.map (fun a => (a.revision,a.topicEndpoints.length)) = [(3, 2),(3, 2)] ∧
          s'.graph.health = .healthy)) = some true := by decide
  obtain ⟨s', hexec, hfinal⟩ := Option.map_eq_some_iff.mp hend
  obtain ⟨htaken, hsnapshots, hhealthy⟩ := of_decide_eq_true hfinal
  refine ⟨s', hexec, htaken, hsnapshots, ?_⟩
  exact equal_revision_equal_graph .ros2 [] observed .initial s' .nil
    (Machine.runWhen_of_exec nobodyLeaves keepsAwaited_of_nobodyLeaves hexec (by decide)) hhealthy

/-- A participant leaves after a view was copied and before its record is read. -/
def overtaken : List Step :=
  [.call (.applyEndpoint (sampleGuid 2 1) samplePublisher .added),
    .copyView 0, .readParticipant 0, .assemble 0,
    .copyView 1, .call (.applyParticipant (Vector.replicate 12 2) .removed), .readParticipant 1,
    .assemble 1]

/-- Two snapshots of one revision differ. -/
theorem overtaken_differs :
    ¬ ∀ mode steps s, (machine mode).Run .initial steps s → s.graph.health = .healthy →
      ∀ a ∈ s.snapshots, ∀ b ∈ s.snapshots, a.revision = b.revision → a = b := by
  intro hclaim
  have hend : ((machine .ros2).exec .initial overtaken).map (fun s =>
      (decide (s.graph.health = .healthy),
        s.snapshots.map fun a => (a.revision,a.topicEndpoints.length))) =
          some (true,[(1, 1),(1, 0)]) := by decide
  obtain ⟨s, hexec, hfinal⟩ := Option.map_eq_some_iff.mp hend
  obtain ⟨hhealthy, hsnapshots⟩ := Prod.mk.inj hfinal
  have hsame := hclaim .ros2 overtaken s (Machine.run_of_exec hexec) (of_decide_eq_true hhealthy)
  rcases hlist : s.snapshots with - | ⟨a, - | ⟨b, rest⟩⟩
  · simp [hlist] at hsnapshots
  · simp [hlist] at hsnapshots
  · simp only [hlist, List.map_cons, List.cons.injEq, Prod.mk.injEq] at hsnapshots
    obtain ⟨⟨hone, hlisted⟩, ⟨hother, hunlisted⟩, -⟩ := hsnapshots
    have heq := hsame a (by simp [hlist]) b (by simp [hlist]) (hone.trans hother.symm)
    rw [heq, hunlisted] at hlisted
    cases hlisted

end Dmw.GraphEvents
